import VvClient.Client.Flush
import VvClient.Proto.Message

/-! The session of the worker and its heartbeat. Instants and durations are numbers of
nanoseconds, and the clock is read by the caller. -/
namespace VvClient

def fromMillis (ms : ℕ) : ℕ := ms * 1000000

def fromSecs (s : ℕ) : ℕ := s * 1000000000

structure ConnectionConfig where
  connectTimeout? : Option ℕ
  maxTimeout? : Option ℕ
  retryInterval? : Option ℕ
  heartbeatEnable? : Option Bool
  heartbeatInterval? : Option ℕ
  heartbeatTimeout? : Option ℕ
  deriving DecidableEq, Repr

namespace ConnectionConfig

def connectTimeout (cfg : ConnectionConfig) : ℕ := cfg.connectTimeout?.getD (fromSecs 5)
def maxTimeout (cfg : ConnectionConfig) : ℕ := cfg.maxTimeout?.getD (fromSecs 10)
def retryInterval (cfg : ConnectionConfig) : ℕ := cfg.retryInterval?.getD (fromSecs 1)
def heartbeatEnable (cfg : ConnectionConfig) : Bool := cfg.heartbeatEnable?.getD true
def heartbeatInterval (cfg : ConnectionConfig) : ℕ := cfg.heartbeatInterval?.getD (fromSecs 10)
def heartbeatTimeout (cfg : ConnectionConfig) : ℕ := cfg.heartbeatTimeout?.getD (fromSecs 30)

end ConnectionConfig

/-- The part of `SignalConfig` that becomes the `ConnectionConfig`. -/
structure SignalConfig where
  heartbeatEnable : Option Bool
  heartbeatIntervalMs : Option ℤ
  heartbeatTimeoutMs : Option ℤ
  deriving DecidableEq, Repr

namespace SignalConfig

def positiveMillis (ms : Option ℤ) : Option ℕ :=
  ms.bind fun v => if v > 0 then some (fromMillis v.toNat) else none

def intoConnection (c : SignalConfig) : ConnectionConfig :=
  { connectTimeout? := none
    maxTimeout? := none
    retryInterval? := none
    heartbeatEnable? := c.heartbeatEnable
    heartbeatInterval? := positiveMillis c.heartbeatIntervalMs
    heartbeatTimeout? := positiveMillis c.heartbeatTimeoutMs }

lemma positiveMillis_getD_pos (ms : Option ℤ) {d : ℕ} (hd : 0 < d) :
    0 < (positiveMillis ms).getD d := by
  cases ms with
  | none => exact hd
  | some v =>
    by_cases hv : v > 0
    · simp only [positiveMillis, Option.bind_some, if_pos hv, Option.getD_some, fromMillis]
      omega
    · simpa only [positiveMillis, Option.bind_some, if_neg hv, Option.getD_none] using hd

theorem heartbeatInterval_pos (c : SignalConfig) : 0 < c.intoConnection.heartbeatInterval :=
  positiveMillis_getD_pos _ (by decide)

theorem heartbeatTimeout_pos (c : SignalConfig) : 0 < c.intoConnection.heartbeatTimeout :=
  positiveMillis_getD_pos _ (by decide)

end SignalConfig

structure Session where
  sessionId : String
  connId : String
  xfer : Xfer
  conn : Conn
  heartbeatStarted : Bool
  lastRxAt : ℕ
  lastHbAt : ℕ
  pendingHbSn : Option ℤ

namespace Session

/-- The session that `phase_open` builds, before its heartbeat is started. -/
def opened (sessionId connId : String) (xfer : Xfer) (conn : Conn) (now : ℕ) : Session :=
  ⟨sessionId,connId,xfer,conn,false,now,now,none⟩

def startHeartbeat (now : ℕ) (s : Session) : Session :=
  { s with heartbeatStarted := true, lastRxAt := now, lastHbAt := now, pendingHbSn := none }

def onRecv (now : ℕ) (s : Session) : Session := { s with lastRxAt := now }

def onHeartbeatSent (now : ℕ) (s : Session) : Session := { s with lastHbAt := now }

def heartbeatDue (now interval : ℕ) (s : Session) : Bool :=
  s.heartbeatStarted && interval ≤ now - s.lastHbAt

def heartbeatTimedOut (now timeout : ℕ) (s : Session) : Bool :=
  s.heartbeatStarted && timeout ≤ now - s.lastRxAt

def heartbeatDeadline (cfg : ConnectionConfig) (s : Session) : Option ℕ :=
  if !cfg.heartbeatEnable then none
  else if !s.heartbeatStarted then none
  else some (s.lastHbAt + cfg.heartbeatInterval)

def hasPendingHeartbeat (s : Session) : Bool := s.pendingHbSn.isSome

def setPendingHeartbeat (sn : ℤ) (s : Session) : Session := { s with pendingHbSn := some sn }

/-- The response is taken when it answers a heartbeat, and left to the caller otherwise. -/
def tryHandleHeartbeatResponse (ack : ℤ) (response : ServerResponse) : Prog Session Error Bool := do
  if response.typ ≠ some .hb then return false
  let status := response.status.getD default
  if status.code ≠ 0 then
    Prog.fail (.msg ("heartbeat failed: code " ++ toString status.code ++ ", reason " ++ status.reason))
  else do
    match (← Prog.get).pendingHbSn with
    | some pending =>
      if ack ≥ pending then Prog.modify fun s => { s with pendingHbSn := none }
      return true
    | none => return true

/-- Run a computation on the session's connection and queue. -/
def onWire {ε α : Type} (m : Prog (Conn × Xfer) ε α) : Prog Session ε α :=
  Prog.zoom (fun s => (s.conn,s.xfer)) (fun w s => { s with conn := w.1, xfer := w.2 }) m

def onXfer {ε α : Type} (m : Prog Xfer ε α) : Prog Session ε α :=
  Prog.zoom xfer (fun x s => { s with xfer := x }) m

/-- `Task::handle_heartbeat_tick` -/
def handleHeartbeatTick (cfg : ConnectionConfig) (body : String) (now : ℕ) :
    Prog Session Stop Unit := do
  if !cfg.heartbeatEnable then return
  if (← Prog.get).heartbeatTimedOut now cfg.heartbeatTimeout then
    Prog.fail (.err (.msg "heartbeat timeout"))
  else if (← Prog.get).heartbeatDue now cfg.heartbeatInterval then
    if !(← Prog.get).hasPendingHeartbeat then
      let sn ← Prog.mapError Stop.err (onXfer (Xfer.addQos1Json .request (.ok body) none))
      Prog.modify (setPendingHeartbeat sn)
      Prog.modify (onHeartbeatSent now)
      onWire Xfer.flushXfer

section Response
variable (ack : ℤ) (response : ServerResponse) (s : Session)

/-- Of the session, a response touches the pending heartbeat only. -/
lemma tryHandle_keeps :
    ∃ pending, ((tryHandleHeartbeatResponse ack response).run s).2 =
      { s with pendingHbSn := pending } := by
  unfold tryHandleHeartbeatResponse
  by_cases ht : response.typ ≠ some .hb
  · exact ⟨s.pendingHbSn,by simp [ht]⟩
  · by_cases hc : (response.status.getD default).code ≠ 0
    · exact ⟨s.pendingHbSn,by simp [ht, hc]⟩
    · obtain ⟨_,_,_,_,_,_,_,pendingHbSn⟩ := s
      cases pendingHbSn with
      | none => exact ⟨none,by simp [ht, hc]⟩
      | some pending =>
        by_cases ha : ack ≥ pending
        · exact ⟨none,by simp [ht, hc, ha]⟩
        · exact ⟨some pending,by simp [ht, hc, ha]⟩

variable {response}

lemma tryHandleHeartbeatResponse_other (h : response.typ ≠ some .hb) :
    (tryHandleHeartbeatResponse ack response).run s = (.ok false,s) := by
  simp [tryHandleHeartbeatResponse, h]

/-- The response to a heartbeat is never left to the caller. -/
lemma tryHandleHeartbeatResponse_hb (h : response.typ = some .hb) :
    ((tryHandleHeartbeatResponse ack response).run s).1 ≠ .ok false := by
  unfold tryHandleHeartbeatResponse
  by_cases hc : (response.status.getD default).code = 0
  · cases hp : s.pendingHbSn with
    | none => simp [h, hc, hp]
    | some sn => by_cases hs : sn ≤ ack <;> simp [h, hc, hp, hs]
  · simp [h, hc]

end Response

end Session
end VvClient
