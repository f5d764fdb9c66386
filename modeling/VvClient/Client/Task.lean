import VvClient.Client.Session

/-! The worker task: it opens a session, works on it, and reconnects until it is told to stop.
Whatever the task waits for is given by a script, so a run is a function of its script. -/
namespace VvClient

inductive ShutdownMode
  | none
  | graceful
  | force
  deriving DecidableEq, Repr

inductive RecvCancelMode
  | connect
  | work
  deriving DecidableEq, Repr

def RecvCancelMode.shouldBreak : RecvCancelMode → ShutdownMode → Bool
  | connect,mode => mode ≠ .none
  | work,mode => mode = .force

/-- The configuration of a task, with the body of the open request that it makes. -/
structure JoinConfig where
  openRequest : String
  token : Option String
  connection : ConnectionConfig
  deriving DecidableEq, Repr

/-- What ends one wait of the task. -/
inductive Wait
  /-- `rx.recv()` returns a token -/
  | token
  /-- `rx.recv()` returns `None`: the handle was dropped -/
  | dropped
  /-- the time of a `sleep_until` comes -/
  | timer
  /-- the `timeout` around the whole phase runs out -/
  | elapsed
  | connected (answers : ℕ → SendResult)
  | connectFailed (e : Error)
  | connectTimeout
  /-- `recv_next_packet` returns a text -/
  | text (raw : String)
  /-- `recv_next_packet` returns `None` -/
  | noText
  | recvFailed (e : Error)

/-- What the task has taken in and acted upon. -/
inductive Heard
  | openReply (raw : String)
  | reconnectReply (p : Packet)
  | work (p : Packet)
  | dropped
  /-- `rx.is_closed()` reads true after `phase_work` has failed -/
  | rxClosed (e : Error)
  deriving DecidableEq, Repr

/-- A call of the delegate. A call for a received packet names the packet. -/
inductive Call
  | onOpening
  | onOpened (sessionId : String)
  | onClosed (status : Status)
  | onProcess
  | onResponse (p : Packet) (ack : ℤ) (response : ServerResponse)
  | onPush (p : Packet) (push : ServerPush)

/-- The script of the run, and what happened so far: what the task heard, and the calls of the
delegate with whether each returned `Ok`. -/
structure Env where
  now : ℕ
  waits : List (ℕ × Wait)
  /-- what the loads of `shutdown_mode` read -/
  modes : ℕ → ShutdownMode
  /-- what `rx.is_closed()` reads before `rx.recv()` has returned `None` -/
  drops : ℕ → Bool
  rxClosed : Bool
  heard : List Heard
  calls : List (Call × Bool)

/-- The `Delegate` trait. Of the session an implementation reaches the id and the queue. -/
structure Delegate (δ : Type) where
  onOpening : Prog (δ × Xfer) Error Unit
  onOpened : String → Prog (δ × Xfer) Error Unit
  onClosed : Status → Prog δ Error Unit
  onProcess : Prog (δ × Xfer) Error Unit
  onResponse : ℤ → ServerResponse → Prog (δ × Xfer) Error Unit
  onPush : ServerPush → Prog (δ × Xfer) Error Unit

structure Task (δ : Type) where
  config : JoinConfig
  gotClosed : Option Status
  listener : δ
  reconnectTrySeq : ℤ
  reconnectLastSuccessSeq : ℤ
  env : Env

/-- The task that `Worker::try_new` spawns, with the script of its run. -/
def Task.new {δ : Type} (config : JoinConfig) (listener : δ) (now : ℕ) (waits : List (ℕ × Wait))
    (modes : ℕ → ShutdownMode) (drops : ℕ → Bool) : Task δ :=
  ⟨config,none,listener,0,0,⟨now,waits,modes,drops,false,[],[]⟩⟩

def reconnectMagic : ℤ := 20250901

/-- `parse_open_response_packet`: the session id and the connection id. Any status is an error. -/
def parseOpenResponsePacket (serde : Serde) (p : Packet) : Except Error (String × String) :=
  if p.typ? ≠ some .response then .error (.msg "invalid packet type")
  else match p.body with
  | none => .error (.msg "empty body")
  | some body =>
    match serde.serverRsp body with
    | none => .error (.msg "invalid json")
    | some rsp =>
      match rsp.status,rsp.typ with
      | some status,_ => .error ((Error.ofStatus status).context "open response status")
      | none,none => .error (.msg "invalid response type")
      | none,some (.opened sessionId connId) => .ok (sessionId,connId)
      | none,some _ => .error (.msg "unexpect response type")

/-- `parse_reconnect_response_packet`: the connection id. A status of code zero is no error. -/
def parseReconnectResponsePacket (serde : Serde) (p : Packet) : Except Error String :=
  if p.typ? ≠ some .response then .error (.msg "invalid packet type")
  else match p.body with
  | none => .error (.msg "empty body")
  | some body =>
    match serde.serverRsp body with
    | none => .error (.msg "invalid json")
    | some rsp =>
      if (rsp.status.getD default).code ≠ 0 then .error (.ofStatus (rsp.status.getD default))
      else match rsp.typ with
      | none => .error (.msg "invalid response type")
      | some (.reconn connId) => .ok connId
      | some _ => .error (.msg "unexpect response type")

namespace Task

variable {δ α : Type}

/-- Wait for the next thing that the script brings. -/
def wait : Prog (Task δ) Stop Wait := ⟨fun t =>
  match t.env.waits with
  | [] => (.error .pending,t)
  | (dt,w)::waits => (.ok w,{ t with env := { t.env with now := t.env.now + dt, waits := waits } })⟩

def shutdownMode : Prog (Task δ) Stop ShutdownMode := ⟨fun t =>
  (.ok (t.env.modes 0),{ t with env := { t.env with modes := fun n => t.env.modes (n+1) } })⟩

def shouldBreak (mode : RecvCancelMode) : Prog (Task δ) Stop Bool := do
  return mode.shouldBreak (← shutdownMode)

/-- `rx.is_closed()` -/
def isClosed : Prog (Task δ) Stop Bool := ⟨fun t =>
  (.ok (t.env.rxClosed || t.env.drops 0),
    { t with env := { t.env with drops := fun n => t.env.drops (n+1) } })⟩

def hear (h : Heard) : Prog (Task δ) Stop Unit :=
  Prog.modify fun t => { t with env := { t.env with heard := t.env.heard ++ [h] } }

/-- `Flag::check_guard` after `rx.recv()` has returned `None`; after a token it does nothing. -/
def checkGuard : Prog (Task δ) Stop α := do
  Prog.modify fun t => { t with env := { t.env with rxClosed := true } }
  hear .dropped
  Prog.modify fun t => { t with gotClosed := some default }
  Prog.fail (.err (.msg "got closed"))

/-- Call the delegate and note the call. -/
def call (c : Call) (m : Prog δ Error α) : Prog (Task δ) Stop α := ⟨fun t =>
  let r := m.run t.listener
  (r.1.mapError .err,
    { t with listener := r.2, env := { t.env with calls := t.env.calls ++ [(c,r.1.isOk)] } })⟩

section Receive
variable (serde : Serde) (fuel : ℕ) (mode : RecvCancelMode)

def recvRaw : Prog (Task δ) Stop (Option String) :=
  Prog.loop .pending (do
    match ← wait with
    | .token =>
      -- both sides of the test return `None`
      let _ ← shouldBreak mode
      return some none
    | .dropped => checkGuard
    | .text raw => return some (some raw)
    | .noText => return none
    | .recvFailed e => Prog.fail (.err (e.context "wait_next_recv failed"))
    | .timer => Prog.fail .timer
    | .elapsed => Prog.fail .elapsed
    | _ => Prog.fail .pending) fuel

def recvPacket : Prog (Task δ) Stop (Option Packet) := do
  match ← recvRaw fuel mode with
  | none => return none
  | some raw =>
    match serde.packet raw with
    | none => Prog.fail (.err (.msg "parse packet failed"))
    | some packet => return some packet

/-- Sleep for `d`. A channel that is closed already is ready at once, before the timer. -/
def sleep (d : ℕ) : Prog (Task δ) Stop Bool := do
  let deadline := (← Prog.get).env.now + d
  if (← Prog.get).env.rxClosed then checkGuard
  else Prog.loop .pending (do
    match ← wait with
    | .token => if ← shouldBreak mode then return some false else return none
    | .dropped => checkGuard
    | .timer =>
      Prog.modify fun t => { t with env := { t.env with now := max t.env.now deadline } }
      return some true
    | .elapsed => Prog.fail .elapsed
    | _ => Prog.fail .pending) fuel

def connectTo : Prog (Task δ) Stop Conn := do
  let cfg := (← Prog.get).config.connection
  if (← Prog.get).env.rxClosed then checkGuard
  else Prog.loop .pending (do
    match ← wait with
    | .token =>
      if ← shouldBreak mode then Prog.fail (.err (.msg "connect canceled")) else return none
    | .dropped => checkGuard
    | .connected answers => return some (Conn.fresh answers)
    | .connectFailed e => Prog.fail (.err e)
    | .connectTimeout =>
      Prog.fail (.err (.msg ("reach connect timeout [" ++ serde.duration cfg.connectTimeout ++ "]")))
    | .elapsed => Prog.fail .elapsed
    | _ => Prog.fail .pending) fuel

def connectLoop : Prog (Task δ) Stop Conn := do
  if ← shouldBreak mode then Prog.fail (.err (.msg "connect canceled"))
  else Prog.loop .pending (do
    match ← Prog.catching (connectTo serde fuel mode) with
    | .ok conn => return some conn
    | .error e =>
      if ← shouldBreak mode then Prog.fail (.err e)
      else if ← sleep fuel mode (← Prog.get).config.connection.retryInterval then return none
      else Prog.fail (.err (.msg "connect canceled"))) fuel

end Receive

/-- Run a computation on a connection that the caller holds. -/
def onConn (m : Prog Conn Stop Unit) (conn : Conn) : Prog (Task δ) Stop Conn := ⟨fun t =>
  ((m.run conn).1.map fun _ => (m.run conn).2,t)⟩

section Open
variable (d : Delegate δ) (serde : Serde) (fuel : ℕ)

def openSessionSend (conn : Conn) : Prog (Task δ) Stop Conn := do
  let packet : Packet :=
    ⟨some PacketType.request.asNum,none,some (← Prog.get).config.openRequest,none⟩
  Prog.withContext "send_packet failed" (onConn (Conn.sendPacket packet) conn)

/-- `on_opening` with the queue that it fills. -/
def callOpening : Prog (Task δ) Stop Xfer :=
  call .onOpening ⟨fun l => ((d.onOpening.run (l,Xfer.new)).1.map fun _ => (d.onOpening.run (l,Xfer.new)).2.2,
    (d.onOpening.run (l,Xfer.new)).2.1)⟩

/-- Run a flush of a queue that the caller holds. -/
def flushOn (conn : Conn) (xfer : Xfer) : Prog (Task δ) Stop (Conn × Xfer) := ⟨fun t =>
  ((Xfer.flushXfer.run (conn,xfer)).1.map fun _ => (Xfer.flushXfer.run (conn,xfer)).2,t)⟩

def openSession (conn : Conn) : Prog (Task δ) Stop (Conn × String × Xfer) := do
  let conn ← Prog.withContext "open_session_send failed" (openSessionSend conn)
  let xfer ← callOpening d
  let (conn,xfer) ← flushOn conn xfer
  Prog.loop .pending (do
    match ← Prog.withContext "recv_raw failed" (recvRaw fuel .connect) with
    | some raw =>
      hear (.openReply raw)
      return some (conn,raw,xfer)
    | none =>
      if ← shouldBreak .connect then Prog.fail (.err (.msg "open canceled")) else return none) fuel

def openLoop : Prog (Task δ) Stop (Conn × String × Xfer) :=
  Prog.loop .pending (do
    let conn ← connectLoop serde fuel .connect
    match ← Prog.catching (openSession d fuel conn) with
    | .ok r => return some r
    | .error e =>
      if ← shouldBreak .connect then Prog.fail (.err e)
      else if ← sleep fuel .connect (← Prog.get).config.connection.retryInterval then return none
      else Prog.fail (.err (.msg "open canceled"))) fuel

end Open

/-- The part of the task that has a session. -/
def onTask (m : Prog (Task δ) Stop α) : Prog (Task δ × Session) Stop α :=
  Prog.zoom Prod.fst (fun t s => (t,s.2)) m

def onSession (m : Prog Session Stop α) : Prog (Task δ × Session) Stop α :=
  Prog.zoom Prod.snd (fun x s => (s.1,x)) m

/-- Call the delegate with the session. -/
def callWith (c : Call) (m : Prog (δ × Xfer) Error Unit) : Prog (Task δ × Session) Stop Unit :=
  ⟨fun s =>
    let r := m.run (s.1.listener,s.2.xfer)
    (r.1.mapError .err,
      ({ s.1 with
          listener := r.2.1
          env := { s.1.env with calls := s.1.env.calls ++ [(c,r.1.isOk)] } },
        { s.2 with xfer := r.2.2 }))⟩

section Work
variable (d : Delegate δ) (serde : Serde) (fuel : ℕ)

def maxTimeoutText (t : Task δ) : String :=
  "reach max timeout [" ++ serde.duration t.config.connection.maxTimeout ++ "]"

def phaseOpen : Prog (Task δ) Stop Session := do
  let text := (← Prog.get).maxTimeoutText serde
  let (conn,raw,xfer) ← Prog.timeout text (openLoop d serde fuel)
  match serde.packet raw with
  | none => Prog.fail (.err (.msg "recv raw but invalid packet"))
  | some packet =>
    let (sessionId,connId) ← Prog.withContext "parse_open_response_packet failed"
      (Prog.ofExcept ((parseOpenResponsePacket serde packet).mapError .err))
    let now := (← Prog.get).env.now
    let session := (Session.opened sessionId connId xfer conn now).startHeartbeat now
    let listener := (← Prog.get).listener
    let r := (d.onOpened sessionId).run (listener,session.xfer)
    -- an error of `on_opened` is only logged
    let _ ← Prog.catching (call (.onOpened sessionId) ⟨fun _ => (r.1,r.2.1)⟩)
    return { session with xfer := r.2.2 }

def tryHandleOp : Prog (Task δ × Session) Stop Unit := do
  Prog.withContext "on_process failed" (callWith .onProcess d.onProcess)
  onSession (Session.onWire Xfer.flushXfer)

/-- `select!` between a computation and `sleep_until(deadline)`; `none` is the deadline. -/
def orTick (deadline : Option ℕ) (m : Prog (Task δ × Session) Stop α) :
    Prog (Task δ × Session) Stop (Option α) := ⟨fun s =>
  match m.run s with
  | (.ok a,s') => (.ok (some a),s')
  | (.error .timer,s') =>
    match deadline with
    | some deadline =>
      (.ok none,({ s'.1 with env := { s'.1.env with now := max s'.1.env.now deadline } },s'.2))
    | none => (.error .pending,s')
  | (.error stop,s') => (.error stop,s')⟩

/-- The Closed push: acknowledge it, close the connection, and note the status. -/
def gotClosedPush (status : Option Status) : Prog (Task δ × Session) Stop Unit := do
  let _ ← Prog.catching (onSession (Session.onWire Xfer.flushXferAck))
  let _ ← Prog.catching (onSession (Session.onWire (Xfer.onConn Conn.sendCloseFrame)))
  onTask (Prog.modify fun t => { t with gotClosed := some (status.getD default) })

/-- A response in `phase_work`; `some` leaves the loop. -/
def dispatchResponse (packet : Packet) : Prog (Task δ × Session) Stop (Option Unit) := do
  let ack ← Prog.ofExcept (match packet.ack with
    | some ack => .ok ack
    | none => .error (.err (.msg "no ack field in response")))
  let typed ← Prog.ofExcept ((packet.parseAsServerRsp serde).mapError .err)
  if ← onSession (Prog.mapError .err (Session.tryHandleHeartbeatResponse ack typed)) then return none
  else do
    callWith (.onResponse packet ack typed) (d.onResponse ack typed)
    return none

/-- A push in `phase_work`. -/
def dispatchPush (packet : Packet) : Prog (Task δ × Session) Stop (Option Unit) := do
  match ← Prog.ofExcept ((packet.parseAsServerPush serde).mapError .err) with
  | .closed status =>
    gotClosedPush status
    return some ()
  | push =>
    callWith (.onPush packet push) (d.onPush push)
    return none

def dispatch (packet : Packet) : Prog (Task δ × Session) Stop (Option Unit) :=
  match packet.typ? with
  | none => pure none
  | some .response => dispatchResponse d serde packet
  | some .push0 => dispatchPush d serde packet
  | some .push1 => dispatchPush d serde packet
  | some .push2 => dispatchPush d serde packet
  | some .request => Prog.fail (.err (.msg "unknown packet"))

def phaseWork : Prog (Task δ × Session) Stop Unit :=
  Prog.loop .pending (do
    Prog.withContext "try_handle_msgs failed" (tryHandleOp d)
    let deadline := (← Prog.get).2.heartbeatDeadline (← Prog.get).1.config.connection
    match ← orTick deadline
      (Prog.withContext "recv_packet falied" (onTask (recvPacket serde fuel .work))) with
    | none =>
      let t := (← Prog.get).1
      onSession (Session.handleHeartbeatTick t.config.connection serde.heartbeatRequest t.env.now)
      return none
    | some none => if ← onTask (shouldBreak .work) then return some () else return none
    | some (some packet) =>
      onTask (hear (.work packet))
      let now := (← Prog.get).1.env.now
      onSession (Prog.modify fun s => (s.onRecv now))
      onSession (Prog.modify fun s => { s with xfer := s.xfer.takeNumbers packet.ack packet.sn? })
      dispatch d serde packet) fuel

def reconnectSession (conn : Conn) : Prog (Task δ × Session) Stop Unit := do
  onTask (Prog.modify fun t => { t with reconnectTrySeq := t.reconnectTrySeq + 1 })
  let (t,s) ← Prog.get
  let req : ReconnectRequest :=
    ⟨s.sessionId,t.config.token,t.reconnectTrySeq,t.reconnectLastSuccessSeq,reconnectMagic⟩
  let packet : Packet :=
    ⟨some PacketType.request.asNum,none,some (serde.reconnectRequest req),none⟩
  let conn ← onTask (Prog.withContext "send reconnect packet failed"
    (onConn (Conn.sendPacket packet) conn))
  Prog.loop .pending (do
    match ← onTask (Prog.withContext "recv reconnect response failed"
      (recvPacket serde fuel .work)) with
    | none =>
      if ← onTask (shouldBreak .work) then Prog.fail (.err (.msg "reconnect canceled"))
      else return none
    | some packet =>
      onTask (hear (.reconnectReply packet))
      let connId ← Prog.withContext "parse_reconnect_response_packet failed"
        (Prog.ofExcept ((parseReconnectResponsePacket serde packet).mapError .err))
      onSession (Prog.modify fun s => { s with xfer := s.xfer.takeNumbers packet.ack packet.sn? })
      let now := (← Prog.get).1.env.now
      onSession (Prog.modify fun s => ({ s with conn := conn, connId := connId } : Session).startHeartbeat now)
      onTask (Prog.modify fun t => { t with reconnectLastSuccessSeq := t.reconnectTrySeq })
      onSession (Session.onWire Xfer.flushXfer)
      return some ()) fuel

def reconnectLoop : Prog (Task δ × Session) Stop Unit :=
  Prog.loop .pending (do
    let conn ← onTask (connectLoop serde fuel .work)
    match ← Prog.catching (reconnectSession serde fuel conn) with
    | .ok _ => return some ()
    | .error e =>
      if ← onTask (shouldBreak .work) then Prog.fail (.err e)
      else if (e.status.getD default).code ≠ 0 then Prog.fail (.err e)
      else if ← onTask (sleep fuel .work (← Prog.get).1.config.connection.retryInterval) then return none
      else Prog.fail (.err (.msg "reconnect canceled"))) fuel

def phaseReconnect : Prog (Task δ × Session) Stop Unit := do
  let text := (← Prog.get).1.maxTimeoutText serde
  Prog.timeout text (reconnectLoop serde fuel)

/-- `r?` of `try_run`, where the handle was dropped: an error of `phase_work` ends the run. -/
def throwOn (r : Except Error Unit) : Prog (Task δ) Stop Unit :=
  match r with
  | .ok _ => pure ()
  | .error e => do
    hear (.rxClosed e)
    Prog.fail (.err e)

/-- What `try_run` does with the result of `phase_work` when no Closed push and no drop was seen. -/
def afterWork (r : Except Error Unit) : Prog (Task δ × Session) Stop (Option Unit) := do
  if ← onTask isClosed then do
    onTask (throwOn r)
    phaseReconnect serde fuel
    return none
  else match r with
    | .error e =>
      if (Status.ofError e).code = 0 then return some ()
      else do
        phaseReconnect serde fuel
        return none
    | .ok _ => do
      phaseReconnect serde fuel
      return none

/-- One round of the loop of `try_run`; `some` leaves the loop. -/
def workRound : Prog (Task δ × Session) Stop (Option Unit) := do
  let r ← Prog.catching (phaseWork d serde fuel)
  if (← Prog.get).1.gotClosed.isSome then return some ()
  else afterWork serde fuel r

def workLoop : Prog (Task δ × Session) Stop Unit :=
  Prog.loop .pending (workRound d serde fuel) fuel

def tryRun : Prog (Task δ) Stop Unit := do
  let session ← phaseOpen d serde fuel
  Prog.zoom (fun t => (t,session)) (fun s _ => s.1) (workLoop d serde fuel)

/-- The status that `run` closes the delegate with. -/
def closeStatus (r : Except Error Unit) : Prog (Task δ) Stop Status :=
  match r with
  | .ok _ => pure default
  | .error e => do
    match (← Prog.get).gotClosed with
    | some status =>
      Prog.modify fun t => { t with gotClosed := none }
      pure status
    | none => pure (Status.ofError (e.context "finished error"))

def run : Prog (Task δ) Stop Unit := do
  let r ← Prog.catching (tryRun d serde fuel)
  let status ← closeStatus r
  -- an error of `on_closed` is only logged
  let _ ← Prog.catching (call (.onClosed status) (d.onClosed status))

end Work
end Task
end VvClient
