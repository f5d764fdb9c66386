import Mathlib
import VvClient.Client.SendPosition
import VvClient.Client.Session
import VvClient.Lib.Machine

/-! The heartbeat over whole sessions: when a tick moves the deadline, and when a connection that
is declared dead was probed before. -/
namespace VvClient
namespace Session

/-- The session after a heartbeat was queued, before the flush. -/
def probing (body : String) (now : ℕ) (s : Session) : Session :=
  { s with
    xfer := ((Xfer.addQos1Json .request (.ok body) none).run s.xfer).2
    pendingHbSn := some (s.xfer.tailSn + 1)
    lastHbAt := now }

section Tick
variable {cfg : ConnectionConfig} {body : String} {now : ℕ} {s : Session}

theorem tick_timedOut (he : cfg.heartbeatEnable = true)
    (ht : s.heartbeatTimedOut now cfg.heartbeatTimeout = true) :
    (handleHeartbeatTick cfg body now).run s = (.error (.err (.msg "heartbeat timeout")),s) := by
  simp [handleHeartbeatTick, he, ht]

/-- With a heartbeat outstanding a tick in time does nothing at all. -/
theorem tick_pending (he : cfg.heartbeatEnable = true)
    (ht : s.heartbeatTimedOut now cfg.heartbeatTimeout = false) (hp : s.pendingHbSn.isSome) :
    (handleHeartbeatTick cfg body now).run s = (.ok (),s) := by
  have hp' : s.hasPendingHeartbeat = true := hp
  simp only [handleHeartbeatTick, he, Bool.not_true, Bool.false_eq_true, if_false,
    Prog.run_get_bind, ht]
  by_cases hd : s.heartbeatDue now cfg.heartbeatInterval = true
  · simp [hd, hp']
  · simp [hd]

theorem tick_probe (he : cfg.heartbeatEnable = true)
    (ht : s.heartbeatTimedOut now cfg.heartbeatTimeout = false)
    (hd : s.heartbeatDue now cfg.heartbeatInterval = true) (hp : s.pendingHbSn = none) :
    (handleHeartbeatTick cfg body now).run s = (onWire Xfer.flushXfer).run (s.probing body now) := by
  have hq : (Prog.mapError Stop.err (onXfer (Xfer.addQos1Json .request (.ok body) none))).run s =
      (.ok (s.xfer.tailSn + 1),
        { s with xfer := ((Xfer.addQos1Json .request (.ok body) none).run s.xfer).2 }) := by
    simp only [Prog.run_mapError, onXfer, Prog.run_zoom, Xfer.addQos1Json_ok]
    rfl
  simp only [handleHeartbeatTick, he, Bool.not_true, Bool.false_eq_true, if_false,
    Prog.run_get_bind, ht, hd, if_true, hasPendingHeartbeat, hp, Option.isSome_none, Bool.not_false,
    Prog.run_bind_ok hq, Prog.run_modify_bind]
  rfl

end Tick

/-- A heartbeat tick that returns `Ok` moves the deadline past the present exactly when no
heartbeat is outstanding (or it does not return `Ok`, because the timeout is reached). -/
theorem tick_progress_iff {cfg : ConnectionConfig} {s : Session} {now d : ℕ} (body : String)
    (he : cfg.heartbeatEnable = true) (hs : s.heartbeatStarted = true)
    (hi : 0 < cfg.heartbeatInterval)
    (hd : s.heartbeatDeadline cfg = some d) (hnow : d ≤ now) :
    (((handleHeartbeatTick cfg body now).run s).1 = .ok () →
      ∃ d', ((handleHeartbeatTick cfg body now).run s).2.heartbeatDeadline cfg = some d' ∧ now < d') ↔
    (s.pendingHbSn = none ∨ cfg.heartbeatTimeout ≤ now - s.lastRxAt) := by
  have hdl : d = s.lastHbAt + cfg.heartbeatInterval := by
    simpa [heartbeatDeadline, he, hs, eq_comm] using hd
  have hdue : s.heartbeatDue now cfg.heartbeatInterval = true := by
    simp only [heartbeatDue, hs, Bool.true_and, decide_eq_true_eq]
    omega
  by_cases hto : cfg.heartbeatTimeout ≤ now - s.lastRxAt
  · have hout : s.heartbeatTimedOut now cfg.heartbeatTimeout = true := by
      simp [heartbeatTimedOut, hs, hto]
    simp [tick_timedOut he hout, hto]
  · have hin : s.heartbeatTimedOut now cfg.heartbeatTimeout = false := by
      simp [heartbeatTimedOut, hs, hto]
    cases hp : s.pendingHbSn with
    | none =>
      rw [tick_probe he hin hdue hp]
      have hdeadline : ((onWire Xfer.flushXfer).run (s.probing body now)).2.heartbeatDeadline cfg =
          some (now + cfg.heartbeatInterval) := by
        simp [onWire, probing, heartbeatDeadline, he, hs]
      simp only [true_or, iff_true]
      exact fun _ => ⟨_,hdeadline,by omega⟩
    | some sn =>
      rw [tick_pending he hin (by simp [hp])]
      simp only [hd, Option.some.injEq, exists_eq_left', true_implies, reduceCtorEq, false_or, hto,
        iff_false, not_lt]
      exact hnow

/-- The first tick of a session, at the default configuration. -/
theorem first_tick_progress :
    let cfg := SignalConfig.intoConnection ⟨none,none,none⟩
    let s : Session := startHeartbeat 0 (opened "s" "c" Xfer.new (Conn.fresh fun _ => .sent) 0)
    let now := fromSecs 10
    (((handleHeartbeatTick cfg "hb" now).run s).1 = .ok () →
      ∃ d', ((handleHeartbeatTick cfg "hb" now).run s).2.heartbeatDeadline cfg = some d' ∧ now < d') ↔
    (s.pendingHbSn = none ∨ cfg.heartbeatTimeout ≤ now - s.lastRxAt) :=
  tick_progress_iff "hb" (by decide) (by decide) (by decide)
    (show _ = some (fromSecs 10) by decide) (by decide)

/-- At the next deadline with the first heartbeat unanswered, a tick leaves the deadline there. -/
theorem tick_no_progress :
    let cfg := SignalConfig.intoConnection ⟨none,some 10000,some 30000⟩
    let s : Session := { opened "s" "c" Xfer.new (Conn.fresh fun _ => .sent) 0 with
      heartbeatStarted := true, lastRxAt := 0, lastHbAt := fromMillis 10000, pendingHbSn := some 1 }
    let now := fromMillis 20000
    s.heartbeatDeadline cfg = some now ∧
      ((handleHeartbeatTick cfg "hb" now).run s).1 = .ok () ∧
      ((handleHeartbeatTick cfg "hb" now).run s).2.heartbeatDeadline cfg = some now := by
  decide

end Session
inductive HbEvent
  | received (time : ℕ)
  | probed (time : ℕ)
  deriving DecidableEq, Repr

/-- A session over time. The history holds the packets received and the heartbeats written, the
newest first; `armed` notes what the runs below are judged by. -/
structure Watched where
  session : Session
  now : ℕ
  up : Bool
  history : List HbEvent
  armed : Bool

inductive HbOp
  /-- a packet arrives that answers no heartbeat -/
  | receive (dt : ℕ) (ack sn : Option ℤ)
  /-- a response arrives -/
  | response (dt : ℕ) (ack : ℤ) (sn : Option ℤ) (response : ServerResponse)
  /-- the heartbeat deadline is reached, or passed by `dt` -/
  | tick (dt : ℕ)
  | reconnectSession (dt : ℕ) (ack sn : Option ℤ) (connId request : String)
      (answers : ℕ → SendResult)

def isHeartbeat (body : String) (p : Packet) : Bool :=
  p.typ == some PacketType.request.asNum && p.body == some body

/-- The time of the last packet received. -/
def lastReceived : List HbEvent → ℕ
  | [] => 0
  | .received t::_ => t
  | .probed _::h => lastReceived h

/-- A heartbeat was written after the last packet was received. -/
def ProbedSince : List HbEvent → Prop
  | .probed _::_ => True
  | _ => False

namespace Watched

def start (session : Session) (now : ℕ) : Watched :=
  ⟨session.startHeartbeat now,now,true,[.received now],false⟩

variable (cfg : ConnectionConfig) (body : String)

/-- What `written` adds to the history. -/
def noteWritten (body : String) (now : ℕ) (written : List Packet) (h : List HbEvent) :
    List HbEvent :=
  if written.any (isHeartbeat body) then .probed now::h else h

/-- `phase_work` takes the numbers of a packet and notes its arrival. -/
def arrive (s : Watched) (dt : ℕ) (ack sn : Option ℤ) : Watched :=
  { s with
    session := { s.session.onRecv (s.now+dt) with xfer := s.session.xfer.takeNumbers ack sn }
    now := s.now+dt
    history := .received (s.now+dt)::s.history
    armed := false }

/-- The time of a tick, when the worker waits for one. -/
def tickTime (s : Watched) (dt : ℕ) : Option ℕ :=
  if s.up then (s.session.heartbeatDeadline cfg).map (max (s.now+dt)) else none

def step (s : Watched) : HbOp → Watched
  | .receive dt ack sn => if s.up then s.arrive dt ack sn else s
  | .response dt ack sn response =>
    if s.up then
      let a := s.arrive dt (some ack) sn
      let r := (Session.tryHandleHeartbeatResponse ack response).run a.session
      { a with session := r.2, up := r.1.isOk }
    else s
  | .tick dt =>
    match s.tickTime cfg dt with
    | none => s
    | some now =>
      let r := (Session.handleHeartbeatTick cfg body now).run s.session
      { session := r.2
        now := now
        up := r.1.isOk
        history := noteWritten body now (r.2.conn.sent.drop s.session.conn.sent.length) s.history
        armed := s.armed || (s.session.pendingHbSn.isNone &&
          now - lastReceived s.history < cfg.heartbeatTimeout &&
          s.session.xfer.sendIndex ≤ s.session.xfer.que.length) }
  | .reconnectSession dt ack sn connId request answers =>
    let x := s.session.xfer.takeNumbers ack sn
    let conn := Conn.opened request answers
    let session := { s.session with xfer := x, conn := conn, connId := connId }
    let r := (Session.onWire Xfer.flushXfer).run (session.startHeartbeat (s.now+dt))
    { session := r.2
      now := s.now+dt
      up := r.1.isOk
      history := noteWritten body (s.now+dt) (r.2.conn.sent.drop conn.sent.length)
        (.received (s.now+dt)::s.history)
      armed := (x.unsent.map (·.2)).any (isHeartbeat body) }

/-- `P` of the state and the time, where the operation is a tick. -/
def AtTick (P : Watched → ℕ → Prop) (s : Watched) : HbOp → Prop
  | .tick dt => ∀ now, s.tickTime cfg dt = some now → P s now
  | _ => True

/-- A tick that declares the connection dead comes after a probe and after the whole timeout. -/
def DeadAfterProbe (s : Watched) (now : ℕ) : Prop :=
  ((Session.handleHeartbeatTick cfg body now).run s.session).1 =
    .error (.err (.msg "heartbeat timeout")) →
  ProbedSince s.history ∧ cfg.heartbeatTimeout ≤ now - lastReceived s.history

/-- A tick that comes after the whole timeout finds the session armed: since the last packet was
received a tick came in time, with no heartbeat outstanding and the send position in the queue, or
the reconnect that received it still had a heartbeat to write. -/
def ArmedInTime (s : Watched) (now : ℕ) : Prop :=
  cfg.heartbeatTimeout ≤ now - lastReceived s.history → s.armed = true

/-- What holds of a session while its connection is up. -/
structure Watching (s : Watched) : Prop where
  started : s.session.heartbeatStarted = true
  rx : s.session.lastRxAt = lastReceived s.history
  armed : ProbedSince s.history ↔ s.armed = true

variable {cfg} {body} {s : Watched} {now : ℕ}

lemma probedSince_noteWritten {written : List Packet} {h : List HbEvent} :
    ProbedSince (noteWritten body now written h) ↔
      written.any (isHeartbeat body) = true ∨ ProbedSince h := by
  unfold noteWritten
  split_ifs with hw <;> simp [hw, ProbedSince]

@[simp] lemma lastReceived_noteWritten {written : List Packet} {h : List HbEvent} :
    lastReceived (noteWritten body now written h) = lastReceived h := by
  unfold noteWritten
  split_ifs <;> rfl

/-- What a complete flush writes are the packets that waited, and no heartbeat besides. -/
lemma any_written (body : String) {c : Conn} {x : Xfer} (h : (Xfer.flushXfer.run (c,x)).1 = .ok ()) :
    ((Xfer.flushXfer.run (c,x)).2.1.sent.drop c.sent.length).any (isHeartbeat body) =
      (x.unsent.map (·.2)).any (isHeartbeat body) := by
  obtain ⟨acks,hacks,hs⟩ := Xfer.flushXfer_sent c x
  rw [Xfer.flushXfer_ok h, List.take_length, List.append_assoc] at hs
  have ha : acks.any (isHeartbeat body) = false := by
    rw [List.any_eq_false]
    intro p hp
    rw [hacks p hp]
    simp [isHeartbeat, Packet.ackOnly]
  rw [hs, List.drop_left, List.any_append, ha, Bool.or_false]

/-- A heartbeat that was queued waits to be written when the send position is in the queue; when
it is not, nothing waits. -/
lemma any_unsent_probing (s : Session) (now : ℕ) :
    ((s.probing body now).xfer.unsent.map (·.2)).any (isHeartbeat body) =
      decide (s.xfer.sendIndex ≤ s.xfer.que.length) := by
  simp only [Session.probing, Xfer.addQos1Json_ok, Xfer.unsent, Xfer.fillAck_sendIndex]
  by_cases hi : s.xfer.sendIndex ≤ s.xfer.que.length
  · rw [List.drop_append_of_le_length hi, List.map_append, List.any_append, decide_eq_true hi]
    simp [isHeartbeat, Xfer.nextPacket]
  · have hl : (s.xfer.que ++ [(s.xfer.tailSn + 1,Xfer.nextPacket .request body none s.xfer)]).length
        ≤ s.xfer.sendIndex := by
      rw [List.length_append, List.length_singleton]
      omega
    rw [List.drop_eq_nil_of_le hl, decide_eq_false hi]
    rfl

lemma tickTime_eq_some {dt : ℕ} (h : s.tickTime cfg dt = some now) :
    s.up = true ∧ cfg.heartbeatEnable = true ∧ s.session.heartbeatStarted = true ∧
      s.session.lastHbAt + cfg.heartbeatInterval ≤ now := by
  unfold tickTime at h
  split at h
  · next hu =>
    rw [Option.map_eq_some_iff] at h
    obtain ⟨d,hd,rfl⟩ := h
    unfold Session.heartbeatDeadline at hd
    split_ifs at hd with he hs
    cases hd
    exact ⟨hu,by simpa using he,by simpa using hs,le_max_right _ _⟩
  · cases h

/-- A tick after the timeout declares the connection dead. -/
lemma tick_dead {dt : ℕ} (hw : s.Watching) (h : s.tickTime cfg dt = some now)
    (ht : cfg.heartbeatTimeout ≤ now - lastReceived s.history) :
    (Session.handleHeartbeatTick cfg body now).run s.session =
      (.error (.err (.msg "heartbeat timeout")),s.session) := by
  obtain ⟨-,he,hs,-⟩ := tickTime_eq_some h
  exact Session.tick_timedOut he (by simp [Session.heartbeatTimedOut, hs, hw.rx, ht])

/-- A tick in time does not, and keeps what is noted about the session while it stays up. -/
lemma tick_alive (body : String) {dt : ℕ} (hw : s.Watching) (h : s.tickTime cfg dt = some now)
    (ht : ¬ cfg.heartbeatTimeout ≤ now - lastReceived s.history) :
    ((Session.handleHeartbeatTick cfg body now).run s.session).1 ≠
        .error (.err (.msg "heartbeat timeout")) ∧
      ((step cfg body s (.tick dt)).up = true → (step cfg body s (.tick dt)).Watching) := by
  obtain ⟨hu,he,hs,hd⟩ := tickTime_eq_some h
  have hin : s.session.heartbeatTimedOut now cfg.heartbeatTimeout = false := by
    simp [Session.heartbeatTimedOut, hs, hw.rx, ht]
  have hdue : s.session.heartbeatDue now cfg.heartbeatInterval = true := by
    simp only [Session.heartbeatDue, hs, Bool.true_and, decide_eq_true_eq]
    omega
  simp only [step, h]
  cases hp : s.session.pendingHbSn with
  | some sn =>
    rw [Session.tick_pending he hin (by simp [hp])]
    refine ⟨by simp,fun _ => ⟨hs,?_,?_⟩⟩
    · simpa using hw.rx
    · simpa [probedSince_noteWritten] using hw.armed
  | none =>
    rw [Session.tick_probe he hin hdue hp]
    rcases hr : (Xfer.flushXfer.run (s.session.conn,(s.session.probing body now).xfer)).1 with e | u
    · have hrun : ((Session.onWire Xfer.flushXfer).run (s.session.probing body now)).1 = .error e := hr
      simp only [hrun]
      refine ⟨?_,fun h => nomatch h⟩
      rcases Xfer.flushXfer_error hr with rfl | rfl <;> simp [Error.msg]
    · have hrun : ((Session.onWire Xfer.flushXfer).run (s.session.probing body now)).1 = .ok u := hr
      simp only [hrun]
      refine ⟨by simp,fun _ => ⟨hs,?_,?_⟩⟩
      · rw [lastReceived_noteWritten]
        exact hw.rx
      · have hany := (any_written body hr).trans (any_unsent_probing s.session now)
        rw [probedSince_noteWritten, hw.armed]
        change ((Xfer.flushXfer.run (s.session.conn,_)).2.1.sent.drop _).any _ = true ∨ _ ↔ _
        rw [hany]
        simp [not_le.mp ht, or_comm]

lemma arrive_watching (hw : s.Watching) (dt : ℕ) (ack sn : Option ℤ) :
    (s.arrive dt ack sn).Watching :=
  ⟨hw.started,rfl,by simp [arrive, ProbedSince]⟩

lemma reconnect_watching {dt : ℕ} {ack sn : Option ℤ} {connId request : String}
    {answers : ℕ → SendResult}
    (hu : (step cfg body s (.reconnectSession dt ack sn connId request answers)).up = true) :
    (step cfg body s (.reconnectSession dt ack sn connId request answers)).Watching := by
  cases hr : (Xfer.flushXfer.run (Conn.opened request answers,
      s.session.xfer.takeNumbers ack sn)).1 with
  | error e =>
    have hup : (step cfg body s (.reconnectSession dt ack sn connId request answers)).up = false :=
      congrArg Except.isOk hr
    exact absurd hu (by simp [hup])
  | ok u =>
    refine ⟨rfl,?_,?_⟩
    · exact (lastReceived_noteWritten (h := .received (s.now+dt)::s.history)).symm
    · simp only [step, probedSince_noteWritten, Session.onWire, Prog.run_zoom, Session.startHeartbeat]
      rw [any_written body hr]
      simp [ProbedSince]

/-- One step: a session is watched as long as it is up. -/
lemma step_watching (hw : s.up = true → s.Watching) {op : HbOp}
    (hu : (step cfg body s op).up = true) : (step cfg body s op).Watching := by
  cases op with
  | receive dt ack sn =>
    by_cases h : s.up = true
    · simpa only [step, if_pos h] using arrive_watching (hw h) dt ack sn
    · simp only [step, if_neg h] at hu
      exact absurd hu h
  | response dt ack sn response =>
    by_cases h : s.up = true
    · have ha := arrive_watching (hw h) dt (some ack) sn
      obtain ⟨pending,hs⟩ := Session.tryHandle_keeps ack response (s.arrive dt (some ack) sn).session
      simp only [step, if_pos h, hs]
      exact ⟨ha.started,ha.rx,ha.armed⟩
    · simp only [step, if_neg h] at hu
      exact absurd hu h
  | tick dt =>
    cases ht : s.tickTime cfg dt with
    | none =>
      simp only [step, ht] at hu ⊢
      exact hw hu
    | some now =>
      have hw' := hw (tickTime_eq_some ht).1
      by_cases hto : cfg.heartbeatTimeout ≤ now - lastReceived s.history
      · have hup : (step cfg body s (.tick dt)).up = false := by
          simp only [step, ht, tick_dead hw' ht hto]
          rfl
        exact absurd hu (by simp [hup])
      · exact (tick_alive body hw' ht hto).2 hu
  | reconnectSession dt ack sn connId request answers => exact reconnect_watching hu

/-- One tick: the timeout comes after a probe exactly when the session is armed by then. -/
lemma deadAfterProbe_tick {dt : ℕ} (hw : s.Watching) (h : s.tickTime cfg dt = some now) :
    s.DeadAfterProbe cfg body now ↔ s.ArmedInTime cfg now := by
  by_cases hto : cfg.heartbeatTimeout ≤ now - lastReceived s.history
  · simp only [DeadAfterProbe, ArmedInTime, tick_dead hw h hto, hto, true_implies, and_true]
    exact hw.armed
  · have hne := (tick_alive body hw h hto).1
    simp only [DeadAfterProbe, ArmedInTime, hne, hto, false_implies]

open Machine

/-- Whole sessions: every heartbeat timeout comes after a probe exactly when every tick after the
timeout finds the session armed. -/
theorem deadAfterProbe_iff (c : SignalConfig) (body : String) (session : Session) (now : ℕ)
    (ops : List HbOp) :
    EveryStep (step c.intoConnection body) (AtTick c.intoConnection (DeadAfterProbe c.intoConnection body))
        (start session now) ops ↔
      EveryStep (step c.intoConnection body) (AtTick c.intoConnection (ArmedInTime c.intoConnection))
        (start session now) ops := by
  have hone : ∀ (s : Watched) (op : HbOp), (s.up = true → s.Watching) →
      (AtTick c.intoConnection (DeadAfterProbe c.intoConnection body) s op ↔
        AtTick c.intoConnection (ArmedInTime c.intoConnection) s op) := by
    intro s op hw
    cases op with
    | tick dt =>
      refine forall₂_congr fun now h => ?_
      exact deadAfterProbe_tick (hw (tickTime_eq_some h).1) h
    | _ => exact Iff.rfl
  have hstart : (start session now).up = true → (start session now).Watching :=
    fun _ => ⟨rfl,rfl,by simp [start, ProbedSince]⟩
  refine everyStep_iff (I := fun s : Watched => s.up = true → s.Watching) ?_ ?_ hstart ops
  · intro s op hw hg
    exact ⟨step_watching hw,(hone s op hw).mpr hg⟩
  · intro s op hw hg hq
    exact hg ((hone s op hw).mp hq)

/-- With an interval of thirty seconds and a timeout of ten, the first tick of an idle session
declares its connection dead although nothing was probed. -/
theorem dead_before_probe :
    let cfg := SignalConfig.intoConnection ⟨none,some 30000,some 10000⟩
    let s := start (Session.opened "s" "c" Xfer.new (Conn.opened "o" fun _ => .sent) 0) 0
    ¬ AtTick cfg (DeadAfterProbe cfg "hb") s (.tick 0) := by
  intro cfg s h
  exact (h (fromMillis 30000) (by decide) (by decide)).1

end Watched
end VvClient
