import VvClient.Client.Ends
import VvClient.Client.Task

/-! What the worker does while it waits for a token, a timer, a connection or a text: none of it
concerns the delegate, the calls to it, or the packets at work. And what its phases keep, from what
their parts keep. -/
namespace VvClient
namespace Task

variable {δ : Type}

/-- The property looks at nothing that a wait changes. -/
structure Resting (J : Task δ → Prop) : Prop where
  same : ∀ t t' : Task δ, t'.listener = t.listener → t'.reconnectTrySeq = t.reconnectTrySeq →
    t'.reconnectLastSuccessSeq = t.reconnectLastSuccessSeq → t'.env.calls = t.env.calls →
    t'.env.heard = t.env.heard → J t → J t'
  dropped : Prog.Keeps J (hear .dropped)

/-- The property looks at nothing that changes while the worker waits. -/
structure Aside (J : Task δ → Prop) : Prop where
  same : ∀ t t' : Task δ, t'.listener = t.listener → t'.env.calls = t.env.calls →
    t'.env.heard = t.env.heard → J t → J t'
  hear : ∀ h, (∀ p, h ≠ .work p) → Prog.Keeps J (hear h)

lemma Aside.resting {J : Task δ → Prop} (hJ : Aside J) : Resting J :=
  ⟨fun t t' hl _ _ hc hh => hJ.same t t' hl hc hh,hJ.hear _ (by simp)⟩

lemma aside_calls (A : δ → List (Call × Bool) → Prop) : Aside fun t => A t.listener t.env.calls :=
  ⟨fun _ _ hl hc _ h => hc ▸ hl ▸ h,fun _ _ _ h => h⟩

open Prog

/-- A call whose error is only logged returns. -/
lemma catching_call_ok {α : Type} (c : Call) (m : Prog δ Error α) (t : Task δ) :
    ∃ r, ((catching (call c m)).run t).1 = .ok r := by
  cases hr : (m.run t.listener).1 <;> simp [catching, call, hr, Except.mapError]

namespace Resting

variable {J : Task δ → Prop} (hJ : Resting J) (serde : Serde) (mode : RecvCancelMode) (fuel : ℕ)
include hJ

lemma wait : Keeps J wait := by
  intro t h
  unfold Task.wait
  cases hw : t.env.waits with
  | nil =>
    simp only [hw]
    exact h
  | cons w ws =>
    simp only [hw]
    exact hJ.same t _ rfl rfl rfl rfl rfl h

lemma shouldBreak : Keeps J (shouldBreak mode) :=
  Keeps.bind (fun t h => hJ.same t _ rfl rfl rfl rfl rfl h) fun _ => Keeps.pure _

lemma isClosed : Keeps J isClosed := fun t h => hJ.same t _ rfl rfl rfl rfl rfl h

lemma closing : Keeps J (Prog.modify fun t => { t with env := { t.env with rxClosed := true } } :
    Prog (Task δ) Stop Unit) := fun t h => hJ.same t _ rfl rfl rfl rfl rfl h

lemma noteClosed (status : Option Status) :
    Keeps J (Prog.modify fun t => { t with gotClosed := status } : Prog (Task δ) Stop Unit) :=
  fun t h => hJ.same t _ rfl rfl rfl rfl rfl h

lemma checkGuard {α : Type} : Keeps J (checkGuard (α := α)) :=
  Keeps.bind hJ.closing fun _ => Keeps.bind hJ.dropped fun _ =>
    Keeps.bind (hJ.noteClosed _) fun _ => Keeps.fail _

lemma recvRaw : Keeps J (recvRaw fuel mode) := by
  refine Keeps.loop (Keeps.bind hJ.wait fun w => ?_) fuel
  cases w with
  | token => exact Keeps.bind (hJ.shouldBreak mode) fun _ => Keeps.pure _
  | dropped => exact hJ.checkGuard
  | text raw => exact Keeps.pure _
  | noText => exact Keeps.pure _
  | _ => exact Keeps.fail _

lemma recvPacket : Keeps J (recvPacket serde fuel mode) := by
  refine Keeps.bind (hJ.recvRaw mode fuel) fun r => ?_
  cases r with
  | none => exact Keeps.pure _
  | some raw =>
    dsimp only
    cases serde.packet raw with
    | none => exact Keeps.fail _
    | some p => exact Keeps.pure _

lemma sleep (d : ℕ) : Keeps J (sleep fuel mode d) := by
  refine Keeps.get_bind fun t => Keeps.get_bind fun t' => ?_
  split
  · exact hJ.checkGuard
  · refine Keeps.loop (Keeps.bind hJ.wait fun w => ?_) fuel
    cases w with
    | token =>
      refine Keeps.bind (hJ.shouldBreak mode) fun b => ?_
      cases b with
      | true => exact Keeps.pure _
      | false => exact Keeps.pure _
    | dropped => exact hJ.checkGuard
    | timer =>
      refine Keeps.bind (Keeps.modify fun t h => ?_) fun _ => Keeps.pure _
      exact hJ.same t _ rfl rfl rfl rfl rfl h
    | _ => exact Keeps.fail _

lemma connectTo : Keeps J (connectTo serde fuel mode) := by
  refine Keeps.get_bind fun t => Keeps.get_bind fun t' => ?_
  split
  · exact hJ.checkGuard
  · refine Keeps.loop (Keeps.bind hJ.wait fun w => ?_) fuel
    cases w with
    | token =>
      refine Keeps.bind (hJ.shouldBreak mode) fun b => ?_
      cases b with
      | true => exact Keeps.fail _
      | false => exact Keeps.pure _
    | dropped => exact hJ.checkGuard
    | connected answers => exact Keeps.pure _
    | _ => exact Keeps.fail _

/-- What the retrying loops do after a failure. -/
lemma retry {α : Type} (e : Error) (text : String) :
    Keeps J (do
      if ← Task.shouldBreak mode then Prog.fail (.err e)
      else if ← Task.sleep fuel mode (← Prog.get).config.connection.retryInterval then return none
      else Prog.fail (.err (.msg text)) : Prog (Task δ) Stop (Option α)) := by
  refine Keeps.bind (hJ.shouldBreak mode) fun b => ?_
  cases b with
  | true => exact Keeps.fail _
  | false =>
    refine Keeps.get_bind fun t => Keeps.bind (hJ.sleep mode fuel _) fun b => ?_
    cases b with
    | true => exact Keeps.pure _
    | false => exact Keeps.fail _

lemma connectLoop : Keeps J (connectLoop serde fuel mode) := by
  refine Keeps.bind (hJ.shouldBreak mode) fun b => ?_
  cases b with
  | true => exact Keeps.fail _
  | false =>
    refine Keeps.loop (Keeps.bind (Keeps.catching (hJ.connectTo serde mode fuel)) fun r => ?_) fuel
    cases r with
    | ok conn => exact Keeps.pure _
    | error e => exact hJ.retry mode fuel e _

section Open
variable (d : Delegate δ) (hopening : ∀ {α : Type} (m : Prog δ Error α), Keeps J (call .onOpening m))
  (hreply : ∀ raw, Keeps J (hear (.openReply raw)))
include hopening hreply

lemma openSession (conn : Conn) : Keeps J (openSession d fuel conn) := by
  refine Keeps.bind (Keeps.withContext _ (Keeps.get_bind fun t => fun _ h => h)) fun conn => ?_
  refine Keeps.bind (hopening _) fun xfer => Keeps.bind (fun _ h => h) fun r => ?_
  refine Keeps.loop (Keeps.bind (Keeps.withContext _ (hJ.recvRaw _ fuel)) fun raw => ?_) fuel
  cases raw with
  | some raw => exact Keeps.bind (hreply raw) fun _ => Keeps.pure _
  | none =>
    refine Keeps.bind (hJ.shouldBreak _) fun b => ?_
    cases b with
    | true => exact Keeps.fail _
    | false => exact Keeps.pure _

lemma phaseOpen (hopened : ∀ {α : Type} id (m : Prog δ Error α), Keeps J (call (.onOpened id) m)) :
    Keeps J (phaseOpen d serde fuel) := by
  refine Keeps.get_bind fun t => Keeps.bind (Keeps.timeout _ (Keeps.loop ?_ fuel)) fun r => ?_
  · refine Keeps.bind (hJ.connectLoop serde _ fuel) fun conn =>
      Keeps.bind (Keeps.catching (hJ.openSession fuel d hopening hreply conn)) fun r => ?_
    cases r with
    | ok r => exact Keeps.pure _
    | error e => exact hJ.retry _ fuel e _
  · obtain ⟨conn,raw,xfer⟩ := r
    cases hp : serde.packet raw with
    | none =>
      simp only [hp]
      exact Keeps.fail _
    | some packet =>
      simp only [hp]
      refine Keeps.bind (Keeps.withContext _ (Keeps.ofExcept _)) fun ids => ?_
      refine Keeps.get_bind fun t => Keeps.get_bind fun t' => ?_
      exact Keeps.bind (Keeps.catching (hopened _ _)) fun _ => Keeps.pure _

end Open

end Resting

variable {α : Type} {I : Task δ × Session → Prop}

/-- The deadline of the heartbeat only moves the clock. -/
lemma keeps_orTick {deadline : Option ℕ} {m : Prog (Task δ × Session) Stop α} (hm : Keeps I m)
    (hnow : ∀ s now, I s → I ({ s.1 with env := { s.1.env with now := now } },s.2)) :
    Keeps I (orTick deadline m) := by
  intro s hs
  have h := hm s hs
  unfold orTick
  rcases hr : m.run s with ⟨r,s'⟩
  rw [hr] at h
  match r with
  | .ok a => simpa only [hr] using h
  | .error (.err e) => simpa only [hr] using h
  | .error .pending => simpa only [hr] using h
  | .error .elapsed => simpa only [hr] using h
  | .error .timer =>
    simp only [hr]
    cases deadline with
    | none => exact h
    | some deadline => exact hnow s' _ h

/-- All that `phase_work` does keeps the property. -/
structure KeptInPhase (d : Delegate δ) (serde : Serde) (fuel : ℕ) (I : Task δ × Session → Prop) :
    Prop where
  recv : Keeps I (onTask (recvPacket serde fuel .work))
  mode : Keeps I (onTask (shouldBreak .work))
  clock : ∀ s now, I s → I ({ s.1 with env := { s.1.env with now := now } },s.2)
  hears : ∀ p, Keeps I (onTask (hear (.work p)))
  noteClosed : ∀ status, Keeps I (onTask (Prog.modify fun t => { t with gotClosed := status }))
  process : Keeps I (callWith .onProcess d.onProcess)
  response : ∀ p ack rsp, Keeps I (callWith (.onResponse p ack rsp) (d.onResponse ack rsp))
  push : ∀ p x, Keeps I (callWith (.onPush p x) (d.onPush x))
  flush : Keeps I (onSession (Session.onWire Xfer.flushXfer))
  flushAck : Keeps I (onSession (Session.onWire Xfer.flushXferAck))
  closeFrame : Keeps I (onSession (Session.onWire (Xfer.onConn Conn.sendCloseFrame)))
  tick : ∀ cfg now,
    Keeps I (onSession (Session.handleHeartbeatTick cfg serde.heartbeatRequest now))
  heartbeat : ∀ ack rsp,
    Keeps I (onSession (Prog.mapError Stop.err (Session.tryHandleHeartbeatResponse ack rsp)))
  onRecv : ∀ now, Keeps I (onSession (Prog.modify fun s => s.onRecv now))
  numbers : ∀ ack sn,
    Keeps I (onSession (Prog.modify fun s => { s with xfer := s.xfer.takeNumbers ack sn }))

namespace KeptInPhase

variable {d : Delegate δ} {serde : Serde} {fuel : ℕ} (h : KeptInPhase d serde fuel I)
include h

lemma dispatch (p : Packet) : Keeps I (dispatch d serde p) := by
  have hresponse : Keeps I (dispatchResponse d serde p) := by
    refine Keeps.bind (Keeps.ofExcept _) fun ack => Keeps.bind (Keeps.ofExcept _) fun typed => ?_
    refine Keeps.bind (h.heartbeat ack typed) fun b => ?_
    cases b with
    | true => exact Keeps.pure _
    | false => exact Keeps.bind (h.response p ack typed) fun _ => Keeps.pure _
  have hclosed (status : Option Status) : Keeps I (gotClosedPush status) :=
    Keeps.bind (Keeps.catching h.flushAck) fun _ =>
      Keeps.bind (Keeps.catching h.closeFrame) fun _ => h.noteClosed _
  have hpush : Keeps I (dispatchPush d serde p) := by
    refine Keeps.bind (Keeps.ofExcept _) fun push => ?_
    cases push with
    | closed status => exact Keeps.bind (hclosed status) fun _ => Keeps.pure _
    | _ => exact Keeps.bind (h.push p _) fun _ => Keeps.pure _
  unfold Task.dispatch
  cases p.typ? with
  | none => exact Keeps.pure _
  | some typ =>
    cases typ with
    | request => exact Keeps.fail _
    | response => exact hresponse
    | _ => exact hpush

lemma phaseWork : Keeps I (phaseWork d serde fuel) := by
  refine Keeps.loop (Keeps.bind (Keeps.withContext _ ?_) fun _ => ?_) fuel
  · exact Keeps.bind (Keeps.withContext _ h.process) fun _ => h.flush
  refine Keeps.get_bind fun s => Keeps.get_bind fun s' =>
    Keeps.bind (keeps_orTick (Keeps.withContext _ h.recv) h.clock) fun r => ?_
  match r with
  | none => exact Keeps.get_bind fun s => Keeps.bind (h.tick _ _) fun _ => Keeps.pure _
  | some none =>
    refine Keeps.bind h.mode fun b => ?_
    cases b with
    | true => exact Keeps.pure _
    | false => exact Keeps.pure _
  | some (some p) =>
    refine Keeps.bind (h.hears p) fun _ => Keeps.get_bind fun s => ?_
    exact Keeps.bind (h.onRecv _) fun _ => Keeps.bind (h.numbers _ _) fun _ => h.dispatch p

end KeptInPhase

/-- The parts of the loop of `try_run` keep the property. -/
structure KeptAtWork (d : Delegate δ) (serde : Serde) (fuel : ℕ) (I : Task δ × Session → Prop) :
    Prop where
  work : Keeps I (phaseWork d serde fuel)
  attempt : ∀ conn, Keeps I (reconnectSession serde fuel conn)
  connect : Keeps I (onTask (connectLoop serde fuel .work))
  mode : Keeps I (onTask (shouldBreak .work))
  sleep : ∀ d, Keeps I (onTask (sleep fuel .work d))
  closed : Keeps I (onTask isClosed)
  thrown : ∀ e, Keeps I (onTask (hear (.rxClosed e)))

namespace KeptAtWork

variable {d : Delegate δ} {serde : Serde} {fuel : ℕ} (h : KeptAtWork d serde fuel I)
include h

lemma phaseReconnect : Keeps I (phaseReconnect serde fuel) := by
  refine Keeps.get_bind fun s => Keeps.timeout _ (Keeps.loop ?_ fuel)
  refine Keeps.bind h.connect fun conn => Keeps.bind (Keeps.catching (h.attempt conn)) fun r => ?_
  cases r with
  | ok _ => exact Keeps.pure _
  | error e =>
    refine Keeps.bind h.mode fun b => ?_
    cases b with
    | true => exact Keeps.fail _
    | false =>
      simp only [Bool.false_eq_true, if_false]
      split
      · exact Keeps.fail _
      · refine Keeps.get_bind fun s => Keeps.bind (h.sleep _) fun b => ?_
        cases b with
        | true => exact Keeps.pure _
        | false => exact Keeps.fail _

lemma throwOn (r : Except Error Unit) : Keeps I (onTask (throwOn r)) := by
  cases r with
  | ok _ => exact fun _ h => h
  | error e => exact h.thrown e

lemma afterWork (r : Except Error Unit) : Keeps I (afterWork serde fuel r) := by
  have hreconnect : Keeps I (do
      Task.phaseReconnect serde fuel
      return none : Prog (Task δ × Session) Stop (Option Unit)) :=
    Keeps.bind h.phaseReconnect fun _ => Keeps.pure _
  refine Keeps.bind h.closed fun b => ?_
  cases b with
  | true => exact Keeps.bind (h.throwOn r) fun _ => hreconnect
  | false =>
    cases r with
    | ok _ => exact hreconnect
    | error e =>
      simp only [Bool.false_eq_true, if_false]
      split
      · exact Keeps.pure _
      · exact hreconnect

lemma workLoop : Keeps I (workLoop d serde fuel) := by
  refine Keeps.loop (Keeps.bind (Keeps.catching h.work) fun r => Keeps.get_bind fun s => ?_) fuel
  split
  · exact Keeps.pure _
  · exact h.afterWork r

end KeptAtWork

end Task
end VvClient
