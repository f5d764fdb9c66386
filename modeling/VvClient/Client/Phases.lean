import Mathlib
import VvClient.Client.Ends
import VvClient.Client.Task

/-! How every phase of the worker ends: the task runs on, or it has heard a reason to stop. The
reason is judged by what the task heard last. -/
namespace VvClient

inductive EndReason
  | closedPush (status : Status)
  | rejected (status : Status)
  | dropped
  deriving DecidableEq, Repr

/-- The status that a reason asks for. -/
def EndReason.status : EndReason → Status
  | closedPush status => status
  | rejected status => status
  | dropped => default

/-- The status, where it has a non-zero code. -/
def Status.refusal : Option Status → Option Status
  | none => none
  | some st => if st.code = 0 then none else some st

namespace Packet

/-- A response that refuses a request with a status of non-zero code. -/
def rejection (serde : Serde) (p : Packet) : Option Status :=
  if p.typ? = some .response then
    Status.refusal ((p.body.bind serde.serverRsp).bind ServerResponse.status)
  else none

/-- The status of a Closed push, the default where the push has none. -/
def closedStatus (serde : Serde) (p : Packet) : Option Status :=
  if p.typ? = some .push0 ∨ p.typ? = some .push1 ∨ p.typ? = some .push2 then
    match p.body.bind serde.serverPush with
    | some (.closed status) => some (status.getD default)
    | _ => none
  else none

end Packet

def Heard.reason (serde : Serde) : Heard → Option EndReason
  | .openReply raw => ((serde.packet raw).bind (Packet.rejection serde)).map .rejected
  | .reconnectReply p => (p.rejection serde).map .rejected
  | .work p => (p.closedStatus serde).map .closedPush
  | .dropped => some .dropped
  | .rxClosed _ => some .dropped

namespace Task

variable {δ α β : Type} (serde : Serde)

def endReason (t : Task δ) : Option EndReason := t.env.heard.getLast?.bind (Heard.reason serde)

def NeverClosed (calls : List (Call × Bool)) : Prop := ∀ c ∈ calls, ∀ st, c.1 ≠ .onClosed st

/-- The task runs, and nothing has told it to stop. -/
structure Quiet (t : Task δ) : Prop where
  running : t.gotClosed = none
  rxOpen : t.env.rxClosed = false
  heard : ∀ h ∈ t.env.heard, h.reason serde = none
  calls : NeverClosed t.env.calls

/-- The task was told by `rx.recv()` that its handle was dropped. -/
structure SawDrop (t : Task δ) : Prop where
  flag : t.gotClosed = some default
  rxClosed : t.env.rxClosed = true
  heard : t.env.heard.getLast? = some .dropped
  calls : NeverClosed t.env.calls

/-- The server has refused to open or to resume the session. -/
structure Refused (st : Status) (t : Task δ) : Prop where
  running : t.gotClosed = none
  reason : t.endReason serde = some (.rejected st)
  calls : NeverClosed t.env.calls

/-- The server has pushed Closed. -/
structure SawPush (st : Status) (t : Task δ) : Prop where
  flag : t.gotClosed = some st
  reason : t.endReason serde = some (.closedPush st)
  calls : NeverClosed t.env.calls

/-- Running, or told to stop by the drop of the handle. -/
def Calm (t : Task δ) : Prop := t.Quiet serde ∨ t.SawDrop

/-- What an error of a phase says: its handle was dropped, or the server has refused. -/
def Refusal (t : Task δ) (e : Error) : Prop :=
  t.Calm serde ∨ ∃ st, t.Refused serde st ∧ e.status = some st ∧ st.code ≠ 0

variable {serde}

open Prog

lemma endReason_of_last {t : Task δ} {h : Heard} (hl : t.env.heard.getLast? = some h) :
    t.endReason serde = h.reason serde := by simp [endReason, hl]

lemma SawDrop.endReason_eq {t : Task δ} (h : t.SawDrop) : t.endReason serde = some .dropped :=
  endReason_of_last h.heard

lemma Quiet.endReason_eq {t : Task δ} (h : t.Quiet serde) : t.endReason serde = none := by
  unfold endReason
  cases hl : t.env.heard.getLast? with
  | none => rfl
  | some e => exact h.heard e (List.mem_of_getLast? hl)

/-- How a task stands is said by four of its parts. -/
def Framed (P : Task δ → Prop) : Prop :=
  ∀ t t', t'.gotClosed = t.gotClosed → t'.env.rxClosed = t.env.rxClosed →
    t'.env.heard = t.env.heard → t'.env.calls = t.env.calls → P t → P t'

lemma framed_quiet : Framed (Quiet (δ := δ) serde) := by
  intro t t' hf hr hh hc h
  exact ⟨hf.trans h.running,hr.trans h.rxOpen,hh ▸ h.heard,hc ▸ h.calls⟩

lemma framed_calm : Framed (Calm (δ := δ) serde) := by
  intro t t' hf hr hh hc h
  refine h.imp (framed_quiet t t' hf hr hh hc) fun h => ?_
  exact ⟨hf.trans h.flag,hr.trans h.rxClosed,hh ▸ h.heard,hc ▸ h.calls⟩

/-- The task runs, and has just heard `h`. -/
structure Answered (serde : Serde) (h : Heard) (t : Task δ) : Prop where
  running : t.gotClosed = none
  rxOpen : t.env.rxClosed = false
  heard : ∃ hs, t.env.heard = hs ++ [h] ∧ ∀ h ∈ hs, h.reason serde = none
  calls : NeverClosed t.env.calls

lemma Answered.quiet {h : Heard} {t : Task δ} (ha : t.Answered serde h) (hr : h.reason serde = none) :
    t.Quiet serde := by
  obtain ⟨hs,hh,hn⟩ := ha.heard
  refine ⟨ha.running,ha.rxOpen,?_,ha.calls⟩
  intro h' hm
  rw [hh] at hm
  rcases List.mem_append.mp hm with hm | hm
  · exact hn h' hm
  · rw [List.mem_singleton.mp hm, hr]

lemma Answered.endReason_eq {h : Heard} {t : Task δ} (ha : t.Answered serde h) :
    t.endReason serde = h.reason serde := by
  obtain ⟨hs,hh,-⟩ := ha.heard
  exact endReason_of_last (by simp [hh])

lemma Quiet.hear {t : Task δ} (hq : t.Quiet serde) (h : Heard) :
    ((Task.hear h).run t).2.Answered serde h :=
  ⟨hq.running,hq.rxOpen,⟨_,rfl,hq.heard⟩,hq.calls⟩

section Basic
variable (serde)

/-- How the parts that read no response end. -/
abbrev Stays (O : α → Task δ → Prop) : Except Stop α → Task δ → Prop :=
  Ends O (Quiet serde) fun _ t => t.Calm serde

variable {P : Task δ → Prop} {R : Except Stop β → Task δ → Prop} (mode : RecvCancelMode) (fuel : ℕ)

lemma wait_stays : Triple (Quiet serde) wait (Stays (δ := δ) serde fun _ => Quiet serde) := by
  intro t h
  unfold wait
  cases hw : t.env.waits with
  | nil => simp only [hw]; trivial
  | cons w ws => simp only [hw]; exact framed_quiet t _ rfl rfl rfl rfl h

lemma shouldBreak_bind (hP : Framed P) {f : Bool → Prog (Task δ) Stop β}
    (hf : ∀ b, Triple P (f b) R) : Triple P (shouldBreak mode >>= f) R :=
  fun t h => hf _ _ (hP t _ rfl rfl rfl rfl h)

lemma checkGuard_stays (O : α → Task δ → Prop) :
    Triple (Calm serde) checkGuard (Stays (δ := δ) serde O) := by
  intro t h
  refine .inr ⟨rfl,rfl,?_,?_⟩
  · simp [checkGuard, hear]
  · rcases h with h | h <;> exact h.calls

lemma recvRaw_stays : Triple (Quiet serde) (recvRaw fuel mode)
    (Stays (δ := δ) serde fun _ => Quiet serde) := by
  refine ends_loop (ends_bind (wait_stays serde) fun w => ?_) fuel
  cases w with
  | token => exact shouldBreak_bind mode framed_quiet fun b => ends_pure fun _ h => h
  | dropped => exact (checkGuard_stays serde _).pre fun _ h => .inl h
  | text raw => exact ends_pure fun _ h => h
  | noText => exact ends_pure fun _ h => h
  | recvFailed e => exact ends_err fun _ h => .inl h
  | timer => exact Triple.fail fun _ h => h
  | elapsed => exact Triple.fail fun _ h => h
  | connected answers => exact ends_pending
  | connectFailed e => exact ends_pending
  | connectTimeout => exact ends_pending

lemma recvPacket_stays : Triple (Quiet serde) (recvPacket serde fuel mode)
    (Stays (δ := δ) serde fun _ => Quiet serde) := by
  refine ends_bind (recvRaw_stays serde mode fuel) fun r => ?_
  cases r with
  | none => exact ends_pure fun _ h => h
  | some raw =>
    dsimp only
    cases serde.packet raw with
    | none => exact ends_err fun _ h => .inl h
    | some p => exact ends_pure fun _ h => h

lemma sleep_stays (d : ℕ) : Triple (Calm serde) (sleep fuel mode d)
    (Stays (δ := δ) serde fun _ => Quiet serde) := by
  intro t h
  rcases h with h | h
  · simp only [sleep, run_get_bind, h.rxOpen, Bool.false_eq_true, if_false]
    refine ends_loop (Q := Quiet serde) (ends_bind (wait_stays serde) fun w => ?_) fuel t h
    cases w with
    | token =>
      refine shouldBreak_bind mode framed_quiet fun b => ?_
      cases b with
      | true => exact ends_pure fun _ h => h
      | false => exact ends_pure fun _ h => h
    | dropped => exact (checkGuard_stays serde _).pre fun _ h => .inl h
    | timer => exact fun t h => framed_quiet t _ rfl rfl rfl rfl h
    | elapsed => exact Triple.fail fun _ h => h
    | text raw => exact ends_pending
    | noText => exact ends_pending
    | recvFailed e => exact ends_pending
    | connected answers => exact ends_pending
    | connectFailed e => exact ends_pending
    | connectTimeout => exact ends_pending
  · simp only [sleep, run_get_bind, h.rxClosed, if_true]
    exact checkGuard_stays serde _ t (.inr h)

lemma connectTo_stays : Triple (Quiet serde) (connectTo serde fuel mode)
    (Stays (δ := δ) serde fun _ => Quiet serde) := by
  intro t h
  simp only [connectTo, run_get_bind, h.rxOpen, Bool.false_eq_true, if_false]
  refine ends_loop (Q := Quiet serde) (ends_bind (wait_stays serde) fun w => ?_) fuel t h
  cases w with
  | token =>
    refine shouldBreak_bind mode framed_quiet fun b => ?_
    cases b with
    | true => exact ends_err fun _ h => .inl h
    | false => exact ends_pure fun _ h => h
  | dropped => exact (checkGuard_stays serde _).pre fun _ h => .inl h
  | connected answers => exact ends_pure fun _ h => h
  | connectFailed e => exact ends_err fun _ h => .inl h
  | connectTimeout => exact ends_err fun _ h => .inl h
  | elapsed => exact Triple.fail fun _ h => h
  | timer => exact ends_pending
  | text raw => exact ends_pending
  | noText => exact ends_pending
  | recvFailed e => exact ends_pending

/-- After a failure the loops test the mode and then sleep. -/
lemma retry_stays {O : α → Task δ → Prop} {e : Error} {text : String} :
    Triple (Calm serde)
      (do
        if ← shouldBreak mode then Prog.fail (.err e)
        else if ← sleep fuel mode (← Prog.get).config.connection.retryInterval then return none
        else Prog.fail (.err (.msg text)))
      (Stays serde (Round O (Quiet serde))) := by
  refine shouldBreak_bind mode framed_calm fun b => ?_
  cases b with
  | true => exact ends_err fun _ h => h
  | false =>
    intro t ht
    simp only [Bool.false_eq_true, if_false, run_get_bind]
    refine ends_bind (sleep_stays serde mode fuel _) (fun b => ?_) t ht
    cases b with
    | true => exact ends_pure fun _ h => h
    | false => exact ends_err fun _ h => .inl h

lemma connectLoop_stays : Triple (Quiet serde) (connectLoop serde fuel mode)
    (Stays (δ := δ) serde fun _ => Quiet serde) := by
  refine shouldBreak_bind mode framed_quiet fun b => ?_
  cases b with
  | true => exact ends_err fun _ h => .inl h
  | false =>
    refine ends_loop (ends_catching (connectTo_stays serde mode fuel) ?_ ?_) fuel
    · exact fun conn => ends_pure fun _ h => h
    · exact fun e => retry_stays serde mode fuel

end Basic

lemma neverClosed_append {calls : List (Call × Bool)} (h : NeverClosed calls) {c : Call} {ok : Bool}
    (hc : ∀ st, c ≠ .onClosed st) : NeverClosed (calls ++ [(c,ok)]) := by
  intro x hx
  rcases List.mem_append.mp hx with hx | hx
  · exact h x hx
  · rw [List.mem_singleton.mp hx]
    exact hc

section Open
variable (d : Delegate δ) (serde) (fuel : ℕ)

lemma call_ends {c : Call} (hc : ∀ st, c ≠ .onClosed st) (m : Prog δ Error α)
    {E : Error → Task δ → Prop} (hE : ∀ e t, t.Quiet serde → E e t) :
    Triple (Quiet serde) (call c m) (Ends (fun _ => Quiet serde) (Quiet serde) E) :=
  ends_of_keeps (fun _ h => ⟨h.running,h.rxOpen,h.heard,neverClosed_append h.calls hc⟩)
    (fun _ _ h => h) (fun _ h => h) hE

lemma same_stays {m : Prog (Task δ) Stop α} (hm : ∀ t, (m.run t).2 = t) :
    Triple (Quiet serde) m (Stays serde fun _ => Quiet serde) :=
  ends_of_keeps (fun t h => (hm t).symm ▸ h) (fun _ _ h => h) (fun _ h => h) (fun _ _ h => .inl h)

lemma openSession_stays (conn : Conn) : Triple (Quiet serde) (openSession d fuel conn)
    (Stays serde fun r => Answered serde (.openReply r.2.1)) := by
  refine ends_bind (ends_context _ (fun _ _ h => h) (O := fun _ => Quiet serde) ?_) fun conn => ?_
  · intro t h
    exact ends_context (O := fun _ => Quiet serde) _ (fun _ _ h => h)
      (same_stays serde fun t => rfl) t h
  refine ends_bind (call_ends serde (by simp) _ fun _ _ h => .inl h) fun xfer => ?_
  refine ends_bind (same_stays serde fun t => rfl) fun r => ?_
  refine ends_loop (ends_bind (ends_context _ (fun _ _ h => h) (recvRaw_stays serde _ fuel))
    fun raw => ?_) fuel
  cases raw with
  | some raw => exact fun t h => h.hear (.openReply raw)
  | none =>
    refine shouldBreak_bind .connect framed_quiet fun b => ?_
    cases b with
    | true => exact ends_err fun _ h => .inl h
    | false => exact ends_pure fun _ h => h

lemma openLoop_stays : Triple (Quiet serde) (openLoop d serde fuel)
    (Stays serde fun r => Answered serde (.openReply r.2.1)) := by
  refine ends_loop (ends_bind (connectLoop_stays serde .connect fuel) fun conn => ?_) fuel
  refine ends_catching (openSession_stays serde d fuel conn) ?_ ?_
  · exact fun r => ends_pure fun _ h => h
  · exact fun e => retry_stays serde .connect fuel

end Open

end Task

section Parse
variable (serde : Serde) (p : Packet)

/-- An error of a response parser either carries the status of the refusal, or there is none. -/
def Explains (e : Error) : Option Status → Prop
  | none => True
  | some st => e.status = some st ∧ st.code ≠ 0

/-- What a result of a response parser says about the packet. -/
def Parsed {α : Type} : Except Error α → Option Status → Prop
  | .ok _,refusal => refusal = none
  | .error e,refusal => Explains e refusal

lemma parseOpenResponsePacket_parsed : Parsed (parseOpenResponsePacket serde p) (p.rejection serde) := by
  unfold parseOpenResponsePacket Packet.rejection
  by_cases ht : p.typ? = some .response
  · cases hb : p.body with
    | none => simp [ht, Parsed, Explains, Status.refusal]
    | some body =>
      cases hr : serde.serverRsp body with
      | none => simp [ht, hr, Parsed, Explains, Status.refusal]
      | some rsp =>
        obtain ⟨status,typ⟩ := rsp
        cases status with
        | none => cases typ with
          | none => simp [ht, hr, Parsed, Explains, Status.refusal]
          | some typ => cases typ <;> simp [ht, hr, Parsed, Explains, Status.refusal]
        | some st =>
          by_cases hc : st.code = 0 <;> simp [ht, hr, hc, Parsed, Explains, Status.refusal]
  · simp [ht, Parsed, Explains]

lemma parseReconnectResponsePacket_parsed :
    Parsed (parseReconnectResponsePacket serde p) (p.rejection serde) := by
  unfold parseReconnectResponsePacket Packet.rejection
  by_cases ht : p.typ? = some .response
  · cases hb : p.body with
    | none => simp [ht, Parsed, Explains, Status.refusal]
    | some body =>
      cases hr : serde.serverRsp body with
      | none => simp [ht, hr, Parsed, Explains, Status.refusal]
      | some rsp =>
        obtain ⟨status,typ⟩ := rsp
        by_cases hc : (status.getD default).code = 0
        · have hf : Status.refusal status = none := by
            cases status with
            | none => rfl
            | some st => exact if_pos hc
          cases typ with
          | none => simp [ht, hr, hc, hf, Parsed, Explains]
          | some typ => cases typ <;> simp [ht, hr, hc, hf, Parsed, Explains]
        · cases status with
          | none => exact absurd rfl hc
          | some st =>
            have hc' : ¬ st.code = 0 := hc
            simp [ht, hr, hc', Parsed, Explains, Status.refusal]
  · simp [ht, Parsed, Explains]

lemma parseAsServerPush_ok {push : ServerPush} (h : p.parseAsServerPush serde = .ok push) :
    p.body.bind serde.serverPush = some push := by
  unfold Packet.parseAsServerPush at h
  cases hb : p.body with
  | none => simp [hb] at h
  | some body =>
    cases hp : serde.serverPush body with
    | none => simp [hb, hp] at h
    | some typed => simpa [hb, hp] using h

lemma parseAsServerPush_error {e : Error} (h : p.parseAsServerPush serde = .error e) :
    p.body.bind serde.serverPush = none := by
  unfold Packet.parseAsServerPush at h
  cases hb : p.body with
  | none => rfl
  | some body =>
    cases hp : serde.serverPush body with
    | none => exact hp
    | some typed => simp [hb, hp] at h

end Parse

namespace Task

open Prog

section Phases
variable {δ α : Type} (serde : Serde) (d : Delegate δ) (fuel : ℕ)

/-- A reply was heard and is parsed: it refuses the request with the error's status, or the task
is quiet again. -/
lemma parsed_ends {σ : Type} (view : σ → Task δ) {h : Heard} {refusal : Option Status}
    (hr : h.reason serde = refusal.map .rejected) {r : Except Error α} (hp : Parsed r refusal)
    (text : String) :
    Triple (fun s => (view s).Answered serde h) (withContext text (ofExcept (r.mapError .err)))
      (Ends (fun _ s => (view s).Quiet serde) (fun s => (view s).Quiet serde)
        fun e s => (view s).Refusal serde e) := by
  intro s ha
  match r,hp with
  | .ok _,hp => exact Answered.quiet ha (by rw [hr, show refusal = none from hp]; rfl)
  | .error e,hp =>
    cases refusal with
    | none => exact .inl (.inl (Answered.quiet ha hr))
    | some st => exact .inr ⟨st,⟨ha.running,ha.endReason_eq.trans hr,ha.calls⟩,hp⟩

lemma phaseOpen_ends : Triple (Quiet serde) (phaseOpen d serde fuel)
    (Ends (fun _ => Quiet serde) (Quiet serde) fun e t => t.Refusal serde e) := by
  intro t ht
  refine ends_bind (O := fun r => Answered serde (.openReply r.2.1))
    ((ends_timeout _ (fun _ h => .inl h) (openLoop_stays serde d fuel)).post
      fun r t h => h.mono (fun _ _ h => h) (fun _ h => h) (fun _ _ h => .inl h)) ?_ t ht
  rintro ⟨conn,raw,xfer⟩
  cases hp : serde.packet raw with
  | none =>
    simp only [hp]
    exact ends_err fun t h => .inl (.inl (h.quiet (by simp [Heard.reason, hp])))
  | some packet =>
    simp only [hp]
    refine ends_bind (parsed_ends serde id (by simp [Heard.reason, hp])
      (parseOpenResponsePacket_parsed serde packet) _) ?_
    rintro ⟨sessionId,connId⟩ t hq
    simp only [run_get_bind]
    refine ends_catching (E := fun _ => Quiet serde)
      (call_ends (c := .onOpened sessionId) serde (by simp) _ fun _ _ h => h)
      (fun _ => ?_) (fun _ => ?_) t hq
    · exact ends_pure fun _ h => h
    · exact ends_pure fun _ h => h

/-- How the parts with a session end that read no reply. -/
abbrev Works (O : α → Task δ × Session → Prop) : Except Stop α → Task δ × Session → Prop :=
  Ends O (fun _ => True) fun _ s => s.1.Calm serde

lemma onTask_ends {P : Task δ → Prop} {O : α → Task δ → Prop} {Q : Task δ → Prop}
    {E : Error → Task δ → Prop} {m : Prog (Task δ) Stop α} (hm : Triple P m (Ends O Q E)) :
    Triple (fun s => P s.1) (onTask m)
      (Ends (fun a s => O a s.1) (fun s => Q s.1) fun e s => E e s.1) := by
  intro s hs
  have h := hm s.1 hs
  simp only [onTask, run_zoom]
  match (m.run s.1).1,h with
  | .ok a,h => exact h
  | .error (.err e),h => exact h
  | .error .pending,_ => trivial
  | .error .elapsed,h => exact h
  | .error .timer,h => exact h

lemma onTask_works {P : Task δ → Prop} {O : α → Task δ → Prop} {Q : Task δ → Prop}
    {m : Prog (Task δ) Stop α} (hm : Triple P m (Ends O Q fun _ t => t.Calm serde)) :
    Triple (fun s => P s.1) (onTask m) (Works serde fun a s => O a s.1) :=
  (onTask_ends hm).post fun _ _ h => h.mono (fun _ _ h => h) (fun _ _ => trivial) (fun _ _ h => h)

lemma shouldBreak_stays (mode : RecvCancelMode) : Triple (Quiet (δ := δ) serde) (shouldBreak mode)
    (Stays serde fun _ => Quiet serde) :=
  ends_of_keeps (fun t h => framed_quiet t _ rfl rfl rfl rfl h) (fun _ _ h => h) (fun _ h => h)
    (fun _ _ h => .inl h)

lemma onTask_shouldBreak_bind {β : Type} {P : Task δ → Prop} {R : Except Stop β → Task δ × Session → Prop}
    (mode : RecvCancelMode) (hP : Framed P) {f : Bool → Prog (Task δ × Session) Stop β}
    (hf : ∀ b, Triple (fun s => P s.1) (f b) R) :
    Triple (fun s => P s.1) (onTask (shouldBreak mode) >>= f) R :=
  fun s h => hf _ _ (hP s.1 _ rfl rfl rfl rfl h)

lemma framed_refusal (e : Error) : Framed fun t : Task δ => t.Refusal serde e := by
  intro t t' hf hr hh hc h
  refine h.imp (framed_calm t t' hf hr hh hc) ?_
  rintro ⟨st,h,hst⟩
  exact ⟨st,⟨hf.trans h.running,by simpa only [endReason, hh] using h.reason,hc ▸ h.calls⟩,hst⟩

/-- What happens on the session alone leaves the task as it stands. -/
lemma onSession_ends {P : Task δ → Prop} {E : Error → Task δ × Session → Prop}
    {Q : Task δ × Session → Prop} (m : Prog Session Stop α) (hQ : ∀ s, P s.1 → Q s)
    (hE : ∀ e s, P s.1 → E e s) :
    Triple (fun s : Task δ × Session => P s.1) (onSession m) (Ends (fun _ s => P s.1) Q E) :=
  ends_of_keeps (fun _ h => h) (fun _ _ h => h) hQ hE

lemma callWith_ends {c : Call} (hc : ∀ st, c ≠ .onClosed st) (m : Prog (δ × Xfer) Error Unit) :
    Triple (fun s => s.1.Quiet serde) (callWith c m) (Works serde fun _ s => s.1.Quiet serde) :=
  ends_of_keeps (fun _ h => ⟨h.running,h.rxOpen,h.heard,neverClosed_append h.calls hc⟩)
    (fun _ _ h => h) (fun _ _ => trivial) (fun _ _ h => .inl h)

lemma tryHandleOp_works : Triple (fun s => s.1.Quiet serde) (tryHandleOp d)
    (Works serde fun _ s => s.1.Quiet serde) :=
  ends_bind (ends_context _ (fun _ _ h => h) (callWith_ends (c := .onProcess) serde (by simp) _)) fun _ =>
    onSession_ends _ (fun _ _ => trivial) (fun _ _ h => .inl h)

lemma orTick_works {deadline : Option ℕ} {m : Prog (Task δ × Session) Stop α}
    (hm : Triple (fun s => s.1.Quiet serde) m
      (Ends (fun _ s => s.1.Quiet serde) (fun s => s.1.Quiet serde) fun _ s => s.1.Calm serde)) :
    Triple (fun s => s.1.Quiet serde) (orTick deadline m) (Works serde fun _ s => s.1.Quiet serde) := by
  intro s hs
  have h := hm s hs
  unfold orTick
  rcases hr : m.run s with ⟨r,s'⟩
  rw [hr] at h
  match r,h with
  | .ok a,h => simp only [hr]; exact h
  | .error (.err e),h => simp only [hr]; exact h
  | .error .pending,_ => simp only [hr]; trivial
  | .error .elapsed,h => simp only [hr]; trivial
  | .error .timer,h =>
    simp only [hr]
    cases deadline with
    | none => trivial
    | some deadline => exact framed_quiet s'.1 _ rfl rfl rfl rfl h

/-- How `phase_work` returns `Ok`. -/
def Left (s : Task δ × Session) : Prop := s.1.Quiet serde ∨ ∃ st, s.1.SawPush serde st

lemma gotClosedPush_works {p : Packet} {status : Option Status}
    (hp : p.closedStatus serde = some (status.getD default)) :
    Triple (fun s : Task δ × Session => s.1.Answered serde (.work p)) (gotClosedPush status)
      (Works serde fun _ s => s.1.SawPush serde (status.getD default)) := by
  refine ends_catching (onSession_ends _ (fun _ _ => trivial) fun _ _ h => h) (fun _ => ?_) fun _ => ?_
  all_goals
    refine ends_catching (onSession_ends (P := Answered serde (.work p)) _ (fun _ _ => trivial)
      fun _ _ h => h) (fun _ => ?_) fun _ => ?_
  all_goals
    intro s ha
    exact ⟨rfl,ha.endReason_eq.trans (by simp [Heard.reason, hp]),ha.calls⟩

/-- A packet that is no Closed push. -/
lemma quiet_of_work {p : Packet} (hp : p.closedStatus serde = none) (s : Task δ × Session)
    (ha : s.1.Answered serde (.work p)) : s.1.Quiet serde :=
  ha.quiet (by simp [Heard.reason, hp])

/-- What one packet leaves: the loop goes on, or `phase_work` returns `Ok`. -/
abbrev PacketDone : Option Unit → Task δ × Session → Prop :=
  Round (fun _ s => Left serde s) fun s => s.1.Quiet serde

lemma dispatchPush_works {p : Packet} (ht : p.typ? = some .push0 ∨ p.typ? = some .push1 ∨
    p.typ? = some .push2) :
    Triple (fun s : Task δ × Session => s.1.Answered serde (.work p)) (dispatchPush d serde p)
      (Works serde (PacketDone serde)) := by
  intro s ha
  unfold dispatchPush
  cases hx : p.parseAsServerPush serde with
  | error e =>
    have hc : p.closedStatus serde = none := by
      simp [Packet.closedStatus, ht, parseAsServerPush_error serde p hx]
    exact .inl (quiet_of_work serde hc s ha)
  | ok typed =>
    have hb := parseAsServerPush_ok serde p hx
    simp only [Except.mapError, run_ok_bind]
    cases typed with
    | closed status =>
      have hc : p.closedStatus serde = some (status.getD default) := by
        simp [Packet.closedStatus, ht, hb]
      exact ends_bind (gotClosedPush_works serde hc) (fun _ => ends_pure fun _ h => .inr ⟨_,h⟩) s ha
    | _ =>
      have hc : p.closedStatus serde = none := by simp [Packet.closedStatus, ht, hb]
      refine ends_bind (callWith_ends serde ?_ _) (fun _ => ends_pure fun _ h => h) s
        (quiet_of_work serde hc s ha)
      simp

lemma dispatchResponse_works (p : Packet) :
    Triple (fun s : Task δ × Session => s.1.Quiet serde) (dispatchResponse d serde p)
      (Works serde (PacketDone serde)) := by
  intro s hq
  unfold dispatchResponse
  cases ha : p.ack with
  | none => exact .inl hq
  | some ack =>
    simp only [run_ok_bind]
    cases hx : p.parseAsServerRsp serde with
    | error e => exact .inl hq
    | ok typed =>
      simp only [Except.mapError, run_ok_bind]
      refine ends_bind (onSession_ends _ (fun _ _ => trivial) fun _ _ h => .inl h) (fun b => ?_) s hq
      cases b with
      | true => exact ends_pure fun _ h => h
      | false =>
        refine ends_bind (callWith_ends serde ?_ _) fun _ => ends_pure fun _ h => h
        simp

lemma dispatch_works (p : Packet) :
    Triple (fun s : Task δ × Session => s.1.Answered serde (.work p)) (dispatch d serde p)
      (Works serde (PacketDone serde)) := by
  unfold dispatch
  cases ht : p.typ? with
  | none =>
    exact ends_pure fun s ha => quiet_of_work serde (by simp [Packet.closedStatus, ht]) s ha
  | some typ =>
    cases typ with
    | request =>
      exact ends_err fun s ha => .inl (quiet_of_work serde (by simp [Packet.closedStatus, ht]) s ha)
    | response =>
      exact (dispatchResponse_works serde d p).pre
        fun s ha => quiet_of_work serde (by simp [Packet.closedStatus, ht]) s ha
    | push0 => exact dispatchPush_works serde d (by simp [ht])
    | push1 => exact dispatchPush_works serde d (by simp [ht])
    | push2 => exact dispatchPush_works serde d (by simp [ht])

lemma phaseWork_works : Triple (fun s : Task δ × Session => s.1.Quiet serde)
    (phaseWork d serde fuel) (Works serde fun _ s => Left serde s) := by
  refine ends_loop (ends_bind (ends_context _ (fun _ _ h => h) (tryHandleOp_works serde d))
    fun _ => ?_) fuel
  intro s hq
  simp only [run_get_bind]
  refine ends_bind (orTick_works serde (ends_context _ (fun _ _ h => h)
    (onTask_ends (recvPacket_stays serde .work fuel)))) (fun r => ?_) s hq
  match r with
  | none =>
    intro s hq
    simp only [run_get_bind]
    exact ends_bind (onSession_ends _ (fun _ _ => trivial) fun _ _ h => .inl h)
      (fun _ => ends_pure fun _ h => h) s hq
  | some none =>
    refine ends_bind (onTask_works serde (shouldBreak_stays serde .work)) fun b => ?_
    cases b with
    | true => exact ends_pure fun _ h => .inl h
    | false => exact ends_pure fun _ h => h
  | some (some packet) =>
    exact fun s hq => dispatch_works serde d packet (((hear (.work packet)).run s.1).2,_) (hq.hear _)

/-- How the parts with a session end that read the reply to a reconnect request. -/
abbrev Rejoins (O : α → Task δ × Session → Prop) : Except Stop α → Task δ × Session → Prop :=
  Ends O (fun s => s.1.Quiet serde) fun e s => s.1.Refusal serde e

lemma onTask_rejoins {P : Task δ → Prop} {O : α → Task δ → Prop} {m : Prog (Task δ) Stop α}
    (hm : Triple P m (Stays serde O)) :
    Triple (fun s => P s.1) (onTask m) (Rejoins serde fun a s => O a s.1) :=
  (onTask_ends hm).post fun _ _ h => h.mono (fun _ _ h => h) (fun _ h => h) (fun _ _ h => .inl h)

lemma reconnectSession_rejoins (conn : Conn) : Triple (fun s : Task δ × Session => s.1.Quiet serde)
    (reconnectSession serde fuel conn) (Rejoins serde fun _ s => s.1.Quiet serde) := by
  refine ends_bind (O := fun _ s => s.1.Quiet serde) ?_ fun _ => ?_
  · exact fun s h => framed_quiet s.1 _ rfl rfl rfl rfl h
  intro s hq
  simp only [run_get_bind]
  refine ends_bind (onTask_rejoins serde (ends_context _ (fun _ _ h => h)
    (same_stays serde fun t => rfl))) (fun conn => ?_) s hq
  refine ends_loop (ends_bind (onTask_rejoins serde (ends_context _ (fun _ _ h => h)
    (recvPacket_stays serde .work fuel))) fun r => ?_) fuel
  cases r with
  | none =>
    refine ends_bind (onTask_rejoins serde (shouldBreak_stays serde .work)) fun b => ?_
    cases b with
    | true => exact ends_err fun _ h => .inl (.inl h)
    | false => exact ends_pure fun _ h => h
  | some packet =>
    refine ends_bind (O := fun _ s => s.1.Answered serde (.reconnectReply packet)) ?_ fun _ => ?_
    · exact fun s hq => hq.hear _
    refine ends_bind (O := fun _ s => s.1.Quiet serde) ?_ fun connId => ?_
    · exact parsed_ends serde Prod.fst rfl (parseReconnectResponsePacket_parsed serde packet) _
    refine ends_bind (O := fun _ s => s.1.Quiet serde) ?_ fun _ => ?_
    · exact onSession_ends _ (fun _ h => h) fun _ _ h => .inl (.inl h)
    intro s hq
    simp only [run_get_bind]
    refine ends_bind (P := fun s => s.1.Quiet serde) (O := fun _ s => s.1.Quiet serde) ?_
      (fun _ => ?_) s hq
    · exact onSession_ends _ (fun _ h => h) fun _ _ h => .inl (.inl h)
    refine ends_bind (O := fun _ s => s.1.Quiet serde) ?_ fun _ => ?_
    · exact fun s h => framed_quiet s.1 _ rfl rfl rfl rfl h
    refine ends_bind (onSession_ends _ (fun _ h => h) fun _ _ h => .inl (.inl h)) fun _ => ?_
    exact ends_pure fun _ h => h

lemma reconnectLoop_rejoins : Triple (fun s : Task δ × Session => s.1.Quiet serde)
    (reconnectLoop serde fuel) (Rejoins serde fun _ s => s.1.Quiet serde) := by
  refine ends_loop (ends_bind (onTask_rejoins serde (connectLoop_stays serde .work fuel))
    fun conn => ?_) fuel
  refine ends_catching (reconnectSession_rejoins serde fuel conn) (fun _ => ?_) fun e => ?_
  · exact ends_pure fun _ h => h
  · refine onTask_shouldBreak_bind .work (framed_refusal serde e) fun b => ?_
    cases b with
    | true => exact ends_err fun _ h => h
    | false =>
      simp only [Bool.false_eq_true, if_false]
      split_ifs with hc
      · exact ends_err fun _ h => h
      · intro s hs
        have hcalm : s.1.Calm serde := by
          rcases hs with hs | ⟨st,-,hst,hne⟩
          · exact hs
          · exact absurd (by simpa [hst] using hc) hne
        simp only [run_get_bind]
        refine ends_bind (onTask_rejoins serde (sleep_stays serde .work fuel _)) (fun b => ?_) s hcalm
        cases b with
        | true => exact ends_pure fun _ h => h
        | false => exact ends_err fun _ h => .inl (.inl h)

lemma phaseReconnect_rejoins : Triple (fun s : Task δ × Session => s.1.Quiet serde)
    (phaseReconnect serde fuel) (Rejoins serde fun _ s => s.1.Quiet serde) := by
  intro s hq
  simp only [phaseReconnect, run_get_bind]
  exact ends_timeout _ (fun _ h => .inl (.inl h)) (reconnectLoop_rejoins serde fuel) s hq

end Phases

end Task
end VvClient
