import VvClient.Client.Phases

/-! How a run of the worker ends, and the status that the delegate is closed with. -/
namespace VvClient
namespace Task

open Prog

section Rounds
variable {δ : Type} (serde : Serde) (d : Delegate δ) (fuel : ℕ)

/-- How `try_run` returns `Ok`. -/
def Done (t : Task δ) : Prop := t.Calm serde ∨ ∃ st, t.SawPush serde st

/-- `phase_work` has failed, and its error is thrown on as the handle was dropped. -/
structure Thrown (e : Error) (t : Task δ) : Prop where
  running : t.gotClosed = none
  heard : t.env.heard.getLast? = some (.rxClosed e)
  calls : NeverClosed t.env.calls

/-- What an error of `try_run` says. -/
def Fault (t : Task δ) (e : Error) : Prop := t.Refusal serde e ∨ t.Thrown e

/-- How a round of `try_run` ends, and the whole. -/
abbrev Rounds (O : α → Task δ × Session → Prop) : Except Stop α → Task δ × Session → Prop :=
  Ends O (fun _ => True) fun e s => s.1.Fault serde e

/-- The round goes on with a reconnect. -/
lemma reconnect_rounds : Triple (fun s : Task δ × Session => s.1.Quiet serde)
    (do
      phaseReconnect serde fuel
      return none)
    (Rounds serde (Round (fun _ : Unit => fun s => s.1.Done serde) fun s => s.1.Quiet serde)) := by
  refine ends_bind (O := fun _ s => s.1.Quiet serde) ?_ fun _ => ends_pure fun _ h => h
  exact (phaseReconnect_rejoins serde fuel).post
    fun _ _ h => h.mono (fun _ _ h => h) (fun _ _ => trivial) fun _ _ h => .inl h

/-- An error of `phase_work` ends the run where the handle was dropped. -/
lemma throwOn_rounds (r : Except Error Unit) : Triple (fun s : Task δ × Session => s.1.Quiet serde)
    (onTask (throwOn r)) (Rounds serde fun _ s => s.1.Quiet serde) := by
  cases r with
  | ok _ => exact fun s hq => hq
  | error e =>
    intro s hq
    exact .inr ⟨hq.running,by simp [onTask, throwOn, hear],hq.calls⟩

lemma afterWork_rounds (r : Except Error Unit) : Triple (fun s : Task δ × Session => s.1.Quiet serde)
    (afterWork serde fuel r)
    (Rounds serde (Round (fun _ : Unit => fun s => s.1.Done serde) fun s => s.1.Quiet serde)) := by
  refine ends_bind (O := fun _ s => s.1.Quiet serde) ?_ fun b => ?_
  · exact fun s h => framed_quiet s.1 _ rfl rfl rfl rfl h
  cases b with
  | true => exact ends_bind (throwOn_rounds serde r) fun _ => reconnect_rounds serde fuel
  | false =>
    cases r with
    | ok _ => exact reconnect_rounds serde fuel
    | error e =>
      simp only [Bool.false_eq_true, if_false]
      split_ifs with hc
      · exact ends_pure fun _ h => .inl (.inl h)
      · exact reconnect_rounds serde fuel

lemma workRound_rounds : Triple (fun s : Task δ × Session => s.1.Quiet serde)
    (workRound d serde fuel)
    (Rounds serde (Round (fun _ : Unit => fun s => s.1.Done serde) fun s => s.1.Quiet serde)) := by
  have hquiet : ∀ (r : Except Error Unit) (s : Task δ × Session), s.1.Quiet serde →
      Rounds serde (Round (fun _ : Unit => fun s => s.1.Done serde) fun s => s.1.Quiet serde)
        (((Prog.get >>= fun s => if s.1.gotClosed.isSome then pure (some ())
          else afterWork serde fuel r) : Prog (Task δ × Session) Stop (Option Unit)).run s).1
        (((Prog.get >>= fun s => if s.1.gotClosed.isSome then pure (some ())
          else afterWork serde fuel r) : Prog (Task δ × Session) Stop (Option Unit)).run s).2 := by
    intro r s hq
    simp only [run_get_bind, hq.running, Option.isSome_none, Bool.false_eq_true, if_false]
    exact afterWork_rounds serde fuel r s hq
  refine ends_catching (phaseWork_works serde d fuel) (fun a s hs => ?_) fun e s hs => ?_
  · rcases hs with hq | ⟨st,hp⟩
    · exact hquiet (.ok a) s hq
    · simp only [run_get_bind, hp.flag, Option.isSome_some, if_true]
      exact .inr ⟨st,hp⟩
  · rcases hs with hq | hd
    · exact hquiet (.error e) s hq
    · simp only [run_get_bind, hd.flag, Option.isSome_some, if_true]
      exact .inl (.inr hd)

lemma tryRun_ends : Triple (Quiet serde) (tryRun d serde fuel)
    (Ends (fun _ t => t.Done serde) (fun _ => True) fun e t => t.Fault serde e) := by
  refine ends_bind (O := fun _ => Quiet serde) ?_ fun session => ?_
  · exact (phaseOpen_ends serde d fuel).post
      fun _ _ h => h.mono (fun _ _ h => h) (fun _ _ => trivial) fun _ _ h => .inl h
  · intro t hq
    have h := ends_loop (workRound_rounds serde d fuel) fuel (t,session) hq
    simp only [run_zoom]
    change Ends _ _ _ ((workLoop d serde fuel).run (t,session)).1
      ((workLoop d serde fuel).run (t,session)).2 at h
    match ((workLoop d serde fuel).run (t,session)).1,h with
    | .ok _,h => exact h
    | .error (.err _),h => exact h
    | .error .pending,_ => trivial
    | .error .elapsed,_ => trivial
    | .error .timer,_ => trivial

end Rounds

section Run
variable {δ : Type} (serde : Serde)

/-- The delegate was closed once, after all other calls, with the status that the reason for the
end asks for. -/
def ClosedForReason (t : Task δ) : Prop :=
  ∃ calls status ok, t.env.calls = calls ++ [(Call.onClosed status,ok)] ∧ NeverClosed calls ∧
    ∀ reason, t.endReason serde = some reason → status = reason.status

/-- The last thing heard is no Closed push with a status of its own. -/
def NoPushedStatus (t : Task δ) : Prop :=
  ∀ st, t.endReason serde = some (.closedPush st) → st = default

/-- `phase_work` did not fail, before `rx.is_closed()` read true, with an error that has another
status than the default. -/
def NoThrownStatus (t : Task δ) : Prop :=
  ∀ e, t.env.heard.getLast? = some (.rxClosed e) → e.status = some default

lemma closedForReason_iff {t : Task δ} {calls : List (Call × Bool)} {status : Status} {ok : Bool}
    (hc : t.env.calls = calls ++ [(.onClosed status,ok)]) (hn : NeverClosed calls) :
    t.ClosedForReason serde ↔
      ∀ reason, t.endReason serde = some reason → status = reason.status := by
  constructor
  · rintro ⟨calls',status',ok',hc',-,hr⟩
    have he := (List.append_inj' (hc.symm.trans hc') rfl).2
    simp only [List.cons.injEq, Prod.mk.injEq, Call.onClosed.injEq, and_true] at he
    rw [he.1]
    exact hr
  · exact fun hr => ⟨calls,status,ok,hc,hn,hr⟩

/-- The delegate was closed last with another status than the reason asks for. -/
lemma not_closedForReason {t : Task δ} {status : Status} {ok : Bool} {reason : EndReason}
    (hlast : t.env.calls.getLast? = some (.onClosed status,ok))
    (hreason : t.endReason serde = some reason) (hne : status ≠ reason.status) :
    ¬ t.ClosedForReason serde := by
  rintro ⟨calls,status',ok',hc,-,hr⟩
  rw [hc, List.getLast?_concat, Option.some.injEq, Prod.mk.injEq, Call.onClosed.injEq] at hlast
  exact hne (hlast.1.symm.trans (hr _ hreason))

variable (d : Delegate δ) (fuel : ℕ)

/-- What `run` does once `try_run` has returned. -/
def closing (r : Except Error Unit) : Prog (Task δ) Stop Unit := do
  let status ← closeStatus r
  let _ ← catching (call (.onClosed status) (d.onClosed status))

/-- The delegate is called with the status, and what the task has heard stays. -/
lemma closing_iff {r : Except Error Unit} {t t' : Task δ} {status : Status}
    (hs : (closeStatus r).run t = (.ok status,t')) (hn : NeverClosed t'.env.calls) :
    ((closing d r).run t).2.env.heard = t'.env.heard ∧
      (((closing d r).run t).2.ClosedForReason serde ↔
        ∀ reason, t'.endReason serde = some reason → status = reason.status) := by
  have hstate : ((closing d r).run t).2 = ((call (.onClosed status) (d.onClosed status)).run t').2 := by
    rw [closing, run_bind_ok hs, ← catching_state (call (.onClosed status) (d.onClosed status)), run_bind]
    split <;> simp [*]
  rw [hstate]
  exact ⟨rfl,closedForReason_iff serde rfl hn⟩

/-- A reason that was heard otherwise is no error of `phase_work`. -/
lemma noThrownStatus_of_last {t : Task δ} (h : ∀ e, t.env.heard.getLast? ≠ some (.rxClosed e)) :
    t.NoThrownStatus := fun e he => absurd he (h e)

lemma noThrownStatus_of_reason {t : Task δ} (h : t.endReason serde ≠ some .dropped) :
    t.NoThrownStatus :=
  noThrownStatus_of_last fun _ he => h (endReason_of_last he)

lemma SawDrop.noThrownStatus {t : Task δ} (h : t.SawDrop) : t.NoThrownStatus :=
  noThrownStatus_of_last fun e he => by simpa using h.heard.symm.trans he

/-- `try_run` has returned `Ok`: the status is the default, whatever was pushed. -/
lemma closing_ok_iff {t : Task δ} (h : t.Done serde) :
    (∀ reason, t.endReason serde = some reason → (default : Status) = reason.status) ↔
      t.NoPushedStatus serde ∧ t.NoThrownStatus := by
  have hthrown : t.NoThrownStatus := by
    rcases h with (h | h) | ⟨st,h⟩
    · exact noThrownStatus_of_reason serde (by simp [h.endReason_eq])
    · exact h.noThrownStatus
    · exact noThrownStatus_of_reason serde (by simp [h.reason])
  constructor
  · intro hr
    exact ⟨fun st hst => (hr _ hst).symm,hthrown⟩
  · rintro ⟨hp,-⟩ reason hr
    cases reason with
    | closedPush st => exact (hp st hr).symm
    | dropped => rfl
    | rejected st =>
      rcases h with (h | h) | ⟨st',h⟩
      · exact absurd (h.endReason_eq.symm.trans hr) (by simp)
      · exact absurd (h.endReason_eq.symm.trans hr) (by simp)
      · exact absurd (h.reason.symm.trans hr) (by simp)

lemma closeStatus_running {t : Task δ} (h : t.gotClosed = none) (e : Error) :
    (closeStatus (.error e)).run t = (.ok (Status.ofError (e.context "finished error")),t) := by
  simp only [closeStatus, run_get_bind, h]
  rfl

lemma closeStatus_flag {t : Task δ} {st : Status} (h : t.gotClosed = some st) (e : Error) :
    (closeStatus (.error e)).run t = (.ok st,{ t with gotClosed := none }) := by
  simp only [closeStatus, run_get_bind, h]
  rfl

/-- `try_run` has returned the error of a refusal, or of a drop that `rx.recv()` told of: the status
is the one that was asked for. -/
lemma closing_refusal {t : Task δ} {e : Error} (h : t.Refusal serde e) :
    ∃ status t', (closeStatus (.error e)).run t = (.ok status,t') ∧ t'.env = t.env ∧
      NeverClosed t.env.calls ∧ (t.NoPushedStatus serde ∧ t.NoThrownStatus) ∧
      ∀ reason, t.endReason serde = some reason → status = reason.status := by
  rcases h with (h | h) | ⟨st,h,hst,-⟩
  · refine ⟨_,_,closeStatus_running h.running e,rfl,h.calls,⟨?_,?_⟩,?_⟩
    · intro st hst
      exact absurd (h.endReason_eq.symm.trans hst) (by simp)
    · exact noThrownStatus_of_reason serde (by simp [h.endReason_eq])
    · intro reason hr
      exact absurd (h.endReason_eq.symm.trans hr) (by simp)
  · refine ⟨_,_,closeStatus_flag h.flag e,rfl,h.calls,⟨?_,h.noThrownStatus⟩,?_⟩
    · intro st hst
      exact absurd (h.endReason_eq.symm.trans hst) (by simp)
    · intro reason hr
      obtain rfl : EndReason.dropped = reason := by simpa using h.endReason_eq.symm.trans hr
      rfl
  · refine ⟨_,_,closeStatus_running h.running e,rfl,h.calls,⟨?_,?_⟩,?_⟩
    · intro st' hst'
      exact absurd (h.reason.symm.trans hst') (by simp)
    · exact noThrownStatus_of_reason serde (by simp [h.reason])
    · intro reason hr
      obtain rfl : EndReason.rejected st = reason := by simpa using h.reason.symm.trans hr
      exact Status.ofError_of_status hst

/-- `try_run` has thrown the error of `phase_work` on: the status is the one of this error, where
the drop asks for the default. -/
lemma closing_thrown {t : Task δ} {e : Error} (h : t.Thrown e) :
    (∀ reason, t.endReason serde = some reason →
      Status.ofError (e.context "finished error") = reason.status) ↔
      t.NoPushedStatus serde ∧ t.NoThrownStatus := by
  have hreason : t.endReason serde = some .dropped := endReason_of_last h.heard
  constructor
  · intro hr
    refine ⟨fun st hst => absurd (hreason.symm.trans hst) (by simp),fun e' he' => ?_⟩
    obtain rfl : e = e' := by simpa using h.heard.symm.trans he'
    have hstatus : Status.ofError (e.context "finished error") = default := hr _ hreason
    simpa using Status.ofError_eq_default.mp hstatus
  · rintro ⟨-,ht⟩ reason hr
    obtain rfl : EndReason.dropped = reason := by simpa using hreason.symm.trans hr
    exact Status.ofError_eq_default.mpr (ht e h.heard)

/-- `try_run` has returned an error. -/
lemma closing_error {t : Task δ} {e : Error} (h : t.Fault serde e) :
    ∃ status t', (closeStatus (.error e)).run t = (.ok status,t') ∧ t'.env = t.env ∧
      NeverClosed t.env.calls ∧
      ((∀ reason, t.endReason serde = some reason → status = reason.status) ↔
        t.NoPushedStatus serde ∧ t.NoThrownStatus) := by
  rcases h with h | h
  · obtain ⟨status,t',hs,henv,hn,hp,hr⟩ := closing_refusal serde h
    exact ⟨status,t',hs,henv,hn,fun _ => hp,fun _ => hr⟩
  · exact ⟨_,t,closeStatus_running h.running e,rfl,h.calls,closing_thrown serde h⟩

lemma Quiet.new (config : JoinConfig) (listener : δ) (now : ℕ) (waits : List (ℕ × Wait))
    (modes : ℕ → ShutdownMode) (drops : ℕ → Bool) :
    (Task.new config listener now waits modes drops).Quiet serde :=
  ⟨rfl,rfl,by simp [Task.new],by simp [Task.new, NeverClosed]⟩

/-- Whole runs: the delegate is closed once and last with the status that the end asks for,
exactly when the run did not end with a Closed push that has a status of its own, nor with a failure
of `phase_work` that has one and is thrown on as the handle was dropped. -/
theorem closedForReason_iff_noStatus (config : JoinConfig) (listener : δ) (now : ℕ)
    (waits : List (ℕ × Wait)) (modes : ℕ → ShutdownMode) (drops : ℕ → Bool) {t : Task δ}
    (h : (run d serde fuel).run (Task.new config listener now waits modes drops) = (.ok (),t)) :
    t.ClosedForReason serde ↔ t.NoPushedStatus serde ∧ t.NoThrownStatus := by
  have hquiet := Quiet.new serde config listener now waits modes drops
  generalize Task.new config listener now waits modes drops = t0 at h hquiet
  have hends := tryRun_ends serde d fuel t0 hquiet
  rcases htry : (tryRun d serde fuel).run t0 with ⟨r,t1⟩
  rw [htry] at hends
  have hok : ∀ r', (catching (tryRun d serde fuel)).run t0 = (.ok r',t1) →
      t = ((closing d r').run t1).2 := by
    intro r' hc
    have hrun : (run d serde fuel).run t0 = (closing d r').run t1 := run_bind_ok hc
    rw [← hrun, h]
  have hstop : ∀ stop, r = .error stop → (∃ e, stop = .err e) := by
    rintro stop rfl
    by_contra hne
    rw [not_exists] at hne
    have hrun := (run_bind_error (catching_stop htry hne)).symm.trans h
    cases hrun
  match r,hends with
  | .ok u,hdone =>
    have hcalls : NeverClosed t1.env.calls := by
      rcases hdone with (h | h) | ⟨st,h⟩ <;> exact h.calls
    have hs : (closeStatus (.ok u)).run t1 = (.ok default,t1) := rfl
    obtain ⟨hheard,hiff⟩ := closing_iff serde d hs hcalls
    rw [hok _ (catching_ok htry), hiff, closing_ok_iff serde hdone]
    simp only [NoPushedStatus, NoThrownStatus, endReason, hheard]
  | .error (.err e),hfault =>
    obtain ⟨status,t',hs,henv,hn,hr⟩ := closing_error serde hfault
    obtain ⟨hheard,hiff⟩ := closing_iff serde d hs (henv ▸ hn)
    rw [hok _ (catching_err htry), hiff]
    simpa only [NoPushedStatus, NoThrownStatus, endReason, hheard, henv] using hr
  | .error .elapsed,_ => simpa using hstop _ rfl
  | .error .timer,_ => simpa using hstop _ rfl
  | .error .pending,_ => simpa using hstop _ rfl

end Run

section Sample

/-- A delegate that does nothing. -/
def silent : Delegate Unit where
  onOpening := pure ()
  onOpened _ := pure ()
  onClosed _ := pure ()
  onProcess := pure ()
  onResponse _ _ := pure ()
  onPush _ := pure ()

/-- Three texts: the response that opens the session, a Closed push, and a chat push. -/
def sampleSerde : Serde where
  packet raw :=
    if raw = "opened" then some ⟨some 4,none,some "opened",none⟩
    else if raw = "closed" then some ⟨some 6,some 1,some "closed",none⟩
    else if raw = "chat" then some ⟨some 6,some 1,some "chat",none⟩
    else if raw = "reconn" then some ⟨some 4,none,some "reconn",none⟩
    else none
  serverRsp body :=
    if body = "opened" then some ⟨none,some (.opened "session" "conn")⟩
    else if body = "reconn" then some ⟨none,some (.reconn "conn")⟩
    else none
  serverPush body :=
    if body = "closed" then some (.closed (some ⟨881607,"RoomEnded"⟩))
    else if body = "chat" then some (.chat ⟨"u.a","r.b","hello"⟩)
    else none
  reconnectRequest _ := "reconn"
  heartbeatRequest := "hb"
  duration _ := "10s"

def sampleConfig : JoinConfig := ⟨"open",none,SignalConfig.intoConnection ⟨none,none,none⟩⟩

/-- The task that runs over the given waits, with the handle held and no shutdown asked for. -/
def sampleTask (waits : List (ℕ × Wait)) : Task Unit :=
  Task.new sampleConfig () 0 waits (fun _ => .none) fun _ => false

/-- The server opens the session and closes it with a status of its own. -/
def roomEnded : List (ℕ × Wait) :=
  [(0,.connected fun _ => .sent),(0,.text "opened"),(1,.text "closed")]

/-- The application drops the handle. -/
def handleDropped : List (ℕ × Wait) :=
  [(0,.connected fun _ => .sent),(0,.text "opened"),(1,.dropped)]

theorem closed_after_drop :
    ((run silent sampleSerde 4).run (sampleTask handleDropped)).2.ClosedForReason sampleSerde ↔
      ((run silent sampleSerde 4).run (sampleTask handleDropped)).2.NoPushedStatus sampleSerde ∧
      ((run silent sampleSerde 4).run (sampleTask handleDropped)).2.NoThrownStatus :=
  closedForReason_iff_noStatus sampleSerde silent 4 sampleConfig () 0 handleDropped
    (fun _ => .none) (fun _ => false) (Prod.ext (by decide) rfl)

/-- The status of the push is lost: the delegate is closed with the default status. -/
lemma pushed_status_lost :
    ((run silent sampleSerde 4).run (sampleTask roomEnded)).1 = .ok () ∧
      ¬ ((run silent sampleSerde 4).run (sampleTask roomEnded)).2.ClosedForReason sampleSerde :=
  ⟨by decide,@not_closedForReason _ sampleSerde _ default true (.closedPush ⟨881607,"RoomEnded"⟩)
    rfl (by decide) (by decide)⟩

/-- The connection fails at a time at which the handle was dropped. -/
def connectionReset : List (ℕ × Wait) :=
  [(0,.connected fun _ => .sent),(0,.text "opened"),(1,.recvFailed (.msg "reset"))]

/-- The task that runs over the given waits, with `rx.is_closed()` reading true. -/
def droppedTask (waits : List (ℕ × Wait)) : Task Unit :=
  Task.new sampleConfig () 0 waits (fun _ => .none) fun _ => true

/-- The drop ends the run, and the delegate is closed with the error of the connection. -/
lemma thrown_status_kept :
    ((run silent sampleSerde 4).run (droppedTask connectionReset)).1 = .ok () ∧
      ¬ ((run silent sampleSerde 4).run (droppedTask connectionReset)).2.ClosedForReason sampleSerde :=
  ⟨by decide,@not_closedForReason _ sampleSerde _ ⟨1001,"internal error: [finished error]"⟩ true
    .dropped rfl (by decide) (by decide)⟩

/-- Two runs whose delegate is closed with another status than their end asks for. -/
theorem closed_with_other_status :
    (((run silent sampleSerde 4).run (sampleTask roomEnded)).1 = .ok () ∧
      ¬ ((run silent sampleSerde 4).run (sampleTask roomEnded)).2.ClosedForReason sampleSerde) ∧
    ((run silent sampleSerde 4).run (droppedTask connectionReset)).1 = .ok () ∧
      ¬ ((run silent sampleSerde 4).run (droppedTask connectionReset)).2.ClosedForReason sampleSerde :=
  ⟨pushed_status_lost,thrown_status_kept⟩

end Sample

end Task
end VvClient
