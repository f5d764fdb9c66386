import VvClient.Client.Waits

/-! The life of a delegate: which calls it gets in a run of the worker, and in which order. -/
namespace VvClient

/-- Where a delegate is in its life. -/
inductive LifeStage
  /-- no queue is filled for a session -/
  | opening
  /-- `on_opening` has filled a queue -/
  | prepared
  /-- the session is open, and `on_process` comes next -/
  | due
  /-- `on_process` has succeeded -/
  | processed
  | closed
  deriving DecidableEq, Repr

namespace LifeStage

/-- The stage that a call leads to, where it may come at all. Of a call it counts whether it returned
`Ok`. -/
def next : LifeStage → Call × Bool → Option LifeStage
  | opening,(.onOpening,ok) => some (if ok then prepared else opening)
  | prepared,(.onOpening,ok) => some (if ok then prepared else opening)
  | prepared,(.onOpened _,_) => some due
  | due,(.onProcess,ok) => some (if ok then processed else due)
  | processed,(.onProcess,ok) => some (if ok then processed else due)
  | processed,(.onResponse _ _ _,_) => some due
  | processed,(.onPush _ _,_) => some due
  | closed,_ => none
  | _,(.onClosed _,_) => some closed
  | _,_ => none

/-- The stage behind calls that each come where they may. -/
def after (calls : List (Call × Bool)) : Option LifeStage := calls.foldlM next opening

def Unopened (s : LifeStage) : Prop := s = opening ∨ s = prepared

def Opened (s : LifeStage) : Prop := s = due ∨ s = processed

lemma Unopened.ne_closed {s : LifeStage} (h : s.Unopened) : s ≠ closed := by
  rcases h with rfl | rfl <;> simp

lemma Opened.ne_closed {s : LifeStage} (h : s.Opened) : s ≠ closed := by
  rcases h with rfl | rfl <;> simp

/-- The calls lead from the stages in `P` to those in `Q`. -/
def Leads (P : LifeStage → Prop) (c : Call × Bool) (Q : LifeStage → Prop) : Prop :=
  ∀ s, P s → ∃ s', s.next c = some s' ∧ Q s'

lemma leads_opening_ok : Leads Unopened (.onOpening,true) (· = prepared) := by
  rintro s (rfl | rfl) <;> exact ⟨_,rfl,rfl⟩

lemma leads_opening_err : Leads Unopened (.onOpening,false) Unopened := by
  rintro s (rfl | rfl) <;> exact ⟨_,rfl,.inl rfl⟩

lemma leads_opened (sessionId : String) (ok : Bool) :
    Leads (· = prepared) (.onOpened sessionId,ok) Opened := by
  rintro s rfl
  exact ⟨_,rfl,.inl rfl⟩

lemma leads_process_ok : Leads Opened (.onProcess,true) (· = processed) := by
  rintro s (rfl | rfl) <;> exact ⟨_,rfl,rfl⟩

lemma leads_process_err : Leads Opened (.onProcess,false) Opened := by
  rintro s (rfl | rfl) <;> exact ⟨_,rfl,.inl rfl⟩

lemma leads_response (p : Packet) (ack : ℤ) (response : ServerResponse) (ok : Bool) :
    Leads (· = processed) (.onResponse p ack response,ok) Opened := by
  rintro s rfl
  exact ⟨_,rfl,.inl rfl⟩

lemma leads_push (p : Packet) (push : ServerPush) (ok : Bool) :
    Leads (· = processed) (.onPush p push,ok) Opened := by
  rintro s rfl
  exact ⟨_,rfl,.inl rfl⟩

lemma leads_closed (status : Status) (ok : Bool) :
    Leads (· ≠ closed) (.onClosed status,ok) (· = closed) := by
  intro s hs
  cases s with
  | closed => exact absurd rfl hs
  | _ => exact ⟨_,rfl,rfl⟩

end LifeStage

namespace Task

open Prog

variable {δ α : Type} {P Q R : LifeStage → Prop}

/-- The calls so far are those of a life, and have led to a stage in `P`. -/
def Lives (P : LifeStage → Prop) (t : Task δ) : Prop :=
  ∃ s, LifeStage.after t.env.calls = some s ∧ P s

lemma Lives.mono {t : Task δ} (h : t.Lives P) (hPQ : ∀ s, P s → Q s) : t.Lives Q :=
  h.imp fun _ hs => hs.imp_right (hPQ _)

lemma Lives.unopened {t : Task δ} (h : t.Lives (· = .prepared)) : t.Lives LifeStage.Unopened :=
  h.mono fun _ => .inr

lemma Lives.opened {t : Task δ} (h : t.Lives (· = .processed)) : t.Lives LifeStage.Opened :=
  h.mono fun _ => .inr

/-- Waiting calls nobody. -/
lemma lives_aside (P : LifeStage → Prop) : Aside (Lives (δ := δ) P) :=
  aside_calls fun _ calls => ∃ s, LifeStage.after calls = some s ∧ P s

lemma Lives.called {t t' : Task δ} (h : t.Lives P) {c : Call × Bool} (hc : LifeStage.Leads P c Q)
    (ht : t'.env.calls = t.env.calls ++ [c]) : t'.Lives Q := by
  obtain ⟨s,hs,hP⟩ := h
  obtain ⟨s',hs',hQ⟩ := hc s hP
  refine ⟨s',?_,hQ⟩
  rw [ht, LifeStage.after, List.foldlM_append, ← LifeStage.after, hs]
  simp [hs']

/-- A call leads where its result says. -/
lemma call_lives {c : Call} (m : Prog δ Error α) (hok : LifeStage.Leads P (c,true) Q)
    (herr : LifeStage.Leads P (c,false) R) :
    Triple (Lives P) (call c m) (Leaves (fun _ => Lives Q) (Lives R)) := by
  intro t h
  have hcalls : ((call c m).run t).2.env.calls = t.env.calls ++ [(c,(m.run t.listener).1.isOk)] := rfl
  have hres : ((call c m).run t).1 = (m.run t.listener).1.mapError .err := rfl
  rw [hres]
  cases hr : (m.run t.listener).1 with
  | ok a => exact h.called hok (by rw [hcalls, hr]; rfl)
  | error e => exact h.called herr (by rw [hcalls, hr]; rfl)

/-- A call whose error is only logged. -/
lemma catching_call_lives {c : Call} (m : Prog δ Error α) (hc : ∀ ok, LifeStage.Leads P (c,ok) Q)
    {F : Task δ → Prop} : Triple (Lives P) (catching (call c m)) (Leaves (fun _ => Lives Q) F) := by
  intro t h
  have hcalls : ((call c m).run t).2.env.calls = t.env.calls ++ [(c,(m.run t.listener).1.isOk)] := rfl
  have hlives : ((catching (call c m)).run t).2.Lives Q := by
    rw [catching_state]
    exact h.called (hc _) hcalls
  obtain ⟨r,hr⟩ := catching_call_ok c m t
  rw [hr]
  exact hlives

section Open
variable (d : Delegate δ) (serde : Serde) (fuel : ℕ)

lemma lives_waits {m : Prog (Task δ) Stop α} (hm : ∀ {J : Task δ → Prop}, Resting J → Keeps J m)
    (hP : ∀ s, P s → Q s) : Triple (Lives P) m (Leaves (fun _ => Lives P) (Lives Q)) :=
  leaves_of_keeps (hm (lives_aside P).resting) fun _ h => h.mono hP

lemma callOpening_lives : Triple (Lives LifeStage.Unopened) (callOpening d)
    (Leaves (fun _ => Lives (· = .prepared)) (Lives LifeStage.Unopened)) :=
  call_lives _ LifeStage.leads_opening_ok LifeStage.leads_opening_err

lemma openSession_lives (conn : Conn) : Triple (Lives LifeStage.Unopened) (openSession d fuel conn)
    (Leaves (fun _ => Lives (· = .prepared)) (Lives LifeStage.Unopened)) := by
  refine quits_bind (leaves_of_keeps (fun _ h => h) fun _ h => h) fun conn => ?_
  refine quits_bind (callOpening_lives d) fun xfer => ?_
  refine quits_bind (leaves_of_keeps (fun _ h => h) fun _ h => h.unopened) fun r => ?_
  refine quits_loop (fun _ h => h.unopened) (quits_bind (quits_context _ (lives_waits
    (fun hJ => hJ.recvRaw .connect fuel) fun _ => .inr)) fun raw => ?_) fuel
  cases raw with
  | some raw =>
    exact quits_bind (leaves_of_keeps ((lives_aside _).hear _ (by simp)) fun _ h => h.unopened)
      fun _ => quits_pure fun _ h => h
  | none =>
    refine quits_bind (lives_waits (fun hJ => hJ.shouldBreak .connect) fun _ => .inr) fun b => ?_
    cases b with
    | true => exact leaves_fail fun _ h => h.unopened
    | false => exact quits_pure fun _ h => h

lemma openLoop_lives : Triple (Lives LifeStage.Unopened) (openLoop d serde fuel)
    (Leaves (fun _ => Lives (· = .prepared)) (Lives LifeStage.Unopened)) := by
  refine quits_loop (fun _ h => h) (quits_bind (lives_waits
    (fun hJ => hJ.connectLoop serde .connect fuel) fun _ h => h) fun conn => ?_) fuel
  refine quits_catching (openSession_lives d fuel conn) (fun r => ?_) fun e => ?_
  · exact quits_pure fun _ h => h
  refine quits_bind (lives_waits (fun hJ => hJ.shouldBreak .connect) fun _ h => h) fun b => ?_
  cases b with
  | true => exact leaves_fail fun _ h => h
  | false =>
    refine Triple.get_bind fun t => quits_bind (lives_waits
      (fun hJ => hJ.sleep .connect fuel _) fun _ h => h) fun b => ?_
    cases b with
    | true => exact quits_pure fun _ h => h
    | false => exact leaves_fail fun _ h => h

/-- An open session is one that `on_opened` was told of, whatever it made of it. -/
lemma phaseOpen_lives : Triple (Lives LifeStage.Unopened) (phaseOpen d serde fuel)
    (Leaves (fun _ => Lives LifeStage.Opened) (Lives LifeStage.Unopened)) := by
  refine Triple.get_bind fun t => quits_bind (quits_timeout _ (fun _ h => h) (openLoop_lives d serde fuel))
    fun r => ?_
  obtain ⟨conn,raw,xfer⟩ := r
  cases hp : serde.packet raw with
  | none =>
    simp only [hp]
    exact leaves_fail fun _ h => h.unopened
  | some packet =>
    simp only [hp]
    refine quits_bind (leaves_of_keeps (Keeps.withContext _ (Keeps.ofExcept _)) fun _ h => h.unopened)
      fun ids => Triple.get_bind fun t => Triple.get_bind fun t' => ?_
    exact quits_bind (catching_call_lives _ fun ok => LifeStage.leads_opened _ ok) fun _ =>
      quits_pure fun _ h => h

end Open

section Work
variable (d : Delegate δ) (serde : Serde) (fuel : ℕ)

/-- The life of a task with its session. -/
abbrev LivesOn (P : LifeStage → Prop) (s : Task δ × Session) : Prop := s.1.Lives P

lemma callWith_lives {c : Call} (m : Prog (δ × Xfer) Error Unit) (hok : LifeStage.Leads P (c,true) Q)
    (herr : LifeStage.Leads P (c,false) R) :
    Triple (LivesOn P) (callWith c m) (Leaves (fun _ => LivesOn Q) (LivesOn R)) := by
  intro s h
  have hcalls : ((callWith c m).run s).2.1.env.calls =
      s.1.env.calls ++ [(c,(m.run (s.1.listener,s.2.xfer)).1.isOk)] := rfl
  have hres : ((callWith c m).run s).1 = (m.run (s.1.listener,s.2.xfer)).1.mapError .err := rfl
  rw [hres]
  cases hr : (m.run (s.1.listener,s.2.xfer)).1 with
  | ok a => exact h.called hok (by rw [hcalls, hr]; rfl)
  | error e => exact h.called herr (by rw [hcalls, hr]; rfl)

lemma livesOn_task {m : Prog (Task δ) Stop α} (hm : ∀ {J : Task δ → Prop}, Resting J → Keeps J m) :
    Keeps (LivesOn P) (onTask m) :=
  fun s h => hm (lives_aside P).resting s.1 h

lemma livesOn_hear (h : Heard) : Keeps (LivesOn (δ := δ) P) (onTask (hear h)) := fun _ h => h

lemma livesOn_session (m : Prog Session Stop α) : Keeps (LivesOn (δ := δ) P) (onSession m) := fun _ h => h

/-- A response or a push is dispatched behind a call of `on_process` that has succeeded. -/
lemma dispatch_lives (p : Packet) : Triple (LivesOn (· = .processed)) (dispatch d serde p)
    (Leaves (fun _ => LivesOn LifeStage.Opened) (LivesOn LifeStage.Opened)) := by
  have hkept {β : Type} {m : Prog (Task δ × Session) Stop β} (hm : Keeps (LivesOn (· = .processed)) m) :
      Triple (LivesOn (· = .processed)) m
        (Leaves (fun _ => LivesOn (· = .processed)) (LivesOn LifeStage.Opened)) :=
    leaves_of_keeps hm fun _ h => h.opened
  have hresponse : Triple (LivesOn (· = .processed)) (dispatchResponse d serde p)
      (Leaves (fun _ => LivesOn LifeStage.Opened) (LivesOn LifeStage.Opened)) := by
    refine quits_bind (hkept (Keeps.ofExcept _)) fun ack => quits_bind (hkept (Keeps.ofExcept _))
      fun typed => quits_bind (hkept (livesOn_session _)) fun b => ?_
    cases b with
    | true => exact quits_pure fun _ h => h.opened
    | false =>
      exact quits_bind (callWith_lives _ (LifeStage.leads_response p ack typed true)
        (LifeStage.leads_response p ack typed false)) fun _ => quits_pure fun _ h => h
  have hclosed (status : Option Status) : Keeps (LivesOn (δ := δ) (· = .processed)) (gotClosedPush status) :=
    Keeps.bind (Keeps.catching (livesOn_session _)) fun _ =>
      Keeps.bind (Keeps.catching (livesOn_session _)) fun _ => fun _ h => h
  have hpush : Triple (LivesOn (· = .processed)) (dispatchPush d serde p)
      (Leaves (fun _ => LivesOn LifeStage.Opened) (LivesOn LifeStage.Opened)) := by
    refine quits_bind (hkept (Keeps.ofExcept _)) fun push => ?_
    cases push with
    | closed status =>
      exact quits_bind (hkept (hclosed status)) fun _ => quits_pure fun _ h => h.opened
    | _ =>
      exact quits_bind (callWith_lives _ (LifeStage.leads_push p _ true)
        (LifeStage.leads_push p _ false)) fun _ => quits_pure fun _ h => h
  unfold dispatch
  cases p.typ? with
  | none => exact quits_pure fun _ h => h.opened
  | some typ =>
    cases typ with
    | request => exact leaves_fail fun _ h => h.opened
    | response => exact hresponse
    | _ => exact hpush

lemma tryHandleOp_lives : Triple (LivesOn LifeStage.Opened) (tryHandleOp d)
    (Leaves (fun _ => LivesOn (· = .processed)) (LivesOn LifeStage.Opened)) :=
  quits_bind (quits_context _ (callWith_lives _ LifeStage.leads_process_ok
    LifeStage.leads_process_err)) fun _ => leaves_of_keeps (livesOn_session _) fun _ h => h.opened

lemma phaseWork_lives : Keeps (LivesOn (δ := δ) LifeStage.Opened) (phaseWork d serde fuel) := by
  refine keeps_of_leaves ?_
  refine quits_loop (fun _ h => h) (quits_bind (quits_context _ (tryHandleOp_lives d)) fun _ =>
    Triple.get_bind fun s => Triple.get_bind fun s' => quits_bind (leaves_of_keeps (keeps_orTick
      (Keeps.withContext _ (livesOn_task fun hJ => hJ.recvPacket serde .work fuel))
      fun _ _ h => h) fun _ h => h.opened) fun r => ?_) fuel
  match r with
  | none =>
    exact Triple.get_bind fun s => quits_bind (leaves_of_keeps (livesOn_session _)
      fun _ h => h.opened) fun _ => quits_pure fun _ h => h.opened
  | some none =>
    refine quits_bind (leaves_of_keeps (livesOn_task fun hJ => hJ.shouldBreak .work)
      fun _ h => h.opened) fun b => ?_
    cases b with
    | true => exact quits_pure fun _ h => h.opened
    | false => exact quits_pure fun _ h => h.opened
  | some (some p) =>
    refine quits_bind (leaves_of_keeps (livesOn_hear _) fun _ h => h.opened) fun _ =>
      Triple.get_bind fun s => ?_
    refine quits_bind (leaves_of_keeps (livesOn_session _) fun _ h => h.opened) fun _ =>
      quits_bind (leaves_of_keeps (livesOn_session _) fun _ h => h.opened) fun _ => ?_
    exact quits_round (dispatch_lives d serde p)

lemma reconnectSession_lives (conn : Conn) : Keeps (LivesOn (δ := δ) P)
    (reconnectSession serde fuel conn) := by
  refine Keeps.bind (fun _ h => h) fun _ => Keeps.get_bind fun s => ?_
  refine Keeps.bind (fun _ h => h) fun conn => ?_
  refine Keeps.loop (Keeps.bind (livesOn_task fun hJ =>
    Keeps.withContext _ (hJ.recvPacket serde .work fuel)) fun r => ?_) fuel
  cases r with
  | none =>
    refine Keeps.bind (livesOn_task fun hJ => hJ.shouldBreak .work) fun b => ?_
    cases b with
    | true => exact Keeps.fail _
    | false => exact Keeps.pure _
  | some packet =>
    refine Keeps.bind (livesOn_hear _) fun _ => Keeps.bind (Keeps.withContext _ (Keeps.ofExcept _))
      fun connId => Keeps.bind (livesOn_session _) fun _ => Keeps.get_bind fun s => ?_
    exact Keeps.bind (livesOn_session _) fun _ => Keeps.bind (fun _ h => h) fun _ =>
      Keeps.bind (livesOn_session _) fun _ => Keeps.pure _

lemma lives_atWork : KeptAtWork d serde fuel (LivesOn (δ := δ) LifeStage.Opened) where
  work := phaseWork_lives d serde fuel
  attempt := reconnectSession_lives serde fuel
  connect := livesOn_task fun hJ => hJ.connectLoop serde .work fuel
  mode := livesOn_task fun hJ => hJ.shouldBreak .work
  sleep t := livesOn_task fun hJ => hJ.sleep .work fuel t
  closed := livesOn_task fun hJ => hJ.isClosed
  thrown _ := livesOn_hear _

lemma tryRun_lives : Triple (Lives LifeStage.Unopened) (tryRun d serde fuel)
    (fun _ => Lives (· ≠ .closed)) := by
  refine Triple.bind (phaseOpen_lives d serde fuel) (fun session t h => ?_)
    fun _ _ h => (leaves_error.mp h).mono fun _ => LifeStage.Unopened.ne_closed
  have hwork : LivesOn LifeStage.Opened ((workLoop d serde fuel).run (t,session)).2 :=
    (lives_atWork d serde fuel).workLoop (t,session) h
  exact hwork.mono fun _ => LifeStage.Opened.ne_closed

lemma closeStatus_lives (r : Except Error Unit) : Keeps (Lives (δ := δ) P) (closeStatus r) := by
  cases r with
  | ok _ => exact Keeps.pure _
  | error e =>
    refine Keeps.get_bind fun t => ?_
    cases t.gotClosed with
    | none => exact Keeps.pure _
    | some status => exact Keeps.bind (fun _ h => h) fun _ => Keeps.pure _

/-- `on_closed` comes last, whatever the status and wherever it comes from. -/
lemma run_lives : Triple (Lives LifeStage.Unopened) (run d serde fuel)
    (Leaves (fun _ => Lives (· = .closed)) (Lives (· ≠ .closed))) := by
  have hcaught : Triple (Lives LifeStage.Unopened) (catching (tryRun d serde fuel))
      (fun _ => Lives (· ≠ .closed)) := by
    intro t h
    rw [catching_state]
    exact tryRun_lives d serde fuel t h
  refine Triple.bind hcaught (fun r => ?_) fun _ _ h => leaves_error.mpr h
  refine quits_bind (leaves_of_keeps (closeStatus_lives r) fun _ h => h) fun status => ?_
  exact quits_bind (catching_call_lives _ (LifeStage.leads_closed status)) fun _ =>
    quits_pure fun _ h => h

/-- In every run of the worker the calls of the delegate are those of a life: attempts to open, one
`on_opened` behind an `on_opening` that has filled a queue, then `on_process` before every response
and every push, and `on_closed` just if the run has returned, with nothing behind it. -/
theorem run_lifecycle (config : JoinConfig) (listener : δ) (now : ℕ) (waits : List (ℕ × Wait))
    (modes : ℕ → ShutdownMode) (drops : ℕ → Bool) :
    ∃ stage, LifeStage.after
        ((run d serde fuel).run (Task.new config listener now waits modes drops)).2.env.calls = some stage ∧
      (stage = .closed ↔
        ((run d serde fuel).run (Task.new config listener now waits modes drops)).1 = .ok ()) := by
  have hnew : (Task.new config listener now waits modes drops).Lives LifeStage.Unopened :=
    ⟨_,rfl,.inl rfl⟩
  have hrun := run_lives d serde fuel _ hnew
  cases hr : ((run d serde fuel).run (Task.new config listener now waits modes drops)).1 with
  | ok a =>
    rw [hr] at hrun
    obtain ⟨stage,hstage,rfl⟩ := hrun
    exact ⟨_,hstage,by simp⟩
  | error e =>
    rw [hr] at hrun
    obtain ⟨stage,hstage,hne⟩ := leaves_error.mp hrun
    exact ⟨stage,hstage,by simp [hne]⟩

end Work
end Task
end VvClient
