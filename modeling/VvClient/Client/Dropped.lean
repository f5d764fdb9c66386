import VvClient.Client.Waits

/-! The drop of the handle: once the worker has seen it the run returns, and nothing more is waited
for. -/
namespace VvClient
namespace Task

open Prog

variable {δ α β : Type} (script : List (ℕ × Wait))

/-- What is left of the script is behind a part without a drop. -/
def NoDrop (rest : List (ℕ × Wait)) : Prop :=
  ∃ before, script = before ++ rest ∧ ∀ w ∈ before, w.2 ≠ .dropped

/-- What is left of the script is behind its first drop. -/
def AtDrop (rest : List (ℕ × Wait)) : Prop :=
  ∃ before dt, script = before ++ (dt,.dropped)::rest ∧ ∀ w ∈ before, w.2 ≠ .dropped

/-- The worker has its handle. -/
def Attached (t : Task δ) : Prop := t.env.rxClosed = false ∧ NoDrop script t.env.waits

/-- The worker has seen the drop, and has waited for nothing since then. -/
def Detached (t : Task δ) : Prop :=
  t.env.rxClosed = true ∧ t.gotClosed.isSome ∧ AtDrop script t.env.waits

/-- How an error leaves the task. -/
def Loosened (t : Task δ) : Prop := Attached script t ∨ Detached script t

/-- What the task reads next of the script. -/
def Reads : Wait → Task δ → Prop
  | .dropped,t => AtDrop script t.env.waits
  | _,t => Attached script t

variable {script}

lemma NoDrop.cons {dt : ℕ} {w : Wait} {rest : List (ℕ × Wait)} (h : NoDrop script ((dt,w)::rest))
    (hw : w ≠ .dropped) : NoDrop script rest := by
  obtain ⟨before,heq,hb⟩ := h
  refine ⟨before ++ [(dt,w)],by rw [heq, List.append_assoc]; rfl,fun x hx => ?_⟩
  rcases List.mem_append.mp hx with hx | hx
  · exact hb x hx
  · rwa [List.mem_singleton.mp hx]

/-- How the parts of the worker end. -/
abbrev Minds (script : List (ℕ × Wait)) (O : α → Task δ → Prop) : Except Stop α → Task δ → Prop :=
  Quits O (Attached script) (Loosened script)

section Basic
variable (script) {O : α → Task δ → Prop} (serde : Serde) (mode : RecvCancelMode) (fuel : ℕ)

lemma wait_minds : Triple (Attached script) (wait (δ := δ)) (Minds script (Reads script)) := by
  rintro t ⟨hr,h⟩
  unfold wait
  cases hw : t.env.waits with
  | nil =>
    simp only [hw]
    exact ⟨hr,h⟩
  | cons w ws =>
    obtain ⟨dt,w⟩ := w
    simp only [hw]
    rw [hw] at h
    cases w with
    | dropped =>
      obtain ⟨before,heq,hb⟩ := h
      exact ⟨before,dt,heq,hb⟩
    | _ => exact ⟨hr,h.cons (by simp)⟩

lemma checkGuard_minds : Triple (fun t : Task δ => AtDrop script t.env.waits) checkGuard (Minds script O) :=
  fun _ h => .inr ⟨rfl,rfl,h⟩

/-- A part that touches nothing that matters here. -/
lemma same_minds {m : Prog (Task δ) Stop α} (hm : Keeps (Attached script) m) :
    Triple (Attached script) m (Minds script fun _ => Attached script) :=
  quits_of_keeps hm (fun _ h => h) fun _ => .inl

lemma shouldBreak_minds : Triple (Attached script) (shouldBreak mode)
    (Minds (δ := δ) script fun _ => Attached script) := same_minds script fun _ h => h

lemma fail_minds {e : Stop} : Triple (Attached script) (Prog.fail e) (Minds (δ := δ) script O) :=
  quits_stop (fun _ h => h) fun _ => .inl

lemma pure_minds {a : α} : Triple (Attached script) (pure a)
    (Minds (δ := δ) script fun _ => Attached script) := quits_pure fun _ h => h

lemma recvRaw_minds : Triple (Attached script) (recvRaw fuel mode)
    (Minds (δ := δ) script fun _ => Attached script) := by
  refine quits_loop (fun _ h => h) (quits_bind (wait_minds script) fun w => ?_) fuel
  cases w with
  | token => exact quits_bind (shouldBreak_minds script mode) fun _ => quits_pure fun _ h => h
  | dropped => exact checkGuard_minds script
  | text raw => exact quits_pure fun _ h => h
  | noText => exact quits_pure fun _ h => h
  | _ => exact fail_minds script

lemma recvPacket_minds : Triple (Attached script) (recvPacket serde fuel mode)
    (Minds (δ := δ) script fun _ => Attached script) := by
  refine quits_bind (recvRaw_minds script mode fuel) fun r => ?_
  cases r with
  | none => exact pure_minds script
  | some raw =>
    dsimp only
    cases serde.packet raw with
    | none => exact fail_minds script
    | some packet => exact pure_minds script

/-- A channel that is closed is ready before the timer. -/
lemma sleep_minds (d : ℕ) : Triple (Loosened script) (sleep fuel mode d)
    (Minds (δ := δ) script fun _ => Attached script) := by
  rintro t (h | h)
  · simp only [sleep, run_get_bind, h.1, Bool.false_eq_true, if_false]
    refine quits_loop (I := Attached script) (fun _ h => h) (quits_bind (wait_minds script)
      fun w => ?_) fuel t h
    cases w with
    | token =>
      refine quits_bind (shouldBreak_minds script mode) fun b => ?_
      cases b with
      | true => exact quits_pure fun _ h => h
      | false => exact quits_pure fun _ h => h
    | dropped => exact checkGuard_minds script
    | timer => exact fun _ h => h
    | _ => exact fail_minds script
  · simp only [sleep, run_get_bind, h.1, if_true]
    exact checkGuard_minds script t h.2.2

lemma connectTo_minds : Triple (Attached script) (connectTo serde fuel mode)
    (Minds (δ := δ) script fun _ => Attached script) := by
  intro t h
  simp only [connectTo, run_get_bind, h.1, Bool.false_eq_true, if_false]
  refine quits_loop (I := Attached script) (fun _ h => h) (quits_bind (wait_minds script)
    fun w => ?_) fuel t h
  cases w with
  | token =>
    refine quits_bind (shouldBreak_minds script mode) fun b => ?_
    cases b with
    | true => exact fail_minds script
    | false => exact quits_pure fun _ h => h
  | dropped => exact checkGuard_minds script
  | connected answers => exact quits_pure fun _ h => h
  | _ => exact fail_minds script

/-- Behind a failure the mode is loaded, and the task sleeps: not where its handle is gone. -/
lemma retry_minds (e : Error) (text : String) : Triple (Loosened script)
    (do
      if ← shouldBreak mode then Prog.fail (.err e)
      else if ← sleep fuel mode (← Prog.get).config.connection.retryInterval then return none
      else Prog.fail (.err (.msg text)))
    (Minds (δ := δ) script (Round O (Attached script))) := by
  refine quits_bind (O := fun _ => Loosened script) (fun _ h => h) fun b => ?_
  cases b with
  | true => exact quits_err fun _ h => h
  | false =>
    refine Triple.get_bind fun t => quits_bind (sleep_minds script mode fuel _) fun b => ?_
    cases b with
    | true => exact quits_pure fun _ h => h
    | false => exact fail_minds script

lemma connectLoop_minds : Triple (Attached script) (connectLoop serde fuel mode)
    (Minds (δ := δ) script fun _ => Attached script) := by
  refine quits_bind (shouldBreak_minds script mode) fun b => ?_
  cases b with
  | true => exact fail_minds script
  | false =>
    refine quits_loop (fun _ h => h) (quits_catching (connectTo_minds script serde mode fuel) ?_ ?_) fuel
    · exact fun conn => quits_pure fun _ h => h
    · exact fun e => retry_minds script mode fuel e _

end Basic

section Open
variable (script) (d : Delegate δ) (serde : Serde) (fuel : ℕ)

lemma openSession_minds (conn : Conn) : Triple (Attached script) (openSession d fuel conn)
    (Minds script fun _ => Attached script) := by
  refine quits_bind (same_minds script fun _ h => h) fun conn => ?_
  refine quits_bind (same_minds script fun _ h => h) fun xfer => ?_
  refine quits_bind (same_minds script fun _ h => h) fun r => ?_
  refine quits_loop (fun _ h => h) (quits_bind (quits_context _ (recvRaw_minds script _ fuel))
    fun raw => ?_) fuel
  cases raw with
  | some raw => exact fun _ h => h
  | none =>
    refine quits_bind (shouldBreak_minds script .connect) fun b => ?_
    cases b with
    | true => exact fail_minds script
    | false => exact quits_pure fun _ h => h

lemma openLoop_minds : Triple (Attached script) (openLoop d serde fuel)
    (Minds script fun _ => Attached script) := by
  refine quits_loop (fun _ h => h) (quits_bind (connectLoop_minds script serde .connect fuel)
    fun conn => quits_catching (openSession_minds script d fuel conn) ?_ ?_) fuel
  · exact fun r => quits_pure fun _ h => h
  · exact fun e => retry_minds script .connect fuel e _

lemma phaseOpen_minds : Triple (Attached script) (phaseOpen d serde fuel)
    (Minds script fun _ => Attached script) := by
  refine Triple.get_bind fun t => quits_bind (quits_timeout _ (fun _ => .inl)
    (openLoop_minds script d serde fuel)) fun r => ?_
  obtain ⟨conn,raw,xfer⟩ := r
  cases hp : serde.packet raw with
  | none =>
    simp only [hp]
    exact fail_minds script
  | some packet =>
    simp only [hp]
    refine quits_bind (same_minds script (Keeps.withContext _ (Keeps.ofExcept _))) fun ids =>
      Triple.get_bind fun t => Triple.get_bind fun t' => ?_
    refine quits_bind (same_minds script (Keeps.catching fun _ h => h)) fun _ => ?_
    exact quits_pure fun _ h => h

end Open

section Work
variable (script) (d : Delegate δ) (serde : Serde) (fuel : ℕ)

/-- How the parts with a session end. -/
abbrev MindsOn (O : α → Task δ × Session → Prop) : Except Stop α → Task δ × Session → Prop :=
  Quits O (fun s => Attached script s.1) fun s => Loosened script s.1

variable {script} in
lemma onTask_minds {P : Task δ → Prop} {O : α → Task δ → Prop} {m : Prog (Task δ) Stop α}
    (hm : Triple P m (Minds script O)) :
    Triple (fun s => P s.1) (onTask m) (MindsOn script fun a s => O a s.1) :=
  quits_zoom hm (fun _ h => h) (fun _ _ _ h => h) (fun _ _ h => h) fun _ _ h => h

lemma kept_minds {m : Prog (Task δ × Session) Stop α} (hm : Keeps (fun s => Attached script s.1) m) :
    Triple (fun s => Attached script s.1) m (MindsOn script fun _ s => Attached script s.1) :=
  quits_of_keeps hm (fun _ h => h) fun _ => .inl

lemma orTick_minds {deadline : Option ℕ} {m : Prog (Task δ × Session) Stop α}
    (hm : Triple (fun s => Attached script s.1) m (MindsOn script fun _ s => Attached script s.1)) :
    Triple (fun s => Attached script s.1) (orTick deadline m)
      (MindsOn script fun _ s => Attached script s.1) := by
  intro s hs
  have h := hm s hs
  unfold orTick
  rcases hr : m.run s with ⟨r,s'⟩
  rw [hr] at h
  cases r with
  | ok a =>
    simp only [hr]
    exact h
  | error stop =>
    cases stop with
    | timer =>
      simp only [hr]
      cases deadline with
      | none => exact h
      | some deadline => exact h
    | _ =>
      simp only [hr]
      exact h

lemma dispatch_keeps (p : Packet) : Keeps (fun s : Task δ × Session => Attached script s.1)
    (dispatch d serde p) := by
  have hresponse : Keeps (fun s : Task δ × Session => Attached script s.1) (dispatchResponse d serde p) := by
    refine Keeps.bind (Keeps.ofExcept _) fun ack => Keeps.bind (Keeps.ofExcept _) fun typed =>
      Keeps.bind (fun _ h => h) fun b => ?_
    cases b with
    | true => exact Keeps.pure _
    | false => exact Keeps.bind (fun _ h => h) fun _ => Keeps.pure _
  have hpush : Keeps (fun s : Task δ × Session => Attached script s.1) (dispatchPush d serde p) := by
    refine Keeps.bind (Keeps.ofExcept _) fun push => ?_
    cases push with
    | closed status =>
      refine Keeps.bind (Keeps.bind (Keeps.catching fun _ h => h) fun _ => ?_) fun _ => Keeps.pure _
      exact Keeps.bind (Keeps.catching fun _ h => h) fun _ => fun _ h => h
    | _ => exact Keeps.bind (fun _ h => h) fun _ => Keeps.pure _
  unfold dispatch
  cases p.typ? with
  | none => exact Keeps.pure _
  | some typ =>
    cases typ with
    | request => exact Keeps.fail _
    | response => exact hresponse
    | _ => exact hpush

lemma phaseWork_minds : Triple (fun s : Task δ × Session => Attached script s.1)
    (phaseWork d serde fuel) (MindsOn script fun _ s => Attached script s.1) := by
  have hop : Keeps (fun s : Task δ × Session => Attached script s.1)
      (withContext "try_handle_msgs failed" (tryHandleOp d)) :=
    Keeps.withContext _ (Keeps.bind (Keeps.withContext _ fun _ h => h) fun _ => fun _ h => h)
  refine quits_loop (fun _ h => h) (quits_bind (kept_minds script hop) fun _ =>
    Triple.get_bind fun s => Triple.get_bind fun s' => quits_bind (orTick_minds script
      (quits_context _ (onTask_minds (recvPacket_minds script serde .work fuel)))) fun r => ?_) fuel
  match r with
  | none =>
    exact Triple.get_bind fun s => quits_bind (kept_minds script fun _ h => h) fun _ =>
      quits_pure fun _ h => h
  | some none =>
    refine quits_bind (onTask_minds (shouldBreak_minds script .work)) fun b => ?_
    cases b with
    | true => exact quits_pure fun _ h => h
    | false => exact quits_pure fun _ h => h
  | some (some p) =>
    refine quits_round (kept_minds script (Keeps.bind (fun _ h => h) fun _ => Keeps.get_bind fun s => ?_))
    exact Keeps.bind (fun _ h => h) fun _ => Keeps.bind (fun _ h => h) fun _ =>
      dispatch_keeps script d serde p

lemma reconnectSession_minds (conn : Conn) : Triple (fun s : Task δ × Session => Attached script s.1)
    (reconnectSession serde fuel conn) (MindsOn script fun _ s => Attached script s.1) := by
  refine quits_bind (kept_minds script fun _ h => h) fun _ => Triple.get_bind fun s => ?_
  refine quits_bind (kept_minds script fun _ h => h) fun conn => ?_
  refine quits_loop (fun _ h => h) (quits_bind (onTask_minds (quits_context _
    (recvPacket_minds script serde .work fuel))) fun r => ?_) fuel
  cases r with
  | none =>
    refine quits_bind (onTask_minds (shouldBreak_minds script .work)) fun b => ?_
    cases b with
    | true => exact quits_err fun _ => .inl
    | false => exact quits_pure fun _ h => h
  | some packet =>
    refine quits_bind (kept_minds script fun _ h => h) fun _ => quits_bind (kept_minds script
      (Keeps.withContext _ (Keeps.ofExcept _))) fun connId => ?_
    refine quits_bind (kept_minds script fun _ h => h) fun _ => Triple.get_bind fun s => ?_
    refine quits_bind (kept_minds script fun _ h => h) fun _ =>
      quits_bind (kept_minds script fun _ h => h) fun _ =>
        quits_bind (kept_minds script fun _ h => h) fun _ => quits_pure fun _ h => h

lemma phaseReconnect_minds : Triple (fun s : Task δ × Session => Attached script s.1)
    (phaseReconnect serde fuel) (MindsOn script fun _ s => Attached script s.1) := by
  refine Triple.get_bind fun s => quits_timeout _ (fun _ => .inl) (quits_loop (fun _ h => h)
    (quits_bind (onTask_minds (connectLoop_minds script serde .work fuel)) fun conn =>
      quits_catching (reconnectSession_minds script serde fuel conn) (fun _ => ?_) fun e => ?_) fuel)
  · exact quits_pure fun _ h => h
  refine quits_bind (O := fun _ (s : Task δ × Session) => Loosened script s.1) (fun _ h => h) fun b => ?_
  cases b with
  | true => exact quits_err fun _ h => h
  | false =>
    simp only [Bool.false_eq_true, if_false]
    split
    · exact quits_err fun _ h => h
    · refine Triple.get_bind fun s => quits_bind (onTask_minds (sleep_minds script .work fuel _))
        fun b => ?_
      cases b with
      | true => exact quits_pure fun _ h => h
      | false => exact quits_err fun _ => .inl

/-- How a round of the loop of `try_run` ends. -/
abbrev RoundMinds : Except Stop (Option Unit) → Task δ × Session → Prop :=
  MindsOn script (Round (fun _ s => Loosened script s.1) fun s => Attached script s.1)

lemma afterWork_minds (r : Except Error Unit) : Triple (fun s : Task δ × Session => Attached script s.1)
    (afterWork serde fuel r) (RoundMinds script) := by
  have hreconnect : Triple (fun s : Task δ × Session => Attached script s.1) (do
      phaseReconnect serde fuel
      return none : Prog (Task δ × Session) Stop (Option Unit)) (RoundMinds script) :=
    quits_bind (phaseReconnect_minds script serde fuel) fun _ => quits_pure fun _ h => h
  refine quits_bind (kept_minds script fun _ h => h) fun b => ?_
  cases b with
  | true =>
    cases r with
    | ok _ => exact quits_bind (kept_minds script fun _ h => h) fun _ => hreconnect
    | error e => exact quits_bind (kept_minds script fun _ h => h) fun _ => hreconnect
  | false =>
    cases r with
    | ok _ => exact hreconnect
    | error e =>
      simp only [Bool.false_eq_true, if_false]
      split
      · exact quits_pure fun _ => .inl
      · exact hreconnect

/-- A drop that is seen in `phase_work` is noted, and the loop of `try_run` ends. -/
lemma workRound_minds : Triple (fun s : Task δ × Session => Attached script s.1)
    (workRound d serde fuel) (RoundMinds script) := by
  refine quits_catching (phaseWork_minds script d serde fuel) (fun _ => ?_) fun e => ?_
  · refine Triple.get_bind fun s => ?_
    split
    · exact quits_pure fun _ => .inl
    · exact afterWork_minds script serde fuel _
  · intro s h
    simp only [run_get_bind]
    split
    · exact h
    · next hflag =>
      have hattached : Attached script s.1 := h.resolve_right fun hd => hflag hd.2.1
      exact afterWork_minds script serde fuel _ s hattached

lemma tryRun_minds : Triple (Attached script) (tryRun d serde fuel)
    (Minds script fun _ => Loosened script) := by
  refine quits_bind (phaseOpen_minds script d serde fuel) fun session => ?_
  have hloop : Triple (fun s : Task δ × Session => Attached script s.1) (workLoop d serde fuel)
      (MindsOn script fun _ s => Loosened script s.1) :=
    quits_loop (fun _ h => h) (workRound_minds script d serde fuel) fuel
  exact quits_zoom hloop (fun _ h => h) (fun _ _ _ h => h) (fun _ _ h => h) fun _ _ h => h

/-- The drop is the last thing that was read of the script, or none was read. -/
def LastRead (t : Task δ) : Prop := NoDrop script t.env.waits ∨ AtDrop script t.env.waits

lemma Loosened.lastRead {t : Task δ} (h : Loosened script t) : LastRead script t :=
  h.imp (fun h => h.2) fun h => h.2.2

/-- The end of `run` waits for nothing. -/
lemma closing_lastRead (r : Except Error Unit) {Q F : Task δ → Prop} :
    Triple (LastRead script) (do
      let status ← closeStatus r
      let _ ← Prog.catching (call (.onClosed status) (d.onClosed status)))
      (Quits (fun _ => LastRead script) Q F) := by
  have hstatus : Triple (LastRead (δ := δ) script) (closeStatus r)
      (Quits (fun _ => LastRead script) Q F) := by
    cases r with
    | ok _ => exact quits_pure fun _ h => h
    | error e =>
      refine Triple.get_bind fun t => ?_
      cases t.gotClosed with
      | none => exact quits_pure fun _ h => h
      | some status => exact fun _ h => h
  refine quits_bind hstatus fun status => quits_bind (O := fun _ => LastRead script) ?_ fun _ =>
    quits_pure fun _ h => h
  intro t h
  obtain ⟨r,hr⟩ := catching_call_ok (.onClosed status) (d.onClosed status) t
  rw [hr, Quits, catching_state]
  exact h

lemma run_minds : Triple (Attached script) (run d serde fuel)
    (Leaves (fun _ => LastRead script) (Attached script)) :=
  quits_catching (tryRun_minds script d serde fuel)
    (fun _ => (closing_lastRead script d _).pre fun _ => Loosened.lastRead script)
    fun _ => (closing_lastRead script d _).pre fun _ => Loosened.lastRead script

/-- In every run of the worker, either no drop of the handle was read of the script, or the run has
returned and the drop is the last thing that it has read. -/
theorem run_drop (config : JoinConfig) (listener : δ) (now : ℕ) (modes : ℕ → ShutdownMode)
    (drops : ℕ → Bool) :
    NoDrop script ((run d serde fuel).run (Task.new config listener now script modes drops)).2.env.waits ∨
    ((run d serde fuel).run (Task.new config listener now script modes drops)).1 = .ok () ∧
      AtDrop script
        ((run d serde fuel).run (Task.new config listener now script modes drops)).2.env.waits := by
  have hnew : Attached script (Task.new config listener now script modes drops) :=
    ⟨rfl,[],rfl,fun _ h => absurd h List.not_mem_nil⟩
  have hrun := run_minds script d serde fuel _ hnew
  cases hr : ((run d serde fuel).run (Task.new config listener now script modes drops)).1 with
  | ok a =>
    rw [hr] at hrun
    exact hrun.imp_right fun h => ⟨rfl,h⟩
  | error e =>
    rw [hr] at hrun
    exact .inl (leaves_error.mp hrun).2

end Work
end Task
end VvClient
