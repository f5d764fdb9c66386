import VvClient.Kit.Actor

/-! What a drop of the `Actor` does, where the queue may be full and other threads go on sending: the
loop is never left waiting, and it takes at most one more operation and one more batch. -/
namespace VvClient.Kit.ActorTask

variable {ε Next Msg Request : Type*}

/-- The loop is before the operation that starts the next batch. -/
def idle : RunAt ε Next Msg Request → Bool
  | .handleFirst => true
  | .select => true
  | .handleNext _ => true
  | _ => false

/-- How many operations are taken before `is_drop` is loaded, at most. -/
def left : RunAt ε Next Msg Request → ℕ
  | .handleFirst => batchSize + 1
  | .select => batchSize + 1
  | .handleNext _ => batchSize + 1
  | .handleMsg _ more => more
  | .handle _ more => more
  | .handleMoreOp more => more
  | .loadDrop => 0
  | .returned _ => 0

/-- `run_actor` waits, and nothing is there for it. -/
def Waiting (s : ActorTask ε Next Msg Request) : Prop := s.run = .select ∧ s.queue = []

/-- What holds in every state. -/
structure DropInv (s : ActorTask ε Next Msg Request) : Prop where
  stored : s.isDrop = false ↔ s.actor = .held
  fresh : s.isDrop = false → s.sinceDrop = 0
  bounded : s.sinceDrop + left s.run ≤ batchSize + 1
  pending : s.actor = .dropped → idle s.run = true → s.queue ≠ []

lemma handleOp_fields (s : ActorTask ε Next Msg Request) (op : Op Msg Request) (more : ℕ)
    (unheard : Bool) :
    (s.handleOp op more unheard).isDrop = s.isDrop ∧ (s.handleOp op more unheard).actor = s.actor ∧
    (s.handleOp op more unheard).sinceDrop = s.sinceDrop ∧
    idle (s.handleOp op more unheard).run = false ∧ left (s.handleOp op more unheard).run ≤ more := by
  cases op with
  | shutdown => exact ⟨rfl,rfl,rfl,rfl,Nat.zero_le _⟩
  | msg msg => exact ⟨rfl,rfl,rfl,rfl,Nat.le_refl _⟩
  | invoke request => cases unheard <;> exact ⟨rfl,rfl,rfl,rfl,Nat.le_refl _⟩

lemma push_fields (s : ActorTask ε Next Msg Request) (op : Op Msg Request) :
    (s.push op).isDrop = s.isDrop ∧ (s.push op).actor = s.actor ∧
    (s.push op).sinceDrop = s.sinceDrop ∧ (s.queue ≠ [] → (s.push op).queue ≠ []) := by
  unfold push
  split
  · exact ⟨rfl,rfl,rfl,id⟩
  · split
    · exact ⟨rfl,rfl,rfl,fun _ => by simp⟩
    · exact ⟨rfl,rfl,rfl,id⟩

/-- While the loop runs, an operation that is not accepted finds the channel full. -/
lemma push_queue {s : ActorTask ε Next Msg Request} (h : ∀ result, s.run ≠ .returned result)
    (op : Op Msg Request) : (s.push op).queue ≠ [] := by
  unfold push
  split
  · next result hrun => exact absurd hrun (h result)
  · split
    · simp
    · next hfull =>
      intro hnil
      rw [hnil] at hfull
      exact hfull (by simp [channelSize])

/-- The counter counts what is taken while `is_drop` is set. -/
lemma step_sinceDrop (s : ActorTask ε Next Msg Request) (l : Event ε Next Msg Request) :
    (s.step l).sinceDrop = s.sinceDrop + if s.isDrop = true ∧ (s.takes l).isSome then 1 else 0 := by
  cases l with
  | send op => simp only [step, takes]; split <;> simp [push_fields]
  | cloneInvoker => simp only [step, takes]; split <;> simp
  | dropInvoker => simp [step, takes]
  | storeDrop => simp only [step, takes]; split <;> simp
  | trySendShutdown => simp only [step, takes]; split <;> simp [push_fields]
  | returns result => simp only [step, returns, takes]; split <;> simp [finish, select]
  | responds => simp only [step, responds, takes]; split <;> simp
  | waitNext next => simp only [step, waitNext, takes]; split <;> simp
  | loadDrop =>
    simp only [step, loadDrop, takes]
    split
    · split <;> simp [finish, select]
    · simp
  | recv unheard =>
    rcases s with ⟨queue,isDrop,actor,invokers,run,calls,sinceDrop⟩
    cases run with
    | select =>
      cases queue with
      | nil => simp only [step, recv, takes]; split <;> simp [finish]
      | cons op queue => simp [step, recv, takes, handleOp_fields, taken]
    | handleMoreOp more =>
      cases more with
      | zero => simp [step, recv, takes]
      | succ more =>
        cases queue with
        | nil => simp only [step, recv, takes]; split <;> simp [finish]
        | cons op queue => simp [step, recv, takes, handleOp_fields, taken]
    | _ => simp [step, recv, takes]

namespace DropInv

variable {s : ActorTask ε Next Msg Request}

lemma new : (ActorTask.new : ActorTask ε Next Msg Request).DropInv :=
  ⟨by simp [ActorTask.new],fun _ => rfl,by simp [ActorTask.new, left],by simp [ActorTask.new]⟩

/-- The loop leaves its start, or is in a batch already. -/
lemma busy (h : s.DropInv) {run : RunAt ε Next Msg Request} (calls : List (Call Next Msg Request))
    (hidle : idle run = false) (hleft : left run ≤ left s.run) :
    { s with run := run, calls := calls }.DropInv :=
  ⟨h.stored,h.fresh,Nat.le_trans (Nat.add_le_add_left hleft _) h.bounded,
    fun _ hi => absurd hi (by simp [hidle])⟩

lemma finish (h : s.DropInv) (result : Except ε Unit) : (s.finish result).DropInv :=
  h.busy s.calls rfl (Nat.zero_le _)

/-- The loop goes on at its start. -/
lemma again (h : s.DropInv) (hs : idle s.run = true) {run : RunAt ε Next Msg Request}
    (calls : List (Call Next Msg Request)) (hleft : left run ≤ left s.run) :
    { s with run := run, calls := calls }.DropInv :=
  ⟨h.stored,h.fresh,Nat.le_trans (Nat.add_le_add_left hleft _) h.bounded,fun ha _ => h.pending ha hs⟩

/-- An operation is taken, where one more may be. -/
lemma take (h : s.DropInv) {op : Op Msg Request} {more : ℕ} (queue : List (Op Msg Request))
    (unheard : Bool) (hleft : more + 1 ≤ left s.run) :
    ((s.taken queue).handleOp op more unheard).DropInv := by
  obtain ⟨hd,ha,hsince,hidle,hl⟩ := handleOp_fields (s.taken queue) op more unheard
  have hb := h.bounded
  refine ⟨?_,?_,?_,fun _ hi => absurd hi (by simp [hidle])⟩
  · rw [hd, ha]
    exact h.stored
  · rw [hd, hsince]
    intro hfalse
    have hfalse' : s.isDrop = false := hfalse
    simp [taken, hfalse', h.fresh hfalse']
  · rw [hsince]
    have hone : (s.taken queue).sinceDrop ≤ s.sinceDrop + 1 := by
      simp only [taken]
      split <;> omega
    omega

lemma recv (h : s.DropInv) (unheard : Bool) : (s.recv unheard).DropInv := by
  unfold ActorTask.recv
  split
  · next op queue hrun hq => exact h.take queue unheard (by simp [hrun, left])
  · split
    · exact h.finish _
    · exact h
  · next hrun => exact h.busy s.calls rfl (by simp [left])
  · next more op queue hrun hq => exact h.take queue unheard (by simp [hrun, left])
  · next more hrun hq =>
    split
    · exact h.finish _
    · exact h.busy s.calls rfl (by simp [left])
  · exact h

lemma returns (h : s.DropInv) (result : Except ε Action) : (s.returns result).DropInv := by
  unfold ActorTask.returns
  split
  · exact h.finish _
  · exact h.finish _
  · next hrun => exact h.again (by simp [hrun, idle]) _ (by simp [hrun, left])
  · exact h.finish _
  · next hrun => exact h.again (by simp [hrun, idle]) _ (by simp [hrun, left])
  · exact h.finish _
  · exact h.finish _
  · next hrun => exact h.busy s.calls rfl (by simp [hrun, left])
  · exact h

lemma loadDrop (h : s.DropInv) : s.loadDrop.DropInv := by
  unfold ActorTask.loadDrop
  split
  · split
    · exact h.finish _
    · next hd =>
      have hfalse : s.isDrop = false := by simpa using hd
      refine ⟨h.stored,h.fresh,?_,fun ha => ?_⟩
      · simp [select, left, h.fresh hfalse]
      · have hheld := h.stored.mp hfalse
        rw [show s.select.actor = s.actor from rfl, hheld] at ha
        cases ha
  · exact h

lemma responds (h : s.DropInv) : s.responds.DropInv := by
  unfold ActorTask.responds
  split
  · next hrun => exact h.busy s.calls rfl (by simp [hrun, left])
  · exact h

lemma waitNext (h : s.DropInv) (next : Next) : (s.waitNext next).DropInv := by
  unfold ActorTask.waitNext
  split
  · next hrun => exact h.again (by simp [hrun, idle]) _ (by simp [hrun, left])
  · exact h

lemma push (h : s.DropInv) (op : Op Msg Request) : (s.push op).DropInv := by
  obtain ⟨hd,ha,hsince,hq⟩ := push_fields s op
  refine ⟨?_,?_,?_,?_⟩
  · rw [hd, ha]
    exact h.stored
  · rw [hd, hsince]
    exact h.fresh
  · rw [hsince, push_run]
    exact h.bounded
  · rw [ha, push_run]
    exact fun hdrop hi => hq (h.pending hdrop hi)

/-- The flag counts from now on. -/
lemma storeDrop (h : s.DropInv) :
    { s with actor := .stored, isDrop := true }.DropInv :=
  ⟨by simp,by simp,h.bounded,fun ha => by cases ha⟩

/-- The `Shutdown` is in the queue, or the queue was full: something is there for the loop. -/
lemma trySendShutdown (h : s.DropInv) (hs : s.actor = .stored) :
    { s.push .shutdown with actor := .dropped }.DropInv := by
  have hd := (push_fields s .shutdown).1
  have hstored : s.isDrop = true := by
    cases hdrop : s.isDrop with
    | true => rfl
    | false => rw [h.stored.mp hdrop] at hs; cases hs
  refine ⟨by simp [hd, hstored],(h.push .shutdown).fresh,(h.push .shutdown).bounded,fun _ hi => ?_⟩
  refine push_queue (fun result hrun => ?_) .shutdown
  have hi' : idle (s.push .shutdown).run = true := hi
  rw [push_run, hrun] at hi'
  cases hi'

lemma step (h : s.DropInv) (l : Event ε Next Msg Request) : (s.step l).DropInv := by
  cases l with
  | send op => simp only [ActorTask.step]; split; exacts [h.push op,h]
  | cloneInvoker =>
    simp only [ActorTask.step]
    split
    · exact h
    · exact ⟨h.stored,h.fresh,h.bounded,h.pending⟩
  | dropInvoker => exact ⟨h.stored,h.fresh,h.bounded,h.pending⟩
  | storeDrop => simp only [ActorTask.step]; split; exacts [h.storeDrop,h]
  | trySendShutdown => simp only [ActorTask.step]; split; exacts [h.trySendShutdown ‹_›,h]
  | returns result => exact h.returns result
  | responds => exact h.responds
  | waitNext next => exact h.waitNext next
  | recv unheard => exact h.recv unheard
  | loadDrop => exact h.loadDrop

end DropInv

/-- How many operations a run takes from the queue while `is_drop` is set. -/
def dequeued : ActorTask ε Next Msg Request → List (Event ε Next Msg Request) → ℕ
  | _,[] => 0
  | s,l::ls => (if s.isDrop = true ∧ (s.takes l).isSome then 1 else 0) + dequeued (s.step l) ls

lemma run_sinceDrop (s : ActorTask ε Next Msg Request) (ls : List (Event ε Next Msg Request)) :
    (Machine.run step s ls).sinceDrop = s.sinceDrop + dequeued s ls := by
  induction ls generalizing s with
  | nil => rfl
  | cons l ls ih => rw [Machine.run_cons, ih, step_sinceDrop, dequeued, Nat.add_assoc]

/-- After the drop `run_actor` never waits on an empty queue, and from the store of `is_drop` on it
takes at most nine operations. -/
theorem drop_ends (ls : List (Event ε Next Msg Request)) :
    Machine.Always step (fun s => s.actor = .dropped → ¬ s.Waiting)
      (new : ActorTask ε Next Msg Request) ls ∧
    dequeued (new : ActorTask ε Next Msg Request) ls ≤ 9 := by
  have hinv : Machine.Always step DropInv (new : ActorTask ε Next Msg Request) ls :=
    Machine.always_of_step (I := DropInv) (fun _ l h => h.step l) (fun _ h => h) DropInv.new ls
  constructor
  · refine hinv.mono fun s h hdrop => ?_
    rintro ⟨hrun,hq⟩
    exact h.pending hdrop (by simp [hrun, idle]) hq
  · have hb := hinv.last.bounded
    rw [run_sinceDrop, batchSize] at hb
    simp only [new] at hb ⊢
    omega

end VvClient.Kit.ActorTask
