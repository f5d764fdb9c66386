import VvClient.Lib.Machine

/-! An actor: the loop that feeds its handler, the queue of its operations, and the handles that other
threads hold. A step is one turn of the loop between two awaits, or one move of another thread; the
results of the handler come from outside. -/
namespace VvClient.Kit

/-- The capacity of the channel of operations. -/
def channelSize : ℕ := 128

/-- How many operations `handle_more_op` takes at most. -/
def batchSize : ℕ := 8

inductive Op (Msg Request : Type*)
  | shutdown
  | invoke (request : Request)
  | msg (msg : Msg)
  deriving DecidableEq

inductive Action
  | none
  | finished
  deriving DecidableEq

/-- A call of a method of the handler. -/
inductive Call (Next Msg Request : Type*)
  | handleFirst
  | waitNext
  | handleNext (next : Next)
  | handleMsg (msg : Msg)
  | handle (request : Request)
  deriving DecidableEq

/-- Where `run_actor` is. -/
inductive RunAt (ε Next Msg Request : Type*)
  | handleFirst
  /-- `wait_next` and `op_rx.recv()` are awaited -/
  | select
  | handleNext (next : Next)
  /-- `handle_msg`, with what `handle_more_op` may still take behind it -/
  | handleMsg (msg : Msg) (more : ℕ)
  /-- the handler of an `Invoke` -/
  | handle (request : Request) (more : ℕ)
  /-- the loop of `handle_more_op` -/
  | handleMoreOp (more : ℕ)
  /-- behind that loop, where `is_drop` is loaded -/
  | loadDrop
  /-- `run_actor` has returned, and its task has ended. The task drops `op_rx` only behind `into_result`,
  which is one step with the return here. -/
  | returned (result : Except ε Unit)

/-- The drop of the `Actor`: it stores `is_drop`, and tries to send a `Shutdown` afterwards. -/
inductive DropAt
  | held
  | stored
  | dropped
  deriving DecidableEq

variable (ε Next Msg Request : Type*) in
structure ActorTask where
  /-- `op_rx` -/
  queue : List (Op Msg Request)
  isDrop : Bool
  /-- the handle of the actor -/
  actor : DropAt
  /-- the clones of its `Invoker` -/
  invokers : ℕ
  run : RunAt ε Next Msg Request
  /-- every call of the handler so far -/
  calls : List (Call Next Msg Request)
  /-- the operations that were taken since `is_drop` was stored -/
  sinceDrop : ℕ

variable (ε Next Msg Request : Type*) in
inductive Event
  /-- an `Invoker` has found room in the channel -/
  | send (op : Op Msg Request)
  | cloneInvoker
  | dropInvoker
  /-- the two halves of `Actor::drop` -/
  | storeDrop
  | trySendShutdown
  /-- `handle_first`, `handle_next` or `handle_msg` returns -/
  | returns (result : Except ε Action)
  /-- the handler of an `Invoke` returns -/
  | responds
  | waitNext (next : Next)
  /-- `recv` or `try_recv` returns. `unheard` says that the caller of an `Invoke` is gone. -/
  | recv (unheard : Bool)
  | loadDrop

namespace ActorTask

variable {ε Next Msg Request : Type*}

def new : ActorTask ε Next Msg Request := ⟨[],false,.held,0,.handleFirst,[.handleFirst],0⟩

/-- No sender is left. -/
def disconnected (s : ActorTask ε Next Msg Request) : Prop := s.actor = .dropped ∧ s.invokers = 0

instance (s : ActorTask ε Next Msg Request) : Decidable s.disconnected :=
  inferInstanceAs (Decidable (_ ∧ _))

/-- `run_actor` returns, and the spawned block behind it runs to its end, where `op_rx` is dropped. -/
def finish (result : Except ε Unit) (s : ActorTask ε Next Msg Request) : ActorTask ε Next Msg Request :=
  { s with run := .returned result }

/-- A turn of the select loop: `wait_next` is called next to the pending `recv`. -/
def select (s : ActorTask ε Next Msg Request) : ActorTask ε Next Msg Request :=
  { s with run := .select, calls := s.calls ++ [.waitNext] }

/-- `handle_op` on an operation that was taken from the queue. -/
def handleOp (op : Op Msg Request) (more : ℕ) (unheard : Bool) (s : ActorTask ε Next Msg Request) :
    ActorTask ε Next Msg Request :=
  match op with
  | .shutdown => s.finish (.ok ())
  | .invoke request =>
    if unheard then { s with run := .handleMoreOp more }
    else { s with run := .handle request more, calls := s.calls ++ [.handle request] }
  | .msg msg => { s with run := .handleMsg msg more, calls := s.calls ++ [.handleMsg msg] }

/-- The queue without its first operation. -/
def taken (queue : List (Op Msg Request)) (s : ActorTask ε Next Msg Request) :
    ActorTask ε Next Msg Request :=
  { s with queue := queue, sinceDrop := s.sinceDrop + if s.isDrop then 1 else 0 }

/-- `op_rx.recv()` in the select loop, and `op_rx.try_recv()` in `handle_more_op`. -/
def recv (unheard : Bool) (s : ActorTask ε Next Msg Request) : ActorTask ε Next Msg Request :=
  match s.run,s.queue with
  | .select,op::queue => (s.taken queue).handleOp op batchSize unheard
  | .select,[] => if s.disconnected then s.finish (.ok ()) else s
  | .handleMoreOp 0,_ => { s with run := .loadDrop }
  | .handleMoreOp (more+1),op::queue => (s.taken queue).handleOp op more unheard
  | .handleMoreOp (_+1),[] =>
    if s.disconnected then s.finish (.ok ()) else { s with run := .loadDrop }
  | _,_ => s

/-- What becomes of the result of a handler. That of `handle_next` is only looked at for an error. -/
def returns (result : Except ε Action) (s : ActorTask ε Next Msg Request) :
    ActorTask ε Next Msg Request :=
  match s.run,result with
  | .handleFirst,.error e => s.finish (.error e)
  | .handleFirst,.ok .finished => s.finish (.ok ())
  | .handleFirst,.ok .none => s.select
  | .handleNext _,.error e => s.finish (.error e)
  | .handleNext _,.ok _ => s.select
  | .handleMsg _ _,.error e => s.finish (.error e)
  | .handleMsg _ _,.ok .finished => s.finish (.ok ())
  | .handleMsg _ more,.ok .none => { s with run := .handleMoreOp more }
  | _,_ => s

/-- The end of `handle_more_op`. -/
def loadDrop (s : ActorTask ε Next Msg Request) : ActorTask ε Next Msg Request :=
  match s.run with
  | .loadDrop => if s.isDrop then s.finish (.ok ()) else s.select
  | _ => s

def responds (s : ActorTask ε Next Msg Request) : ActorTask ε Next Msg Request :=
  match s.run with
  | .handle _ more => { s with run := .handleMoreOp more }
  | _ => s

def waitNext (next : Next) (s : ActorTask ε Next Msg Request) : ActorTask ε Next Msg Request :=
  match s.run with
  | .select => { s with run := .handleNext next, calls := s.calls ++ [.handleNext next] }
  | _ => s

/-- An operation enters the channel, if the receiver is there and has room for it. -/
def push (op : Op Msg Request) (s : ActorTask ε Next Msg Request) : ActorTask ε Next Msg Request :=
  match s.run with
  | .returned _ => s
  | _ => if s.queue.length < channelSize then { s with queue := s.queue ++ [op] } else s

def step (s : ActorTask ε Next Msg Request) : Event ε Next Msg Request → ActorTask ε Next Msg Request
  | .send op => if s.actor = .held ∨ 0 < s.invokers then s.push op else s
  | .cloneInvoker => if s.disconnected then s else { s with invokers := s.invokers + 1 }
  | .dropInvoker => { s with invokers := s.invokers - 1 }
  | .storeDrop => if s.actor = .held then { s with actor := .stored, isDrop := true } else s
  | .trySendShutdown =>
    if s.actor = .stored then { s.push .shutdown with actor := .dropped } else s
  | .returns result => s.returns result
  | .responds => s.responds
  | .waitNext next => s.waitNext next
  | .recv unheard => s.recv unheard
  | .loadDrop => s.loadDrop

/-- The operation that a step takes from the queue. -/
def takes (s : ActorTask ε Next Msg Request) : Event ε Next Msg Request → Option (Op Msg Request)
  | .recv _ =>
    match s.run with
    | .select => s.queue.head?
    | .handleMoreOp (_+1) => s.queue.head?
    | _ => none
  | _ => none

/-- A method whose `ActionRes` decides whether the actor goes on is being awaited. -/
def deciding (s : ActorTask ε Next Msg Request) : Prop :=
  match s.run with
  | .handleFirst => True
  | .handleNext _ => True
  | .handleMsg _ _ => True
  | _ => False

/-- The actor is told to stop: by a `Shutdown`, by `Action::Finished` or by an error. -/
def Told (s : ActorTask ε Next Msg Request) (l : Event ε Next Msg Request) : Prop :=
  s.takes l = some .shutdown ∨ s.deciding ∧ (l = .returns (.ok .finished) ∨ ∃ e, l = .returns (.error e))

/-- `run_actor` has returned, and calls no method of the handler any more. -/
def Over (s : ActorTask ε Next Msg Request) : Prop :=
  ∃ result, ∀ ls, (Machine.run step s ls).run = .returned result ∧ (Machine.run step s ls).calls = s.calls

/-- A step that tells the actor to stop is its last one. -/
def Stops (s : ActorTask ε Next Msg Request) (l : Event ε Next Msg Request) : Prop :=
  s.Told l → (s.step l).Over

/-- `handle_next` returns `Ok(Action::Finished)`. -/
def NextFinished (s : ActorTask ε Next Msg Request) (l : Event ε Next Msg Request) : Prop :=
  (∃ next, s.run = .handleNext next) ∧ l = .returns (.ok .finished)

lemma push_run (op : Op Msg Request) (s : ActorTask ε Next Msg Request) : (s.push op).run = s.run := by
  unfold push
  split
  · rfl
  · split <;> rfl

lemma push_calls (op : Op Msg Request) (s : ActorTask ε Next Msg Request) :
    (s.push op).calls = s.calls := by
  unfold push
  split
  · rfl
  · split <;> rfl

/-- Nothing happens behind the return. -/
lemma step_returned {s : ActorTask ε Next Msg Request} {result : Except ε Unit}
    (h : s.run = .returned result) (l : Event ε Next Msg Request) :
    (s.step l).run = .returned result ∧ (s.step l).calls = s.calls := by
  cases l with
  | send op => simp only [step]; split <;> simp [push_run, push_calls, h]
  | cloneInvoker => simp only [step]; split <;> exact ⟨h,rfl⟩
  | dropInvoker => exact ⟨h,rfl⟩
  | storeDrop => simp only [step]; split <;> exact ⟨h,rfl⟩
  | trySendShutdown => simp only [step]; split <;> simp [push_run, push_calls, h]
  | returns r => simp [step, returns, h]
  | responds => simp [step, responds, h]
  | waitNext next => simp [step, waitNext, h]
  | recv unheard => simp [step, recv, h]
  | loadDrop => simp [step, loadDrop, h]

lemma over_of_returned {s : ActorTask ε Next Msg Request} {result : Except ε Unit}
    (h : s.run = .returned result) : s.Over := by
  refine ⟨result,fun ls => ?_⟩
  have keep : ∀ (t : ActorTask ε Next Msg Request) l, t.run = .returned result ∧ t.calls = s.calls →
      (t.step l).run = .returned result ∧ (t.step l).calls = s.calls := fun t l ht =>
    ⟨(step_returned ht.1 l).1,(step_returned ht.1 l).2.trans ht.2⟩
  exact (Machine.always_of_step keep (fun _ ht => ht) ⟨h,rfl⟩ ls).last

/-- A `Shutdown` that is taken ends the loop, wherever it is taken. -/
lemma step_shutdown {s : ActorTask ε Next Msg Request} {l : Event ε Next Msg Request}
    (h : s.takes l = some .shutdown) : (s.step l).run = .returned (.ok ()) := by
  cases l with
  | recv unheard =>
    simp only [takes] at h
    split at h
    · next hrun =>
      obtain ⟨queue,hq⟩ := List.head?_eq_some_iff.mp h
      simp [step, recv, hrun, hq, handleOp, finish]
    · next hrun =>
      obtain ⟨queue,hq⟩ := List.head?_eq_some_iff.mp h
      simp [step, recv, hrun, hq, handleOp, finish]
    · cases h
  | _ => cases h

/-- An error, and an `Action::Finished` that does not come from `handle_next`, end the loop. -/
lemma step_told {s : ActorTask ε Next Msg Request} {l : Event ε Next Msg Request} (h : s.Told l)
    (hn : ¬ s.NextFinished l) : ∃ result, (s.step l).run = .returned result := by
  rcases h with h | ⟨hd,rfl | ⟨e,rfl⟩⟩
  · exact ⟨.ok (),step_shutdown h⟩
  · unfold deciding at hd
    unfold NextFinished at hn
    split at hd
    · next hrun => exact ⟨.ok (),by simp [step, returns, hrun, finish]⟩
    · next next hrun => exact absurd ⟨⟨next,hrun⟩,rfl⟩ hn
    · next hrun => exact ⟨.ok (),by simp [step, returns, hrun, finish]⟩
    · exact hd.elim
  · unfold deciding at hd
    split at hd
    · next hrun => exact ⟨.error e,by simp [step, returns, hrun, finish]⟩
    · next hrun => exact ⟨.error e,by simp [step, returns, hrun, finish]⟩
    · next hrun => exact ⟨.error e,by simp [step, returns, hrun, finish]⟩
    · exact hd.elim

/-- After an `Action::Finished` of `handle_next` the loop calls `wait_next` again. -/
lemma step_nextFinished {s : ActorTask ε Next Msg Request} {l : Event ε Next Msg Request}
    (h : s.NextFinished l) : (s.step l).run = .select := by
  obtain ⟨⟨next,hrun⟩,rfl⟩ := h
  simp [step, returns, hrun, select]

lemma not_over_of_select {s : ActorTask ε Next Msg Request} (h : s.run = .select) : ¬ s.Over := by
  rintro ⟨result,hover⟩
  have hnil := (hover []).1
  rw [Machine.run_nil, h] at hnil
  cases hnil

/-- In a run, whatever tells the actor to stop is its end, just if `handle_next` never returns
`Ok(Action::Finished)`. -/
theorem stops_iff (s : ActorTask ε Next Msg Request) (ls : List (Event ε Next Msg Request)) :
    Machine.EveryStep step Stops s ls ↔ Machine.EveryStep step (fun s l => ¬ s.NextFinished l) s ls := by
  refine Machine.everyStep_iff (I := fun _ => True) ?_ ?_ trivial ls
  · intro s l _ hn
    refine ⟨trivial,fun htold => ?_⟩
    obtain ⟨result,hrun⟩ := step_told htold hn
    exact over_of_returned hrun
  · intro s l _ hn hstops
    have hnext : s.NextFinished l := not_not.mp hn
    have htold : s.Told l := by
      obtain ⟨⟨next,hrun⟩,rfl⟩ := hnext
      exact Or.inr ⟨by simp [deciding, hrun],Or.inl rfl⟩
    exact not_over_of_select (step_nextFinished hnext) (hstops htold)

/-- An actor whose `handle_next` says that it is finished waits for the next event. -/
theorem next_finished_goes_on : ¬ Machine.EveryStep step Stops (new : ActorTask Unit Unit Unit Unit)
    [.returns (.ok .none),.waitNext (),.returns (.ok .finished)] := by
  rintro ⟨-,-,h,-⟩
  exact not_over_of_select rfl (h (Or.inr ⟨trivial,Or.inl rfl⟩))

end ActorTask
end VvClient.Kit
