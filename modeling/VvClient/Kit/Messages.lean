import VvClient.Kit.Actor

/-! The messages of an actor: how they enter its channel, and how they are handled. -/
namespace VvClient.Kit

inductive TrySendError
  | full
  | closed
  deriving DecidableEq

namespace Op

variable {Msg Request : Type*}

def tryIntoMsg : Op Msg Request → Option Msg
  | msg m => some m
  | _ => none

end Op

/-- The message that a call of the handler is for. -/
def Call.msg? {Next Msg Request : Type*} : Call Next Msg Request → Option Msg
  | handleMsg m => some m
  | _ => none

namespace ActorTask

variable {ε Next Msg Request : Type*}

/-- `Sender::try_send`, which gives an operation back that does not enter the channel. -/
def trySend (op : Op Msg Request) (s : ActorTask ε Next Msg Request) :
    Except (Op Msg Request × TrySendError) Unit × ActorTask ε Next Msg Request :=
  match s.run with
  | .returned _ => (.error (op,.closed),s)
  | _ => if s.queue.length < channelSize then (.ok (),s.push op) else (.error (op,.full),s)

/-- `Invoker::try_send_msg` -/
def trySendMsg (msg : Msg) (s : ActorTask ε Next Msg Request) :
    Except (Msg × TrySendError) Unit × ActorTask ε Next Msg Request :=
  match s.trySend (.msg msg) with
  | (.error (op,e),s') =>
    match op.tryIntoMsg with
    | some m => (.error (m,e),s')
    | none => (.ok (),s')
  | (.ok _,s') => (.ok (),s')

/-- The channel takes the operation. -/
def accepts (op : Op Msg Request) (s : ActorTask ε Next Msg Request) : List (Op Msg Request) :=
  match s.run with
  | .returned _ => []
  | _ => if s.queue.length < channelSize then [op] else []

/-- The operation that a step puts into the channel. -/
def enters (s : ActorTask ε Next Msg Request) : Event ε Next Msg Request → List (Op Msg Request)
  | .send op => if s.actor = .held ∨ 0 < s.invokers then s.accepts op else []
  | .trySendShutdown => if s.actor = .stored then s.accepts .shutdown else []
  | _ => []

lemma push_accepts (op : Op Msg Request) (s : ActorTask ε Next Msg Request) :
    (s.push op).queue = s.queue ++ s.accepts op := by
  unfold push accepts
  cases s.run with
  | returned result => exact (List.append_nil _).symm
  | _ =>
    by_cases hroom : s.queue.length < channelSize
    · simp [hroom]
    · simp [hroom]

/-- A message enters the channel, or the caller has it back and nothing is changed. -/
theorem trySendMsg_cases (msg : Msg) (s : ActorTask ε Next Msg Request) :
    ((s.trySendMsg msg).1 = .ok () ∧ s.accepts (.msg msg) = [.msg msg] ∧
      (s.trySendMsg msg).2 = s.push (.msg msg)) ∨
    (∃ e, (s.trySendMsg msg).1 = .error (msg,e)) ∧ s.accepts (.msg msg) = [] ∧
      (s.trySendMsg msg).2 = s := by
  unfold trySendMsg trySend accepts
  cases s.run with
  | returned result => exact .inr ⟨⟨.closed,rfl⟩,rfl,rfl⟩
  | _ =>
    by_cases hroom : s.queue.length < channelSize
    · simp [hroom]
    · simp [hroom, Op.tryIntoMsg]

lemma handleOp_queue (op : Op Msg Request) (more : ℕ) (unheard : Bool) (s : ActorTask ε Next Msg Request) :
    (s.handleOp op more unheard).queue = s.queue := by
  cases op with
  | shutdown => rfl
  | msg m => rfl
  | invoke request => cases unheard <;> rfl

lemma returns_queue (result : Except ε Action) (s : ActorTask ε Next Msg Request) :
    (s.returns result).queue = s.queue := by
  unfold returns
  split <;> rfl

/-- The loop takes the first operation, or leaves the channel as it is. -/
lemma recv_queue (unheard : Bool) (s : ActorTask ε Next Msg Request) :
    (s.takes (.recv unheard)).toList ++ (s.recv unheard).queue = s.queue := by
  cases hrun : s.run with
  | select =>
    cases hq : s.queue with
    | nil => simp only [recv, takes, hrun, hq]; split <;> simp [finish, hq]
    | cons op queue => simp [recv, takes, hrun, hq, handleOp_queue, taken]
  | handleMoreOp more =>
    cases more with
    | zero => simp [recv, takes, hrun]
    | succ more =>
      cases hq : s.queue with
      | nil => simp only [recv, takes, hrun, hq]; split <;> simp [finish, hq]
      | cons op queue => simp [recv, takes, hrun, hq, handleOp_queue, taken]
  | _ => simp [recv, takes, hrun]

/-- A step puts an operation at the end of the channel, or takes the first one. -/
lemma step_queue (s : ActorTask ε Next Msg Request) (e : Event ε Next Msg Request) :
    s.queue ++ s.enters e = (s.takes e).toList ++ (s.step e).queue := by
  cases e with
  | send op =>
    simp only [enters, takes, step, Option.toList_none, List.nil_append]
    split
    · exact (push_accepts op s).symm
    · exact List.append_nil _
  | trySendShutdown =>
    simp only [enters, takes, step, Option.toList_none, List.nil_append]
    split
    · exact (push_accepts .shutdown s).symm
    · exact List.append_nil _
  | recv unheard => exact (List.append_nil _).trans (recv_queue unheard s).symm
  | returns result => exact (List.append_nil _).trans (returns_queue result s).symm
  | waitNext next =>
    simp only [enters, takes, step, waitNext]
    split <;> simp
  | loadDrop =>
    simp only [enters, takes, step, loadDrop]
    split
    · split <;> simp [finish, select]
    · simp
  | responds =>
    simp only [enters, takes, step, responds]
    split <;> simp
  | cloneInvoker =>
    simp only [enters, takes, step]
    split <;> simp
  | storeDrop =>
    simp only [enters, takes, step]
    split <;> simp
  | dropInvoker => exact List.append_nil _

lemma handleOp_msgs (op : Op Msg Request) (more : ℕ) (unheard : Bool) (s : ActorTask ε Next Msg Request) :
    (s.handleOp op more unheard).calls.filterMap Call.msg? =
      s.calls.filterMap Call.msg? ++ op.tryIntoMsg.toList := by
  cases op with
  | shutdown => simp [handleOp, finish, Op.tryIntoMsg]
  | msg m => simp [handleOp, Call.msg?, Op.tryIntoMsg]
  | invoke request => cases unheard <;> simp [handleOp, Call.msg?, Op.tryIntoMsg]

lemma recv_msgs (unheard : Bool) (s : ActorTask ε Next Msg Request) :
    (s.recv unheard).calls.filterMap Call.msg? = s.calls.filterMap Call.msg? ++
      (s.takes (.recv unheard)).toList.filterMap Op.tryIntoMsg := by
  cases hrun : s.run with
  | select =>
    cases hq : s.queue with
    | nil => simp only [recv, takes, hrun, hq]; split <;> simp [finish]
    | cons op queue =>
      simp only [recv, takes, hrun, hq, handleOp_msgs]
      cases op <;> simp [taken, Op.tryIntoMsg]
  | handleMoreOp more =>
    cases more with
    | zero => simp [recv, takes, hrun]
    | succ more =>
      cases hq : s.queue with
      | nil => simp only [recv, takes, hrun, hq]; split <;> simp [finish]
      | cons op queue =>
        simp only [recv, takes, hrun, hq, handleOp_msgs]
        cases op <;> simp [taken, Op.tryIntoMsg]
  | _ => simp [recv, takes, hrun]

/-- A message is handled when it is taken, and no other time. -/
lemma step_msgs (s : ActorTask ε Next Msg Request) (e : Event ε Next Msg Request) :
    (s.step e).calls.filterMap Call.msg? =
      s.calls.filterMap Call.msg? ++ (s.takes e).toList.filterMap Op.tryIntoMsg := by
  cases e with
  | recv unheard => exact recv_msgs unheard s
  | send op => simp only [step, takes]; split <;> simp [push_calls]
  | trySendShutdown => simp only [step, takes]; split <;> simp [push_calls]
  | returns result =>
    simp only [step, takes, returns]
    split <;> simp [finish, select, Call.msg?]
  | waitNext next => simp only [step, takes, waitNext]; split <;> simp [Call.msg?]
  | loadDrop =>
    simp only [step, takes, loadDrop]
    split
    · split <;> simp [finish, select, Call.msg?]
    · simp
  | responds => simp only [step, takes, responds]; split <;> simp
  | cloneInvoker => simp only [step, takes]; split <;> simp
  | storeDrop => simp only [step, takes]; split <;> simp
  | dropInvoker => simp [step, takes]

/-- The messages that were handled, and those that are still in the channel, are the messages that
have entered it, in this order: none is lost before the end, and none is handled twice. -/
theorem msgs_fifo (ls : List (Event ε Next Msg Request)) :
    (Machine.run step new ls).calls.filterMap Call.msg? ++
        (Machine.run step new ls).queue.filterMap Op.tryIntoMsg =
      (Machine.outputs step enters new ls).filterMap Op.tryIntoMsg := by
  have hlog := @Machine.outputs_log _ _ step _ (fun s => s.calls.filterMap Call.msg?) _ step_msgs
    (new : ActorTask ε Next Msg Request) ls
  have hqueue := congrArg (List.filterMap Op.tryIntoMsg)
    (Machine.outputs_queue step_queue (new : ActorTask ε Next Msg Request) ls)
  simp only [List.filterMap_append, Machine.outputs_filterMap] at hlog hqueue ⊢
  rw [hlog, List.append_assoc, ← hqueue]
  rfl

end ActorTask
end VvClient.Kit
