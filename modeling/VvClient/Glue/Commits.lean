import VvClient.Client.Task
import VvClient.Lib.Machine
import VvClient.Lib.Mailbox

/-! Committing operations: `commit_op` from any number of threads, and the worker that executes what
is in the inbox. The tokens that wake it are lost wherever it waits for something else. -/
namespace VvClient

open Machine

/-- Where the worker is. -/
inductive WorkAt (α : Type*)
  /-- the `select!` of `connect_to` -/
  | connectTo (mode : RecvCancelMode)
  /-- `connect_to`, `open_session` or `reconnect_session` has failed -/
  | failed (mode : RecvCancelMode)
  | sleep (mode : RecvCancelMode)
  /-- the `recv_raw` of `open_session` -/
  | openSession
  /-- the `recv_packet` of `reconnect_session` -/
  | reconnectSession
  /-- `phase_work` is about to pop an operation -/
  | onProcess
  | processOp (op : α)
  /-- the flush after `on_process` -/
  | flushXfer
  /-- `recv_packet`, next to the deadline of the heartbeat -/
  | recvPacket
  /-- `recv_packet` has returned `None` -/
  | shouldBreak
  /-- a packet or a heartbeat is being handled -/
  | handle
  /-- `phase_work` has returned -/
  | afterWork
  | onClosed
  /-- the task is gone, and `rx` with it -/
  | finished
  deriving DecidableEq

namespace WorkAt

variable {α : Type*}

/-- Where `rx.recv()` is awaited, and where its token sends the worker. -/
def recv (mode : ShutdownMode) : WorkAt α → Option (WorkAt α)
  | connectTo m => some (if m.shouldBreak mode then failed m else connectTo m)
  | sleep m => some (if m.shouldBreak mode then onClosed else sleep m)
  | openSession =>
    some (if RecvCancelMode.connect.shouldBreak mode then failed .connect else openSession)
  | reconnectSession =>
    some (if RecvCancelMode.work.shouldBreak mode then failed .work else reconnectSession)
  | recvPacket => some shouldBreak
  | _ => none

/-- Where the worker goes by itself. -/
def next (mode : ShutdownMode) : WorkAt α → List (WorkAt α)
  | connectTo .connect => [openSession,failed .connect,onClosed]
  | connectTo .work => [reconnectSession,failed .work,onClosed]
  | failed m => [sleep m,onClosed]
  | sleep m => [connectTo m,onClosed]
  | openSession => [onProcess,failed .connect,onClosed]
  | reconnectSession => [onProcess,failed .work,onClosed]
  | onProcess => []
  | processOp _ => [onProcess,afterWork]
  | flushXfer => [recvPacket,afterWork]
  | recvPacket => [handle,afterWork]
  | shouldBreak => [if RecvCancelMode.work.shouldBreak mode then afterWork else onProcess]
  | handle => [onProcess,afterWork]
  | afterWork => [connectTo .work,onClosed]
  | onClosed => [finished]
  | finished => []

/-- The worker waits inside `phase_work`: for the connection that it writes to, or for what comes
next. -/
def waits : WorkAt α → Bool
  | flushXfer => true
  | recvPacket => true
  | handle => true
  | _ => false

/-- A wait of `phase_work` is reached from another one, or from the drained inbox. -/
lemma not_waits_of_next {mode : ShutdownMode} {w : WorkAt α} (hw : w.waits = false) :
    ∀ w' ∈ w.next mode, w'.waits = false := by
  cases w with
  | connectTo m => cases m <;> simp [next, waits]
  | shouldBreak =>
    simp only [next, List.mem_singleton, forall_eq]
    split <;> rfl
  | flushXfer => cases hw
  | recvPacket => cases hw
  | handle => cases hw
  | _ => simp [next, waits]

/-- A token never leads to a wait of `phase_work`. -/
lemma not_waits_of_recv {mode : ShutdownMode} {w w' : WorkAt α} (h : w.recv mode = some w') :
    w'.waits = false := by
  cases w <;> simp only [recv, Option.some.injEq, reduceCtorEq] at h <;> subst h <;>
    first | rfl | (split <;> rfl)

end WorkAt

/-- The inbox with the channel of the worker, the shutdown mode, and where the worker is. -/
structure Commits (ι α : Type*) where
  shared : Mailbox ι α
  shutdownMode : ShutdownMode
  worker : WorkAt α

namespace Commits

inductive Move (ι α : Type*)
  /-- a thread has entered `commit_op` and pushes -/
  | pushBack (i : ι) (op : α)
  /-- the `commit` of `commit_op` -/
  | trySend (i : ι)
  /-- a `commit` alone -/
  | commit
  | setShutdownMode (mode : ShutdownMode)
  /-- the worker's `rx.recv()` returns -/
  | recv
  /-- the worker pops in `on_process` -/
  | popInbox
  | next (w : WorkAt α)

variable {ι α : Type*}

def new : Commits ι α := ⟨.empty,.none,.connectTo .connect⟩

/-- The receiver of the channel is there. -/
def open? (s : Commits ι α) : Bool :=
  match s.worker with
  | .finished => false
  | _ => true

/-- `Worker::commit`, which ignores that the channel is full. -/
def commit (s : Commits ι α) : Commits ι α :=
  if s.open? then { s with shared := s.shared.signal } else s

def recv (s : Commits ι α) : Commits ι α :=
  if s.shared.token then
    match s.worker.recv s.shutdownMode with
    | some w => { s with shared := s.shared.consume, worker := w }
    | none => s
  else s

/-- One turn of the loop of `on_process`. -/
def popInbox (s : Commits ι α) : Commits ι α :=
  match s.worker with
  | .onProcess =>
    match s.shared.waiting with
    | [] => { s with worker := .flushXfer }
    | op::_ => { s with shared := s.shared.pop, worker := .processOp op }
  | _ => s

variable [DecidableEq ι] [DecidableEq α]

/-- One move. A thread makes the two moves of `commit_op` in their order, any number of times. -/
def step (s : Commits ι α) : Move ι α → Commits ι α
  | .pushBack i op =>
    if s.shared.between i then s else { s with shared := s.shared.push i op }
  | .trySend i =>
    if s.shared.between i then { s with shared := s.shared.signalBy i s.open? } else s
  | .commit => s.commit
  | .setShutdownMode mode => { s with shutdownMode := mode }
  | .recv => s.recv
  | .popInbox => s.popInbox
  | .next w => if w ∈ s.worker.next s.shutdownMode then { s with worker := w } else s

/-- No operation is stranded while the worker waits in `phase_work`. -/
def NoneStranded (s : Commits ι α) : Prop :=
  s.worker.waits = true → s.shared.token = false → s.shutdownMode ≠ .force →
    s.shared.waiting = [] ∨ ∃ i, s.shared.between i = true

/-- What holds in every state. -/
structure Inv (s : Commits ι α) : Prop where
  ordered : s.shared.Ordered
  covered : s.worker.waits = true → s.shared.Covered

namespace Inv

variable {s : Commits ι α}

omit [DecidableEq ι] [DecidableEq α] in
lemma open_of_waits (hw : s.worker.waits = true) : s.open? = true := by
  unfold open?
  split
  · next h => rw [h] at hw; cases hw
  · rfl

omit [DecidableEq ι] [DecidableEq α] in
lemma commit (h : s.Inv) : s.commit.Inv := by
  unfold Commits.commit
  split
  · exact ⟨h.ordered,fun _ => s.shared.covered_signal⟩
  · exact h

omit [DecidableEq ι] [DecidableEq α] in
lemma recv (h : s.Inv) : s.recv.Inv := by
  unfold Commits.recv
  split
  · split
    · next w hw =>
      refine ⟨h.ordered,fun hwaits => ?_⟩
      cases (WorkAt.not_waits_of_recv hw).symm.trans hwaits
    · exact h
  · exact h

omit [DecidableEq ι] [DecidableEq α] in
/-- The worker begins to wait when it has found the inbox empty. -/
lemma popInbox (h : s.Inv) : s.popInbox.Inv := by
  unfold Commits.popInbox
  split
  · split
    · next hw hempty => exact ⟨h.ordered,fun _ => Mailbox.covered_of_waiting hempty⟩
    · exact ⟨h.ordered.pop,fun hwaits => absurd hwaits (by simp [WorkAt.waits])⟩
  · exact h

lemma step (h : s.Inv) (m : Move ι α) : (s.step m).Inv := by
  cases m with
  | pushBack i op =>
    simp only [Commits.step]
    split
    · exact h
    · exact ⟨h.ordered.push i op,fun _ => s.shared.covered_push i op⟩
  | trySend i =>
    simp only [Commits.step]
    split
    · refine ⟨h.ordered,fun hw => ?_⟩
      have hopen : s.open? = true := open_of_waits hw
      change (s.shared.signalBy i s.open?).Covered
      rw [hopen]
      exact s.shared.covered_signalBy i
    · exact h
  | commit => exact h.commit
  | setShutdownMode mode => exact ⟨h.ordered,h.covered⟩
  | recv => exact h.recv
  | popInbox => exact h.popInbox
  | next w =>
    simp only [Commits.step]
    split
    · next hw =>
      refine ⟨h.ordered,fun hwaits => h.covered ?_⟩
      by_contra hs
      cases (WorkAt.not_waits_of_next (Bool.eq_false_iff.mpr hs) w hw).symm.trans hwaits
    · exact h

omit [DecidableEq ι] [DecidableEq α] in
lemma noneStranded (h : s.Inv) : s.NoneStranded := fun hw ht _ => h.covered hw ht

end Inv

omit [DecidableEq ι] [DecidableEq α] in
lemma inv_new : (new : Commits ι α).Inv :=
  ⟨Mailbox.ordered_empty,fun h => absurd h (by simp [new, WorkAt.waits])⟩

/-- In every run no operation is stranded, and the operations are executed in the order in which
they were pushed, each of them once at most. -/
theorem none_stranded (moves : List (Move ι α)) :
    Always step (fun s : Commits ι α => s.NoneStranded ∧ s.shared.Ordered) new moves :=
  always_of_step (fun _ m h => h.step m) (fun _ h => ⟨h.noneStranded,h.ordered⟩) inv_new moves

end Commits
end VvClient
