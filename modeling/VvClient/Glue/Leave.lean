import VvClient.Lib.Machine
import VvClient.Lib.Oneshot
import VvClient.Client.Task

/-! Leaving the room: calls of `leave_room_and_wait` from any number of threads, and the worker that
wakes them when it closes. Between two moves any thread may move. -/
namespace VvClient

open Machine

inductive Op
  | leave (endRoom : Option Bool)
  | request
  deriving DecidableEq, Repr

/-- The arguments of a call: `end` and `force`. -/
structure LeaveArgs where
  endRoom : Option Bool
  force : Bool
  deriving DecidableEq, Repr

/-- The move that a call makes next, or how it returned. -/
inductive CallAt
  | isClosed
  | setShutdownMode
  | setLeaveTx
  | pushOp
  | commitOp
  /-- the second `commit`, after `commit_op` returned `Ok` or not -/
  | commit (ok : Bool)
  | await
  | clearLeaveTx
  | skipped
  | awaited
  | failed
  deriving DecidableEq, Repr

/-- The worker runs, or makes the moves of `on_closed`, the callback last, or it is gone and has
dropped `rx`. -/
inductive WorkerAt (ι : Type*)
  | running
  | setClosed
  | takeLeaveTx
  | send (i : ι)
  | callback
  | finished
  deriving DecidableEq, Repr

namespace CallAt

/-- The call still has its sender. -/
def fresh : CallAt → Bool
  | isClosed => true
  | setShutdownMode => true
  | setLeaveTx => true
  | _ => false

/-- The call has stored its sender and has not returned. -/
def holds : CallAt → Bool
  | pushOp => true
  | commitOp => true
  | commit _ => true
  | await => true
  | clearLeaveTx => true
  | _ => false

/-- `commit_op` was accepted, and the call has not returned. -/
def accepted : CallAt → Bool
  | commit ok => ok
  | await => true
  | _ => false

/-- `commit_op` failed. -/
def refused : CallAt → Bool
  | commit ok => !ok
  | clearLeaveTx => true
  | failed => true
  | _ => false

/-- The moves that the call makes before it awaits. -/
def movesLeft : CallAt → ℕ
  | pushOp => 3
  | commitOp => 2
  | commit _ => 1
  | _ => 0

end CallAt

/-- The worker is past `take_leave_tx`. -/
def WorkerAt.took {ι : Type*} : WorkerAt ι → Bool
  | send _ => true
  | callback => true
  | finished => true
  | _ => false

/-- `Shared`, the channel and the mode of the worker, and where every thread is. -/
structure Leave (ι : Type*) where
  inbox : List Op
  leaveTx : SenderCell ι
  closed : Bool
  token : Bool
  shutdownMode : ShutdownMode
  worker : WorkerAt ι
  calls : ι → CallAt

namespace Leave

inductive Move (ι : Type*)
  | call (i : ι)
  /-- the worker pops an `Op` in `on_process` -/
  | popInbox
  /-- the worker's `rx.recv()` returns -/
  | recv
  /-- the worker ends, by its next move of `on_closed` -/
  | onClosed
  /-- another thread pushes a request -/
  | pushRequest
  /-- another thread commits -/
  | commit
  deriving DecidableEq, Repr

variable {ι : Type*}

/-- No call has begun. -/
def new : Leave ι := ⟨[],.empty,false,false,.none,.running,fun _ => .isClosed⟩

/-- `Worker::commit`: it fails when `rx` is dropped. A full channel is no failure. -/
def commit (s : Leave ι) : Bool × Leave ι :=
  match s.worker with
  | .finished => (false,s)
  | _ => (true,{ s with token := true })

@[simp] theorem commit_leaveTx (s : Leave ι) : s.commit.2.leaveTx = s.leaveTx := by
  unfold commit
  split <;> rfl

@[simp] theorem commit_closed (s : Leave ι) : s.commit.2.closed = s.closed := by
  unfold commit
  split <;> rfl

@[simp] theorem commit_worker (s : Leave ι) : s.commit.2.worker = s.worker := by
  unfold commit
  split <;> rfl

@[simp] theorem commit_calls (s : Leave ι) : s.commit.2.calls = s.calls := by
  unfold commit
  split <;> rfl

lemma commit_ok (s : Leave ι) : s.commit.1 = true ↔ s.worker ≠ .finished := by
  unfold commit
  split <;> simp_all

def pushInbox (s : Leave ι) (op : Op) : Leave ι := { s with inbox := s.inbox ++ [op] }

variable [DecidableEq ι]

def goto (s : Leave ι) (i : ι) (c : CallAt) : Leave ι :=
  { s with calls := Function.update s.calls i c }

lemma calls_goto (s : Leave ι) (i j : ι) (c : CallAt) :
    (s.goto i c).calls j = if j = i then c else s.calls j :=
  Function.update_apply _ _ _ _

@[simp] theorem calls_goto_self (s : Leave ι) (i : ι) (c : CallAt) : (s.goto i c).calls i = c := by
  rw [calls_goto, if_pos rfl]

@[simp] theorem leaveTx_goto (s : Leave ι) (i : ι) (c : CallAt) : (s.goto i c).leaveTx = s.leaveTx :=
  rfl

@[simp] theorem worker_goto (s : Leave ι) (i : ι) (c : CallAt) : (s.goto i c).worker = s.worker :=
  rfl

/-- One move of `leave_room_and_wait`. -/
def callStep (args : LeaveArgs) (s : Leave ι) (i : ι) : Leave ι :=
  match s.calls i with
  | .isClosed =>
    if s.closed then { s with leaveTx := s.leaveTx.dropTx i }.goto i .skipped
    else s.goto i .setShutdownMode
  | .setShutdownMode =>
    { s with shutdownMode := if args.force then .force else .graceful }.goto i .setLeaveTx
  | .setLeaveTx => { s with leaveTx := s.leaveTx.put i }.goto i .pushOp
  | .pushOp => (s.pushInbox (.leave args.endRoom)).goto i .commitOp
  | .commitOp => s.commit.2.goto i (.commit s.commit.1)
  | .commit ok => s.commit.2.goto i (if ok then .await else .clearLeaveTx)
  | .await => if s.leaveTx.chans i = .pending then s else s.goto i .awaited
  | .clearLeaveTx => { s with leaveTx := s.leaveTx.clear }.goto i .failed
  | _ => s

/-- One move of the worker's end: `DelegateImpl::on_closed`, then the drop of the task. -/
def onClosed (s : Leave ι) : Leave ι :=
  match s.worker with
  | .running => { s with worker := .setClosed }
  | .setClosed => { s with closed := true, worker := .takeLeaveTx }
  | .takeLeaveTx =>
    match s.leaveTx.held with
    | some i => { s with leaveTx := s.leaveTx.take, worker := .send i }
    | none => { s with worker := .callback }
  | .send i => { s with leaveTx := s.leaveTx.send i, worker := .callback }
  | .callback => { s with worker := .finished }
  | .finished => s

def step (args : ι → LeaveArgs) (s : Leave ι) : Move ι → Leave ι
  | .call i => s.callStep (args i) i
  | .popInbox => if s.worker = .running then { s with inbox := s.inbox.tail } else s
  | .recv => if s.worker = .running then { s with token := false } else s
  | .onClosed => s.onClosed
  | .pushRequest => s.pushInbox .request
  | .commit => s.commit.2

/-- A call that awaited returned only after the worker entered `on_closed`, and no call awaits a
sender that the finished worker left behind. -/
structure Sound (s : Leave ι) : Prop where
  notEarly : ∀ i, s.calls i = .awaited → s.worker ≠ .running
  noHang : s.worker = .finished → ∀ i, s.calls i = .await → s.leaveTx.held ≠ some i

/-- A move that cannot lose a wakeup. The cell is empty when a call stores its sender, unless the
worker closes. And no call commits to a worker that has passed `take_leave_tx` and is still there,
with its own sender in the cell. -/
def Guard (s : Leave ι) : Move ι → Prop
  | .call i =>
    match s.calls i with
    | .setLeaveTx => s.worker = .running → s.leaveTx.held = none
    | .commitOp => s.worker.took = true → s.worker ≠ .finished → s.leaveTx.held ≠ some i
    | _ => True
  | _ => True

/-- What holds in every state that the guard admits. -/
structure Inv (s : Leave ι) : Prop where
  closed : s.closed = true → s.worker ≠ .running
  fresh : s.worker = .running → ∀ i, (s.calls i).fresh = true → s.leaveTx.chans i = .pending
  holds : s.worker = .running → ∀ i, s.leaveTx.held = some i ↔ (s.calls i).holds = true
  waits : s.worker = .running → ∀ i, s.leaveTx.held = some i → s.leaveTx.chans i = .pending
  accepted : s.worker ≠ .finished → ∀ i, (s.calls i).refused = false
  left : s.worker.took = true → ∀ i, (s.calls i).accepted = true → s.leaveTx.held ≠ some i
  notEarly : s.worker = .running → ∀ i, s.calls i ≠ .awaited

namespace Inv

variable {s : Leave ι}

omit [DecidableEq ι] in
lemma sound (h : s.Inv) : s.Sound := by
  refine ⟨fun i hi hr => h.notEarly hr i hi,fun hf i hi => ?_⟩
  exact h.left (by rw [hf]; rfl) i (by rw [hi]; rfl)

omit [DecidableEq ι] in
lemma congr (h : s.Inv) {s' : Leave ι} (hl : s'.leaveTx = s.leaveTx) (hd : s'.closed = s.closed)
    (hw : s'.worker = s.worker) (hc : s'.calls = s.calls) : s'.Inv := by
  obtain ⟨_,_,_,_,_,_,_⟩ := s'
  cases hl
  cases hd
  cases hw
  cases hc
  exact ⟨h.closed,h.fresh,h.holds,h.waits,h.accepted,h.left,h.notEarly⟩

omit [DecidableEq ι] in
/-- Little is left to hold once the worker closes. -/
lemma closing (hr : s.worker ≠ .running)
    (haccepted : s.worker ≠ .finished → ∀ i, (s.calls i).refused = false)
    (hleft : s.worker.took = true → ∀ i, (s.calls i).accepted = true → s.leaveTx.held ≠ some i) :
    s.Inv :=
  ⟨fun _ => hr,fun h => absurd h hr,fun h => absurd h hr,fun h => absurd h hr,haccepted,hleft,
    fun h => absurd h hr⟩

omit [DecidableEq ι] in
/-- A commit is refused only when the worker is gone. -/
lemma finished_of_refused (h : s.Inv) {i : ι} (hi : (s.calls i).refused = true) :
    s.worker = .finished := by
  by_contra hf
  cases (h.accepted hf i).symm.trans hi

/-- A call moves on and touches nothing that others look at. -/
lemma goto (h : s.Inv) {i : ι} {c : CallAt} (hfresh : c.fresh = true → (s.calls i).fresh = true)
    (hholds : s.worker = .running → c.holds = (s.calls i).holds)
    (hrefused : s.worker ≠ .finished → c.refused = false)
    (haccepted : s.worker.took = true → c.accepted = true → s.leaveTx.held ≠ some i)
    (hearly : s.worker = .running → c ≠ .awaited) : (s.goto i c).Inv := by
  refine ⟨h.closed,fun hr j hj => ?_,fun hr j => ?_,h.waits,fun hf j => ?_,fun ht j hj => ?_,
    fun hr j => ?_⟩
  · rw [calls_goto] at hj
    split_ifs at hj with hji
    · subst hji
      exact h.fresh hr j (hfresh hj)
    · exact h.fresh hr j hj
  · rw [calls_goto]
    split_ifs with hji
    · subst hji
      rw [hholds hr]
      exact h.holds hr j
    · exact h.holds hr j
  · rw [calls_goto]
    split_ifs
    · exact hrefused hf
    · exact h.accepted hf j
  · rw [calls_goto] at hj
    split_ifs at hj with hji
    · subst hji
      exact haccepted ht hj
    · exact h.left ht j hj
  · rw [calls_goto]
    split_ifs
    · exact hearly hr
    · exact h.notEarly hr j

/-- A call changes the cell after the worker began to close. -/
lemma goto_closing (h : s.Inv) (hr : s.worker ≠ .running) {i : ι} {c : CallAt}
    (cell : SenderCell ι) (hrefused : s.worker ≠ .finished → c.refused = false)
    (haccepted : c.accepted = false)
    (hheld : ∀ j, cell.held = some j → j = i ∨ s.leaveTx.held = some j) :
    ({ s with leaveTx := cell }.goto i c).Inv := by
  refine closing hr (fun hf j => ?_) fun ht j hj hh => ?_
  · rw [calls_goto]
    split_ifs
    · exact hrefused hf
    · exact h.accepted hf j
  · rw [calls_goto] at hj
    split_ifs at hj with hji
    · cases haccepted.symm.trans hj
    · exact h.left ht j hj ((hheld j hh).resolve_left hji)

/-- A call stores its sender in an empty cell. -/
lemma setLeaveTx (h : s.Inv) (hr : s.worker = .running) (he : s.leaveTx.held = none) {i : ι}
    (hi : (s.calls i).fresh = true) :
    ({ s with leaveTx := s.leaveTx.put i }.goto i .pushOp).Inv := by
  have hchans := s.leaveTx.chans_put_of_empty i he
  have hnone : ∀ j, (s.calls j).holds = false := by
    intro j
    rw [← Bool.not_eq_true, ← h.holds hr j, he]
    exact Option.some_ne_none j ∘ Eq.symm
  refine ⟨fun hc => absurd hr (h.closed hc),fun _ j hj => ?_,fun _ j => ?_,fun _ j hj => ?_,
    fun hf j => ?_,fun ht => ?_,fun _ j => ?_⟩
  · rw [calls_goto] at hj
    split_ifs at hj with hji
    · cases hj
    · exact (congrFun hchans j).trans (h.fresh hr j hj)
  · rw [calls_goto]
    split_ifs with hji
    · exact iff_of_true (congrArg some hji.symm) rfl
    · refine iff_of_false (fun hj => hji (Option.some.inj hj).symm) ?_
      rw [hnone j]
      exact Bool.false_ne_true
  · cases hj
    exact (congrFun hchans i).trans (h.fresh hr i hi)
  · rw [calls_goto]
    split_ifs
    · rfl
    · exact h.accepted (by simp [hr]) j
  · have hw : s.worker.took = true := ht
    rw [hr] at hw
    cases hw
  · rw [calls_goto]
    split_ifs
    · exact CallAt.noConfusion
    · exact h.notEarly hr j

omit [DecidableEq ι] in
lemma commit (h : s.Inv) : s.commit.2.Inv :=
  h.congr s.commit_leaveTx s.commit_closed s.commit_worker s.commit_calls

lemma callStep (h : s.Inv) (args : LeaveArgs) (i : ι) (hg : s.Guard (.call i)) :
    (s.callStep args i).Inv := by
  unfold Leave.callStep
  cases hc : s.calls i with
  | isClosed =>
    simp only
    split_ifs with hd
    · exact h.goto_closing (h.closed hd) _ (fun _ => rfl) rfl fun j hj => .inr hj
    · exact h.goto (by simp [hc, CallAt.fresh]) (by simp [hc, CallAt.holds]) (by simp [CallAt.refused])
        (by simp [CallAt.accepted]) (by simp)
  | setShutdownMode =>
    have h' : Inv { s with shutdownMode := if args.force then .force else .graceful } :=
      h.congr rfl rfl rfl rfl
    exact h'.goto (by simp [hc, CallAt.fresh]) (by simp [hc, CallAt.holds]) (by simp [CallAt.refused])
      (by simp [CallAt.accepted]) (by simp)
  | setLeaveTx =>
    simp only [Guard, hc] at hg
    by_cases hr : s.worker = .running
    · exact h.setLeaveTx hr (hg hr) (by rw [hc]; rfl)
    · refine h.goto_closing hr _ (fun _ => rfl) rfl fun j hj => .inl ?_
      exact (Option.some.inj hj).symm
  | pushOp =>
    have h' : (s.pushInbox (.leave args.endRoom)).Inv := h.congr rfl rfl rfl rfl
    have hc' : (s.pushInbox (.leave args.endRoom)).calls i = .pushOp := hc
    exact h'.goto (by simp [CallAt.fresh]) (by simp [hc', CallAt.holds]) (by simp [CallAt.refused])
      (by simp [CallAt.accepted]) (by simp)
  | commitOp =>
    simp only [Guard, hc] at hg
    refine h.commit.goto ?_ ?_ ?_ ?_ ?_
    · exact nofun
    · intro _
      rw [commit_calls, hc]
      rfl
    · intro hf
      rw [commit_worker, ← commit_ok] at hf
      rw [CallAt.refused, hf]
      rfl
    · intro ht hok
      rw [commit_leaveTx]
      rw [commit_worker] at ht
      exact hg ht (s.commit_ok.mp hok)
    · exact fun _ => nofun
  | commit ok =>
    cases ok with
    | true =>
      refine h.commit.goto ?_ ?_ ?_ ?_ ?_
      · exact nofun
      · intro _
        rw [commit_calls, hc]
        rfl
      · exact fun _ => rfl
      · intro ht _
        rw [commit_leaveTx]
        rw [commit_worker] at ht
        exact h.left ht i (by rw [hc]; rfl)
      · exact fun _ => nofun
    | false =>
      have hfin : s.worker = .finished := h.finished_of_refused (congrArg CallAt.refused hc)
      refine h.commit.goto ?_ ?_ ?_ ?_ ?_
      · exact nofun
      · intro _
        rw [commit_calls, hc]
        rfl
      · intro hf
        rw [commit_worker] at hf
        exact absurd hfin hf
      · exact fun _ => nofun
      · exact fun _ => nofun
  | await =>
    simp only
    split_ifs with hp
    · exact h
    · have hr : s.worker ≠ .running := by
        intro hr
        exact hp (h.waits hr i ((h.holds hr i).mpr (by rw [hc]; rfl)))
      refine h.goto ?_ ?_ ?_ ?_ ?_
      · exact nofun
      · exact fun hr' => absurd hr' hr
      · exact fun _ => rfl
      · exact fun _ => nofun
      · exact fun hr' => absurd hr' hr
  | clearLeaveTx =>
    have hfin : s.worker = .finished := h.finished_of_refused (congrArg CallAt.refused hc)
    refine h.goto_closing (by rw [hfin]; exact nofun) _ (fun hf => absurd hfin hf) rfl ?_
    intro j hj
    rw [SenderCell.held_clear] at hj
    cases hj
  | _ => exact h

/-- The worker's end. Taking the sender empties the cell, and nobody had stored one and gone on to
await since. -/
lemma onClosed (h : s.Inv) : s.onClosed.Inv := by
  unfold Leave.onClosed
  cases hw : s.worker with
  | running =>
    refine closing nofun (fun _ => h.accepted ?_) nofun
    rw [hw]
    exact nofun
  | setClosed =>
    refine closing nofun (fun _ => h.accepted ?_) nofun
    rw [hw]
    exact nofun
  | takeLeaveTx =>
    have hf : s.worker ≠ .finished := by
      rw [hw]
      exact nofun
    simp only
    cases hh : s.leaveTx.held with
    | none => exact closing nofun (fun _ => h.accepted hf) fun _ j _ hj => by cases hh.symm.trans hj
    | some i => exact closing nofun (fun _ => h.accepted hf) fun _ j _ => nofun
  | send i =>
    have hf : s.worker ≠ .finished := by
      rw [hw]
      exact nofun
    exact closing nofun (fun _ => h.accepted hf) fun _ => h.left (by rw [hw]; rfl)
  | callback =>
    exact closing nofun (fun hf => absurd rfl hf) fun _ => h.left (by rw [hw]; rfl)
  | finished => exact h

end Inv

omit [DecidableEq ι] in
lemma inv_new : (new : Leave ι).Inv := by
  refine ⟨nofun,fun _ _ _ => rfl,fun _ i => ?_,nofun,fun _ _ => rfl,nofun,fun _ _ => nofun⟩
  exact ⟨nofun,nofun⟩

variable {s : Leave ι} (args : ι → LeaveArgs)

lemma Inv.step (h : s.Inv) (x : Move ι) (hg : s.Guard x) : (s.step args x).Inv := by
  cases x with
  | call i => exact h.callStep (args i) i hg
  | popInbox =>
    simp only [Leave.step]
    split_ifs
    · exact h.congr rfl rfl rfl rfl
    · exact h
  | recv =>
    simp only [Leave.step]
    split_ifs
    · exact h.congr rfl rfl rfl rfl
    · exact h
  | onClosed => exact h.onClosed
  | pushRequest => exact h.congr rfl rfl rfl rfl
  | commit => exact h.commit

/-- The sender of a call was dropped, and the worker runs. -/
structure Doomed (s : Leave ι) (i : ι) : Prop where
  holds : (s.calls i).holds = true
  accepted : (s.calls i).refused = false
  dropped : s.leaveTx.chans i = .dropped
  running : s.worker = .running

lemma doomed_goto {i : ι} {c : CallAt} (hh : c.holds = true) (ha : c.refused = false)
    (hd : s.leaveTx.chans i = .dropped) (hr : s.worker = .running) : (s.goto i c).Doomed i :=
  ⟨by rw [calls_goto_self, hh],by rw [calls_goto_self, ha],hd,hr⟩

lemma Doomed.step {i : ι} (h : s.Doomed i) (hc : s.calls i ≠ .await) :
    (s.step args (.call i)).Doomed i ∧
      ((s.step args (.call i)).calls i).movesLeft < (s.calls i).movesLeft := by
  obtain ⟨hh,ha,hd,hr⟩ := h
  have hok : s.commit.1 = true := s.commit_ok.mpr (by rw [hr]; exact nofun)
  have hcd : s.commit.2.leaveTx.chans i = .dropped := by rw [commit_leaveTx, hd]
  have hcr : s.commit.2.worker = .running := by rw [commit_worker, hr]
  simp only [Leave.step, Leave.callStep]
  cases hs : s.calls i with
  | pushOp =>
    refine ⟨doomed_goto rfl rfl hd hr,?_⟩
    rw [calls_goto_self]
    decide
  | commitOp =>
    simp only [hok]
    refine ⟨doomed_goto rfl rfl hcd hcr,?_⟩
    rw [calls_goto_self]
    decide
  | commit ok =>
    rw [hs] at ha
    obtain rfl : ok = true := by simpa [CallAt.refused] using ha
    refine ⟨doomed_goto rfl rfl hcd hcr,?_⟩
    rw [calls_goto_self]
    decide
  | await => exact absurd hs hc
  | clearLeaveTx => cases hs ▸ ha
  | _ => cases hs ▸ hh

/-- A doomed call comes to await, and returns while the worker runs. -/
lemma Doomed.returns {i : ι} (h : s.Doomed i) : ∃ xs, ¬ (run (Leave.step args) s xs).Sound := by
  induction hn : (s.calls i).movesLeft using Nat.strong_induction_on generalizing s with
  | _ n ih =>
    by_cases hc : s.calls i = .await
    · refine ⟨[.call i],fun hs => hs.notEarly i ?_ ?_⟩
      · simp [Leave.step, Leave.callStep, hc, h.dropped]
      · simp [Leave.step, Leave.callStep, hc, h.dropped, h.running]
    · obtain ⟨hd,hlt⟩ := h.step args hc
      obtain ⟨xs,hxs⟩ := ih _ (hn ▸ hlt) hd rfl
      exact ⟨.call i::xs,hxs⟩

/-- A call that committed with its sender left behind awaits it when the worker is gone. -/
lemma hangs {i : ι} (ht : s.worker.took = true) (hh : s.leaveTx.held = some i)
    (hc : s.calls i = .commit true) : ∃ xs, ¬ (run (Leave.step args) s xs).Sound := by
  have hend : ∃ xs, (run (Leave.step args) s xs).worker = .finished ∧
      (run (Leave.step args) s xs).leaveTx.held = some i ∧
      (run (Leave.step args) s xs).calls i = .commit true := by
    cases hw : s.worker with
    | send k => exact ⟨[.onClosed,.onClosed],by simp [Leave.step, Leave.onClosed, hw, hh, hc]⟩
    | callback => exact ⟨[.onClosed],by simp [Leave.step, Leave.onClosed, hw, hh, hc]⟩
    | finished => exact ⟨[],hw,hh,hc⟩
    | _ => cases hw ▸ ht
  obtain ⟨xs,hw,hh,hc⟩ := hend
  refine ⟨xs ++ [.call i],fun hs => ?_⟩
  rw [run_append] at hs
  refine hs.noHang ?_ i ?_ ?_
  · simp [Leave.step, Leave.callStep, hc, hw]
  · simp [Leave.step, Leave.callStep, hc]
  · simp [Leave.step, Leave.callStep, hc, hh]

/-- A move outside the guard drops the sender of a call that will await it, or commits with a
sender that nobody will take. -/
lemma Inv.lose (h : s.Inv) (x : Move ι) (hg : ¬ s.Guard x) :
    ∃ xs, ¬ (run (Leave.step args) (s.step args x) xs).Sound := by
  cases x with
  | call i =>
    unfold Guard at hg
    cases hc : s.calls i with
    | setLeaveTx =>
      simp only [hc, Classical.not_imp] at hg
      obtain ⟨hr,hheld⟩ := hg
      obtain ⟨j,hj⟩ := Option.ne_none_iff_exists'.mp hheld
      have hholds := (h.holds hr j).mp hj
      have hji : j ≠ i := by
        rintro rfl
        rw [hc] at hholds
        cases hholds
      have hcalls : (s.step args (.call i)).calls j = s.calls j := by
        simp [Leave.step, Leave.callStep, hc, calls_goto, hji]
      refine Doomed.returns (i := j) args ⟨?_,?_,?_,?_⟩
      · rw [hcalls, hholds]
      · rw [hcalls]
        exact h.accepted (by rw [hr]; exact nofun) j
      · simp [Leave.step, Leave.callStep, hc, SenderCell.chans_clear, hj]
      · simp [Leave.step, Leave.callStep, hc, hr]
    | commitOp =>
      simp only [hc, Classical.not_imp, not_not] at hg
      obtain ⟨ht,hf,hheld⟩ := hg
      refine hangs (i := i) args ?_ ?_ ?_
      · simp [Leave.step, Leave.callStep, hc, ht]
      · simp [Leave.step, Leave.callStep, hc, hheld]
      · simp [Leave.step, Leave.callStep, hc, s.commit_ok.mpr hf]
    | _ => simp [hc] at hg
  | _ => exact absurd trivial hg

/-- Whole runs of any calls and the worker, in any interleaving: the calls return neither early nor
never as long as every move keeps the guard, and any other move can lead to one that does. -/
theorem leave_exact : Exact (step args) Guard Sound (new : Leave ι) :=
  exact_of_invariant (fun _ h => h.sound) (fun _ x h hg => h.step args x hg)
    (fun _ x h hg => h.lose args x hg) inv_new

section Sample

/-- Some moves of one of two calls. -/
def moves (n : ℕ) (i : Bool) : List (Move Bool) := List.replicate n (.call i)

/-- The second of two calls drops the sender of the first, which returns at once. And a call whose
test comes before the worker closes, and whose sender comes too late, awaits for ever. -/
theorem returns_early_and_hangs :
    ¬ Always (step fun _ => ⟨none,false⟩) Sound (new : Leave Bool)
        (moves 3 false ++ moves 3 true ++ moves 5 false) ∧
      ¬ Always (step fun _ => ⟨none,false⟩) Sound (new : Leave Bool)
        (moves 2 false ++ [.onClosed,.onClosed,.onClosed] ++ moves 4 false ++ [.onClosed]) := by
  constructor
  · intro h
    exact h.last.notEarly false (by decide) (by decide)
  · intro h
    exact h.last.noHang (by decide) false (by decide) (by decide)

end Sample

end Leave
end VvClient
