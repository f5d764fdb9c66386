import VvClient.Glue.Dialogue

/-! The inbox of the delegate over whole runs: what becomes of the operations that the application
commits, whatever happens to the session meanwhile. -/
namespace VvClient

open Machine Prog

namespace DelegateImpl

section TakenUp
variable (texts : Texts)

/-- What a call of `on_process` takes up of an inbox: the operations up to the first one that cannot
be built, each with the text of its request. -/
def takenUp (d : DelegateImpl) : List Op → List (Op × Option String)
  | [] => []
  | op::ops =>
    match built texts d op with
    | some b => (op,some b.1)::takenUp d ops
    | none => [(op,none)]

variable {texts}

lemma takenUp_congr {d d' : DelegateImpl} (h : ∀ op, built texts d' op = built texts d op) (ops : List Op) :
    takenUp texts d' ops = takenUp texts d ops := by
  induction ops with
  | nil => rfl
  | cons op ops ih => simp only [takenUp, h, ih]

variable (texts)

lemma takenUp_texts (d : DelegateImpl) (ops : List Op) : (takenUp texts d ops).filterMap Prod.snd =
    ((ops.takeWhile fun op => (built texts d op).isSome).filterMap (built texts d)).map Prod.fst := by
  induction ops with
  | nil => rfl
  | cons op ops ih => cases hb : built texts d op <;> simp [takenUp, hb, ih]

lemma takenUp_all (d : DelegateImpl) (ops : List Op) :
    ((takenUp texts d ops).all fun x => x.2.isSome) = ops.all fun op => (built texts d op).isSome := by
  induction ops with
  | nil => rfl
  | cons op ops ih => cases hb : built texts d op <;> simp [takenUp, hb, ih]

/-- The loop leaves behind what it does not take up. -/
lemma drain_inbox (ops : List Op) (s : DelegateImpl × Xfer) (hi : s.1.inbox = ops) :
    (takenUp texts s.1 ops).map Prod.fst ++ ((drain texts ops).run s).2.1.inbox = ops ∧
      ((drain texts ops).run s).2.1.arrivals = s.1.arrivals := by
  induction ops generalizing s with
  | nil => exact ⟨hi,rfl⟩
  | cons op ops ih =>
    have hop := sends_processOp texts op (holding ops s)
    rw [built_holding] at hop
    cases hb : built texts s.1 op with
    | some b =>
      rw [hb] at hop
      have hrun : (drain texts (op::ops)).run s = (drain texts ops).run (sent (holding ops s) b) :=
        run_bind_ok hop
      have hsame : ∀ op', built texts (sent (holding ops s) b).1 op' = built texts s.1 op' := fun _ => rfl
      obtain ⟨hinbox,harrivals⟩ := ih (sent (holding ops s) b) rfl
      rw [takenUp_congr hsame] at hinbox
      rw [hrun]
      exact ⟨by simp [takenUp, hb, hinbox],harrivals⟩
    | none =>
      rw [hb] at hop
      obtain ⟨e,he⟩ := hop
      obtain ⟨hd,-,-⟩ := processOp_clean texts op (holding ops s) e he
      have hrun : (drain texts (op::ops)).run s = (.error e,((processOp texts op).run (holding ops s)).2) :=
        run_bind_error (m := processOp texts op) (Prod.ext he rfl)
      rw [hrun, hd]
      exact ⟨by simp [takenUp, hb, holding],rfl⟩

/-- One call of `on_process`: what it takes up, what it queues, and whether it succeeds. -/
lemma onProcess_takenUp (s : DelegateImpl × Xfer) :
    (takenUp texts s.1 (pending s.1)).map Prod.fst ++ ((onProcess texts).run s).2.1.inbox = pending s.1 ∧
    ((onProcess texts).run s).2.1.arrivals = (fun n => s.1.arrivals (n+1)) ∧
    ((onProcess texts).run s).2.2.que = s.2.que ++ requests (s.2.tailSn+1) (Xfer.fillAck none s.2).1
      ((takenUp texts s.1 (pending s.1)).filterMap Prod.snd) ∧
    ((onProcess texts).run s).1.isOk = (takenUp texts s.1 (pending s.1)).all fun x => x.2.isSome := by
  obtain ⟨hque,hok⟩ := onProcess_que texts s
  have hsame : ∀ op, built texts (arrived s).1 op = built texts s.1 op := fun _ => rfl
  obtain ⟨hinbox,harrivals⟩ := drain_inbox texts (pending s.1) (arrived s) rfl
  rw [takenUp_congr hsame] at hinbox
  refine ⟨hinbox,harrivals,by rw [takenUp_texts, hque],?_⟩
  rw [takenUp_all, Bool.eq_iff_iff, List.all_eq_true, ← hok]
  cases ((onProcess texts).run s).1 <;> simp [Except.isOk, Except.toBool]

lemma requests_bodies (sn : ℤ) (ack : Option ℤ) (bodies : List String) :
    (requests sn ack bodies).map (fun q => q.2.body) = bodies.map some := by
  induction bodies generalizing sn ack with
  | nil => rfl
  | cons text bodies ih => simp [requests, ih]

/-- Inbox and arrivals are those of `d`. -/
def Waits (d d' : DelegateImpl) : Prop := d'.inbox = d.inbox ∧ d'.arrivals = d.arrivals

lemma waits_sendRequest {d : DelegateImpl} (body : Except Error String) (resolver : Resolver) :
    Keeps (fun s => Waits d s.1) (sendRequest body resolver) := by
  cases body with
  | ok text => exact fun s h => h
  | error e => exact fun s h => h

lemma waits_onOpening {d : DelegateImpl} : Keeps (fun s => Waits d s.1) (onOpening texts) := by
  refine Keeps.bind (fun _ h => h) fun _ => Keeps.bind ?_ fun _ => Keeps.bind ?_ fun _ => ?_
  · exact waits_sendRequest _ _
  · exact waits_sendRequest _ _
  · exact waits_sendRequest _ _

end TakenUp

end DelegateImpl

namespace Desk

open DelegateImpl (delegate takenUp pending Waits Idle)

/-- What `on_process` returned, where it was called. -/
def processed : Call × Bool → Option Bool
  | (.onProcess,ok) => some ok
  | _ => none

section Rounds
variable (texts : Texts)

/-- What a move takes up of the inbox, where it calls `on_process`. -/
def round (s : Desk DelegateImpl) : DeskMove → List (List (DelegateImpl.Op × Option String))
  | .process => if s.stage = .opened then [takenUp texts s.listener (pending s.listener)] else []
  | _ => []

/-- The bodies that a move queues, where it calls `on_process`. -/
def queues (s : Desk DelegateImpl) : DeskMove → List (Option String)
  | .process => ((s.step (delegate texts) .process).enqueued.drop s.enqueued.length).map fun q => q.2.body
  | _ => []

lemma step_processed (s : Desk DelegateImpl) (m : DeskMove) :
    ((s.step (delegate texts) m).calls.filterMap processed) =
      s.calls.filterMap processed ++ (round texts s m).map fun t => t.all fun x => x.2.isSome := by
  cases m with
  | process =>
    by_cases h : s.stage = .opened
    · obtain ⟨-,-,-,hok⟩ := DelegateImpl.onProcess_takenUp texts (s.listener,s.xfer)
      simp [step, round, h, call, processed, delegate, hok]
    · simp [step, round, h]
  | opening => simp only [step, round]; split <;> simp [opening, call, processed]
  | closed status => simp [step, round, closed, processed]
  | heartbeat body => simp only [step, round]; split <;> simp [heartbeat]
  | flush c => simp [step, round]
  | flushAck c => simp [step, round]
  | _ => simp only [step, round]; split <;> simp [call, processed]

lemma step_queues (s : Desk DelegateImpl) (m : DeskMove) :
    queues texts s m = ((round texts s m).flatten.filterMap Prod.snd).map some := by
  cases m with
  | process =>
    by_cases h : s.stage = .opened
    · obtain ⟨-,-,hque,-⟩ := DelegateImpl.onProcess_takenUp texts (s.listener,s.xfer)
      simp [queues, step, round, h, call, delegate, added, hque, DelegateImpl.requests_bodies]
    · simp [queues, step, round, h]
  | _ => rfl

/-- Nothing but `on_process` touches the inbox. -/
lemma step_waits (s : Desk DelegateImpl) {m : DeskMove} (h : round texts s m = []) :
    Waits s.listener (s.step (delegate texts) m).listener := by
  have hself : ∀ c (m : Prog DelegateImpl Error Unit), (∀ d, Keeps (Idle d) m) →
      Waits s.listener (s.call c (DelegateImpl.onSelf m)).listener :=
    fun c m hm => (hm s.listener s.listener ⟨rfl,rfl,rfl⟩).2
  cases m with
  | opening =>
    simp only [step]
    split
    · exact ⟨rfl,rfl⟩
    · exact DelegateImpl.waits_onOpening texts (s.listener,Xfer.new) ⟨rfl,rfl⟩
  | opened sessionId =>
    simp only [step]
    split
    · exact hself (.onOpened sessionId) _ fun _ => DelegateImpl.idle_onOpened sessionId
    · exact ⟨rfl,rfl⟩
  | process =>
    have hstage : s.stage ≠ .opened := fun hs => by simp [round, hs] at h
    simp only [step, if_neg hstage]
    exact ⟨rfl,rfl⟩
  | response p ack response =>
    simp only [step]
    split
    · exact hself (.onResponse p ack response) _ fun _ => DelegateImpl.idle_onResponse texts ack response
    · exact ⟨rfl,rfl⟩
  | push p push =>
    simp only [step]
    split
    · exact hself (.onPush p push) _ fun _ => DelegateImpl.idle_onPush push
    · exact ⟨rfl,rfl⟩
  | closed status => exact (DelegateImpl.idle_onClosed status s.listener ⟨rfl,rfl,rfl⟩).2
  | heartbeat body => simp only [step]; split <;> exact ⟨rfl,rfl⟩
  | numbers ack sn => simp only [step]; split <;> exact ⟨rfl,rfl⟩
  | flush c => exact ⟨rfl,rfl⟩
  | flushAck c => exact ⟨rfl,rfl⟩

/-- A move takes from the front of the inbox, behind which the next arrivals stand. -/
lemma step_inbox (s : Desk DelegateImpl) (m : DeskMove) :
    (round texts s m).flatten.map Prod.fst ++ (s.step (delegate texts) m).listener.inbox =
      s.listener.inbox ++ (List.range (round texts s m).length).flatMap s.listener.arrivals ∧
    (s.step (delegate texts) m).listener.arrivals =
      fun n => s.listener.arrivals (n+(round texts s m).length) := by
  by_cases hround : round texts s m = []
  · obtain ⟨hinbox,harrivals⟩ := step_waits texts s hround
    simp [hround, hinbox, harrivals]
  · cases m with
    | process =>
      have hstage : s.stage = .opened := by
        by_contra hs
        exact hround (by simp [round, hs])
      obtain ⟨hinbox,harrivals,-,-⟩ := DelegateImpl.onProcess_takenUp texts (s.listener,s.xfer)
      simp only [pending] at hinbox
      simp [step, round, hstage, call, delegate, hinbox, harrivals, pending]
    | _ => exact absurd rfl hround

/-- From `s` on, the calls of `on_process` take the operations up in the order in which they were
committed, each of them once; they queue what could be built, and a call fails just over an operation
that could not. -/
structure InOrder (s : Desk DelegateImpl) (moves : List DeskMove) : Prop where
  inbox : (outputs (step (delegate texts)) (round texts) s moves).flatten.map Prod.fst ++
      (Machine.run (step (delegate texts)) s moves).listener.inbox =
    s.listener.inbox ++ (List.range (outputs (step (delegate texts)) (round texts) s moves).length).flatMap
      s.listener.arrivals
  queued : outputs (step (delegate texts)) (queues texts) s moves =
    ((outputs (step (delegate texts)) (round texts) s moves).flatten.filterMap Prod.snd).map some
  processed : (Machine.run (step (delegate texts)) s moves).calls.filterMap processed =
    s.calls.filterMap processed ++ (outputs (step (delegate texts)) (round texts) s moves).map fun t =>
      t.all fun x => x.2.isSome

lemma inOrder (s : Desk DelegateImpl) (moves : List DeskMove) : InOrder texts s moves := by
  refine ⟨?_,?_,?_⟩
  · induction moves generalizing s with
    | nil => simp [outputs]
    | cons m moves ih =>
      obtain ⟨hinbox,harrivals⟩ := step_inbox texts s m
      have ih := ih (s.step (delegate texts) m)
      rw [harrivals] at ih
      rw [outputs, run_cons, List.flatten_append, List.map_append, List.append_assoc, ih,
        ← List.append_assoc, hinbox, List.length_append, List.range_add, List.flatMap_append,
        List.flatMap_map, List.append_assoc]
      simp only [Nat.add_comm]
  · induction moves generalizing s with
    | nil => rfl
    | cons m moves ih => simp [outputs, ih, step_queues]
  · induction moves generalizing s with
    | nil => exact (List.append_nil _).symm
    | cons m moves ih =>
      rw [run_cons, ih, step_processed, outputs, List.map_append, List.append_assoc]

end Rounds
end Desk

section Run

open DelegateImpl (delegate)

/-- The worker with `DelegateImpl` runs as a desk does, with the same queue of the session, and in
every such run the operations are taken up in order: none is lost, none is taken up twice, and the
queue gets a request for each of them that could be built. -/
theorem Task.operations_in_order (texts : Texts) (serde : Serde) (fuel : ℕ) (config : JoinConfig)
    (answers callbacks : ℕ → Except Error Unit) (arrivals : ℕ → List DelegateImpl.Op)
    (iters : ℕ → IterOrder) (now : ℕ) (waits : List (ℕ × Wait)) (modes : ℕ → ShutdownMode)
    (drops : ℕ → Bool) :
    (∃ moves,
      (Machine.run (Desk.step (delegate texts)) (Desk.fresh answers callbacks arrivals iters) moves).listener =
        ((Task.run (delegate texts) serde fuel).run (Task.new config
          (DelegateImpl.new answers callbacks arrivals iters) now waits modes drops)).2.listener ∧
      (Machine.run (Desk.step (delegate texts)) (Desk.fresh answers callbacks arrivals iters) moves).calls =
        ((Task.run (delegate texts) serde fuel).run (Task.new config
          (DelegateImpl.new answers callbacks arrivals iters) now waits modes drops)).2.env.calls ∧
      ∀ x, Task.lastQueue (delegate texts) serde fuel (Task.new config
          (DelegateImpl.new answers callbacks arrivals iters) now waits modes drops) = some x →
        (Machine.run (Desk.step (delegate texts)) (Desk.fresh answers callbacks arrivals iters)
          moves).stage = .opened ∧
        (Machine.run (Desk.step (delegate texts)) (Desk.fresh answers callbacks arrivals iters)
          moves).xfer = x) ∧
    ∀ moves, Desk.InOrder texts (Desk.fresh answers callbacks arrivals iters) moves := by
  refine ⟨?_,Desk.inOrder texts _⟩
  obtain ⟨s,⟨moves,-,rfl⟩,hl,hc,hx⟩ := Task.run_served (delegate texts)
    (DelegateImpl.new answers callbacks arrivals iters) serde fuel config now waits modes drops
  exact ⟨moves,hl,hc,hx⟩

end Run

end VvClient
