import VvClient.Kit.Actor
import VvClient.Lib.Replay

/-! The calls of `invoke` on an actor: every call sends its request with the sender of a channel of its
own, and awaits the response there. A step is one poll of a call or one step of the actor. -/
namespace VvClient.Kit

open Replay

/-- The two errors of `invoke`. -/
inductive InvokeError
  | send
  | recv
  deriving DecidableEq

/-- Where a call of `invoke` is. -/
inductive CallAt (α : Type*)
  | idle
  /-- `op_tx.send` waits for room -/
  | sending
  /-- `rx` is awaited -/
  | awaiting
  /-- the future was dropped before it returned -/
  | dropped
  | returned (result : Except InvokeError α)

variable (ε Next Msg ι σ α : Type*) in
/-- An actor and the calls on it. -/
structure Invocations where
  task : ActorTask ε Next Msg ι
  entity : σ
  callers : ι → CallAt α
  /-- what the handler made of each request -/
  answer : ι → Option α
  /-- the calls whose requests entered the channel, in this order -/
  sent : List ι
  /-- what was done to the entity -/
  log : List (Entry ι σ)

variable (ε Next Msg ι σ : Type*) in
inductive Move
  | call (i : ι)
  /-- `op_tx.send` of a call is polled -/
  | send (i : ι)
  /-- `rx` of a call is polled -/
  | await (i : ι)
  | cancel (i : ι)
  /-- the loop of the actor takes an operation, if there is one -/
  | recv
  /-- the handler of a request returns -/
  | responds
  /-- anything else in the actor, with what it does to the entity -/
  | other (e : Event ε Next Msg ι) (f : σ → σ)

/-- The steps of an actor that calls of `invoke` take part in. -/
def Event.ofInvoke {ε Next Msg ι : Type*} : Event ε Next Msg ι → Bool
  | .send (.invoke _) => true
  | .recv _ => true
  | .responds => true
  | _ => false

namespace ActorTask

variable {ε Next Msg ι : Type*}

/-- The request whose handler runs. -/
def current (t : ActorTask ε Next Msg ι) : List ι :=
  match t.run with
  | .handle i _ => [i]
  | _ => []

/-- The calls whose requests are in the channel. -/
def queued (t : ActorTask ε Next Msg ι) : List ι :=
  t.queue.filterMap fun op => match op with
    | .invoke i => some i
    | _ => none

/-- An operation that is no request enters the channel. -/
lemma push_queued {op : Op Msg ι} (h : ∀ i, op ≠ .invoke i) (t : ActorTask ε Next Msg ι) :
    (t.push op).queued = t.queued := by
  unfold push
  split
  · rfl
  · split
    · cases op with
      | invoke i => exact absurd rfl (h i)
      | _ => simp [queued]
    · rfl

lemma push_current (op : Op Msg ι) (t : ActorTask ε Next Msg ι) : (t.push op).current = t.current := by
  rw [current, push_run, current]

lemma step_send_current (op : Op Msg ι) (t : ActorTask ε Next Msg ι) :
    (t.step (.send op)).current = t.current := by
  simp only [step]
  split
  · exact push_current op t
  · rfl

/-- The steps that no call takes part in leave the requests where they are. -/
lemma step_foreign {e : Event ε Next Msg ι} (h : e.ofInvoke = false) (t : ActorTask ε Next Msg ι) :
    (t.step e).current = t.current ∧ (t.step e).queued = t.queued := by
  cases e with
  | send op =>
    have hop : ∀ i, op ≠ .invoke i := by
      rintro i rfl
      cases h
    refine ⟨step_send_current op t,?_⟩
    simp only [step]
    split
    · exact push_queued hop t
    · rfl
  | cloneInvoker => simp only [step]; split <;> exact ⟨rfl,rfl⟩
  | dropInvoker => exact ⟨rfl,rfl⟩
  | storeDrop => simp only [step]; split <;> exact ⟨rfl,rfl⟩
  | trySendShutdown =>
    simp only [step]
    split
    · exact ⟨push_current _ t,push_queued (fun _ h => by cases h) t⟩
    · exact ⟨rfl,rfl⟩
  | returns result =>
    simp only [step, returns]
    split <;> first | exact ⟨rfl,rfl⟩ | simp [*, current, queued, finish, select]
  | waitNext next =>
    simp only [step, waitNext]
    split
    · next hrun => simp [current, queued, hrun]
    · exact ⟨rfl,rfl⟩
  | loadDrop =>
    simp only [step, loadDrop]
    split
    · next hrun => split <;> simp [current, queued, hrun, finish, select]
    · exact ⟨rfl,rfl⟩
  | _ => cases h

/-- A request whose handler starts was taken from the channel, and somebody hears the response. -/
lemma recv_current (t : ActorTask ε Next Msg ι) {unheard : Bool} {i : ι}
    (h : i ∈ (t.recv unheard).current) :
    i ∈ t.current ∨ t.takes (.recv false) = some (.invoke i) ∧ unheard = false := by
  have hop : ∀ (op : Op Msg ι) queue more, i ∈ ((t.taken queue).handleOp op more unheard).current →
      t.current = [] → op = .invoke i ∧ unheard = false := by
    intro op queue more hi hnone
    cases op with
    | shutdown => simp [handleOp, finish, current] at hi
    | msg msg => simp [handleOp, current] at hi
    | invoke k =>
      cases unheard with
      | true => simp [handleOp, current] at hi
      | false =>
        obtain rfl : i = k := by simpa [handleOp, current] using hi
        exact ⟨rfl,rfl⟩
  unfold recv at h
  split at h
  · next op queue hrun hq =>
    obtain ⟨rfl,hheard⟩ := hop op queue _ h (by simp [current, hrun])
    exact .inr ⟨by simp [takes, hrun, hq],hheard⟩
  · split at h
    · simp [finish, current] at h
    · exact .inl h
  · simp [current] at h
  · next more op queue hrun hq =>
    obtain ⟨rfl,hheard⟩ := hop op queue _ h (by simp [current, hrun])
    exact .inr ⟨by simp [takes, hrun, hq],hheard⟩
  · split at h
    · simp [finish, current] at h
    · simp [current] at h
  · exact .inl h

lemma handleOp_requests (t : ActorTask ε Next Msg ι) (op : Op Msg ι) (queue : List (Op Msg ι)) (more : ℕ)
    (unheard : Bool) (hrun : t.current = []) (hqueue : t.queue = op::queue) :
    ((t.taken queue).handleOp op more unheard).current ++
        ((t.taken queue).handleOp op more unheard).queued = t.current ++ t.queued ∨
    ∃ i, op = .invoke i ∧ unheard = true ∧ t.current ++ t.queued =
      i :: (((t.taken queue).handleOp op more unheard).current ++
        ((t.taken queue).handleOp op more unheard).queued) := by
  rw [hrun]
  cases op with
  | shutdown => exact .inl (by simp [handleOp, current, queued, finish, taken, hqueue])
  | msg msg => exact .inl (by simp [handleOp, current, queued, taken, hqueue])
  | invoke i =>
    cases unheard with
    | true => exact .inr ⟨i,rfl,rfl,by simp [handleOp, current, queued, taken, hqueue]⟩
    | false => exact .inl (by simp [handleOp, current, queued, taken, hqueue])

/-- The loop takes a request up, or throws it away where nobody hears the response. -/
lemma recv_requests (t : ActorTask ε Next Msg ι) (unheard : Bool) :
    (t.recv unheard).current ++ (t.recv unheard).queued = t.current ++ t.queued ∨
    ∃ i, t.takes (.recv false) = some (.invoke i) ∧ unheard = true ∧
      t.current ++ t.queued = i :: ((t.recv unheard).current ++ (t.recv unheard).queued) := by
  unfold recv
  split
  · next op queue hrun hq =>
    have htakes : t.takes (.recv false) = some op := by simp [takes, hrun, hq]
    rw [htakes]
    simpa using handleOp_requests t op queue batchSize unheard (by simp [current, hrun]) hq
  · next hrun hq =>
    split
    · exact .inl (by simp [finish, current, queued, hrun])
    · exact .inl rfl
  · next hrun => exact .inl (by simp [current, queued, hrun])
  · next more op queue hrun hq =>
    have htakes : t.takes (.recv false) = some op := by simp [takes, hrun, hq]
    rw [htakes]
    simpa using handleOp_requests t op queue more unheard (by simp [current, hrun]) hq
  · next more hrun hq =>
    split
    · exact .inl (by simp [finish, current, queued, hrun])
    · exact .inl (by simp [current, queued, hrun])
  · exact .inl rfl

end ActorTask

namespace Invocations

variable {ε Next Msg ι ρ σ α : Type*} [DecidableEq ι] (handle : ρ → σ → σ × α) (request : ι → ρ)

def new (entity : σ) : Invocations ε Next Msg ι σ α :=
  ⟨.new,entity,fun _ => .idle,fun _ => none,[],[]⟩

def setCaller (i : ι) (c : CallAt α) (s : Invocations ε Next Msg ι σ α) :
    Invocations ε Next Msg ι σ α :=
  { s with callers := Function.update s.callers i c }

/-- The channel has a sender, and room for one more operation. -/
def hasRoom (s : Invocations ε Next Msg ι σ α) : Prop :=
  (s.task.actor = .held ∨ 0 < s.task.invokers) ∧ s.task.queue.length < channelSize

instance (s : Invocations ε Next Msg ι σ α) : Decidable s.hasRoom :=
  inferInstanceAs (Decidable (_ ∧ _))

/-- `op_tx.send`, which fails when the receiver is gone. -/
def send (i : ι) (s : Invocations ε Next Msg ι σ α) : Invocations ε Next Msg ι σ α :=
  match s.callers i,s.task.run with
  | .sending,.returned _ => s.setCaller i (.returned (.error .send))
  | .sending,_ =>
    if s.hasRoom then
      { s.setCaller i .awaiting with
        task := s.task.step (.send (.invoke i)), sent := s.sent ++ [i] }
    else s
  | _,_ => s

/-- `rx.await`, which fails when the sender was dropped: with the queue, behind the end of
`run_actor`. -/
def await (i : ι) (s : Invocations ε Next Msg ι σ α) : Invocations ε Next Msg ι σ α :=
  match s.callers i,s.answer i,s.task.run with
  | .awaiting,some a,_ => s.setCaller i (.returned (.ok a))
  | .awaiting,none,.returned _ => s.setCaller i (.returned (.error .recv))
  | _,_,_ => s

def cancel (i : ι) (s : Invocations ε Next Msg ι σ α) : Invocations ε Next Msg ι σ α :=
  match s.callers i with
  | .sending => s.setCaller i .dropped
  | .awaiting => s.setCaller i .dropped
  | _ => s

/-- `tx.is_closed()` for the operation that the loop takes. -/
def unheard (s : Invocations ε Next Msg ι σ α) : Bool :=
  match s.task.takes (.recv false) with
  | some (.invoke i) =>
    match s.callers i with
    | .dropped => true
    | _ => false
  | _ => false

/-- `AsyncEnvelopeReal::handle` behind the check. -/
def responds (s : Invocations ε Next Msg ι σ α) : Invocations ε Next Msg ι σ α :=
  match s.task.run with
  | .handle i _ =>
    { s with
      task := s.task.step .responds
      entity := (handle (request i) s.entity).1
      answer := Function.update s.answer i (some (handle (request i) s.entity).2)
      log := s.log ++ [.handled i] }
  | _ => s

def step (s : Invocations ε Next Msg ι σ α) : Move ε Next Msg ι σ → Invocations ε Next Msg ι σ α
  | .call i =>
    match s.callers i with
    | .idle => s.setCaller i .sending
    | _ => s
  | .send i => s.send i
  | .await i => s.await i
  | .cancel i => s.cancel i
  | .recv => { s with task := s.task.step (.recv s.unheard) }
  | .responds => s.responds handle request
  | .other e f =>
    if e.ofInvoke then s
    else { s with task := s.task.step e, entity := f s.entity, log := s.log ++ [.changed f] }

variable {handle request} {s : Invocations ε Next Msg ι σ α} {init : σ}

variable (handle request init) in
/-- What holds in every state. -/
structure Inv (s : Invocations ε Next Msg ι σ α) : Prop where
  entity : s.entity = state handle request init s.log
  answered : ∀ i a, s.answer i = some a ↔ (i,a) ∈ answers handle request init s.log
  order : (parties s.log ++ (s.task.current ++ s.task.queued)).Sublist s.sent
  distinct : s.sent.Nodup
  entered : ∀ i ∈ s.sent, s.callers i ≠ .idle ∧ s.callers i ≠ .sending
  returned : ∀ i a, s.callers i = .returned (.ok a) → s.answer i = some a
  awaiting : ∀ i, s.callers i = .awaiting → i ∈ parties s.log ++ (s.task.current ++ s.task.queued) ∨
    ∃ result, s.task.run = .returned result

namespace Inv

omit [DecidableEq ι] in
lemma new : (Invocations.new init : Invocations ε Next Msg ι σ α).Inv handle request init :=
  ⟨rfl,fun i a => by simp [Invocations.new, answers],List.Sublist.refl _,List.nodup_nil,
    fun i hi => absurd hi List.not_mem_nil,fun i a h => (by cases h),fun i h => (by cases h)⟩

/-- A call moves on, and nothing else. -/
lemma setCaller (h : s.Inv handle request init) {i : ι} {c : CallAt α}
    (hentered : i ∈ s.sent → c ≠ .idle ∧ c ≠ .sending)
    (hreturned : ∀ a, c = .returned (.ok a) → s.answer i = some a) (hawaiting : c ≠ .awaiting) :
    (s.setCaller i c).Inv handle request init := by
  refine ⟨h.entity,h.answered,h.order,h.distinct,fun j hj => ?_,fun j a hj => ?_,fun j hj => ?_⟩
  · by_cases hji : j = i
    · subst hji
      simpa [Invocations.setCaller] using hentered hj
    · simpa [Invocations.setCaller, hji] using h.entered j hj
  · by_cases hji : j = i
    · subst hji
      exact hreturned a (by simpa [Invocations.setCaller] using hj)
    · exact h.returned j a (by simpa [Invocations.setCaller, hji] using hj)
  · by_cases hji : j = i
    · subst hji
      exact absurd (by simpa [Invocations.setCaller] using hj) hawaiting
    · exact h.awaiting j (by simpa [Invocations.setCaller, hji] using hj)

lemma send (h : s.Inv handle request init) (i : ι) : (s.send i).Inv handle request init := by
  unfold Invocations.send
  split
  · exact h.setCaller (fun _ => ⟨fun hc => (by cases hc),fun hc => (by cases hc)⟩)
      (fun a hc => by cases hc) (fun hc => by cases hc)
  · next hsending hrun =>
    split
    · next hroom =>
      have hnew : i ∉ s.sent := fun hi => (h.entered i hi).2 hsending
      have hpush : s.task.step (.send (.invoke i)) =
          { s.task with queue := s.task.queue ++ [.invoke i] } := by
        rw [ActorTask.step, if_pos hroom.1, ActorTask.push]
        split
        · next result hr => exact (hrun result hr).elim
        · rw [if_pos hroom.2]
      have hqueued : (s.task.step (.send (.invoke i))).queued = s.task.queued ++ [i] := by
        rw [hpush]
        simp [ActorTask.queued]
      have hcurrent := ActorTask.step_send_current (.invoke i) s.task
      have hall : parties s.log ++ ((s.task.step (.send (.invoke i))).current ++
          (s.task.step (.send (.invoke i))).queued) =
          parties s.log ++ (s.task.current ++ s.task.queued) ++ [i] := by
        rw [hqueued, hcurrent]
        simp
      refine ⟨h.entity,h.answered,?_,?_,fun j hj => ?_,fun j a hj => ?_,fun j hj => ?_⟩
      · change (parties s.log ++ (_ ++ _)).Sublist _
        rw [hall]
        exact h.order.append (List.Sublist.refl [i])
      · exact List.nodup_append.mpr ⟨h.distinct,by simp,by
          rintro a ha b hb rfl
          exact hnew (List.mem_singleton.mp hb ▸ ha)⟩
      · by_cases hji : j = i
        · subst hji
          simp [Invocations.setCaller]
        · have hj' : j ∈ s.sent := by
            rcases List.mem_append.mp hj with hj | hj
            · exact hj
            · exact absurd (List.mem_singleton.mp hj) hji
          simpa [Invocations.setCaller, hji] using h.entered j hj'
      · by_cases hji : j = i
        · subst hji
          simp [Invocations.setCaller] at hj
        · exact h.returned j a (by simpa [Invocations.setCaller, hji] using hj)
      · change j ∈ parties s.log ++ (_ ++ _) ∨ _
        rw [hall]
        by_cases hji : j = i
        · exact .inl (by simp [hji])
        · rcases h.awaiting j (by simpa [Invocations.setCaller, hji] using hj) with hj | ⟨result,hr⟩
          · exact .inl (List.mem_append_left _ hj)
          · exact (hrun result hr).elim
    · exact h
  · exact h

lemma await (h : s.Inv handle request init) (i : ι) : (s.await i).Inv handle request init := by
  unfold Invocations.await
  split
  · next _ _ a hawait ha =>
    refine h.setCaller (fun _ => ⟨fun hc => (by cases hc),fun hc => (by cases hc)⟩) (fun b hb => ?_)
      (fun hc => by cases hc)
    cases hb
    exact ha
  · exact h.setCaller (fun _ => ⟨fun hc => (by cases hc),fun hc => (by cases hc)⟩)
      (fun a hc => by cases hc) (fun hc => by cases hc)
  · exact h

lemma cancel (h : s.Inv handle request init) (i : ι) : (s.cancel i).Inv handle request init := by
  have hdropped : (s.setCaller i .dropped).Inv handle request init :=
    h.setCaller (fun _ => ⟨fun hc => (by cases hc),fun hc => (by cases hc)⟩)
      (fun a hc => by cases hc) (fun hc => by cases hc)
  unfold Invocations.cancel
  split
  · exact hdropped
  · exact hdropped
  · exact h

omit [DecidableEq ι] in
lemma recv (h : s.Inv handle request init) :
    ({ s with task := s.task.step (.recv s.unheard) } : Invocations ε Next Msg ι σ α).Inv
      handle request init := by
  have hreturned : (∃ result, s.task.run = .returned result) →
      ∃ result, (s.task.step (.recv s.unheard)).run = .returned result :=
    Exists.imp fun _ hr => (ActorTask.step_returned hr _).1
  rcases s.task.recv_requests s.unheard with hsame | ⟨i,htakes,hunheard,hlist⟩
  · refine ⟨h.entity,h.answered,?_,h.distinct,h.entered,h.returned,fun j hj => ?_⟩
    · change (parties s.log ++ ((s.task.recv _).current ++ (s.task.recv _).queued)).Sublist _
      rw [hsame]
      exact h.order
    · change j ∈ parties s.log ++ ((s.task.recv _).current ++ (s.task.recv _).queued) ∨ _
      rw [hsame]
      exact (h.awaiting j hj).imp_right hreturned
  · -- the request of a call that was given up is thrown away
    have hdropped : ∀ j, s.callers j = .awaiting → j ≠ i := by
      rintro j hj rfl
      simp [unheard, htakes, hj] at hunheard
    refine ⟨h.entity,h.answered,?_,h.distinct,h.entered,h.returned,fun j hj => ?_⟩
    · have horder := h.order
      rw [hlist] at horder
      exact List.Sublist.trans ((List.Sublist.refl _).append (List.sublist_cons_self i _)) horder
    · have hin := h.awaiting j hj
      rw [hlist] at hin
      refine hin.imp (fun hmem => ?_) hreturned
      rcases List.mem_append.mp hmem with hmem | hmem
      · exact List.mem_append_left _ hmem
      · exact List.mem_append_right _ ((List.mem_cons.mp hmem).resolve_left (hdropped j hj))

lemma responds (h : s.Inv handle request init) : (s.responds handle request).Inv handle request init := by
  unfold Invocations.responds
  split
  · next i more hrun =>
    have hcurrent : s.task.current = [i] := by simp [ActorTask.current, hrun]
    have hcurrent' : (s.task.step .responds).current = [] := by
      simp [ActorTask.step, ActorTask.responds, hrun, ActorTask.current]
    have hqueued' : (s.task.step .responds).queued = s.task.queued := by
      simp [ActorTask.step, ActorTask.responds, hrun, ActorTask.queued]
    have hall : parties (s.log ++ [.handled i]) ++ ((s.task.step .responds).current ++
        (s.task.step .responds).queued) =
        parties s.log ++ (s.task.current ++ s.task.queued) := by
      rw [hcurrent', hqueued', hcurrent]
      simp [parties]
    have hnew : i ∉ parties s.log := by
      have hnodup := h.order.nodup h.distinct
      rw [hcurrent] at hnodup
      exact fun hi => (List.nodup_append.mp hnodup).2.2 i hi i (by simp) rfl
    have hfresh : ∀ a, (i,a) ∉ answers handle request init s.log := fun a ha =>
      hnew (map_answers handle request init s.log ▸
        List.mem_map.mpr ⟨(i,a),ha,rfl⟩)
    refine ⟨?_,fun j a => ?_,?_,h.distinct,h.entered,fun j a hj => ?_,fun j hj => ?_⟩
    · simp [h.entity, state, Entry.apply]
    · rw [answers_append, List.mem_append, ← h.answered, ← h.entity]
      by_cases hji : j = i
      · subst hji
        have hnone : s.answer j = some a ↔ False := by
          rw [h.answered, iff_false]
          exact hfresh a
        simp [answers, hnone, eq_comm]
      · simp [answers, hji]
    · change (parties (s.log ++ [.handled i]) ++ (_ ++ _)).Sublist _
      rw [hall]
      exact h.order
    · by_cases hji : j = i
      · subst hji
        exact absurd ((h.answered j a).mp (h.returned j a hj)) (hfresh a)
      · simpa [Function.update_of_ne hji] using h.returned j a hj
    · change j ∈ parties (s.log ++ [.handled i]) ++ (_ ++ _) ∨ _
      rw [hall]
      refine (h.awaiting j hj).imp_right ?_
      rintro ⟨result,hr⟩
      rw [hrun] at hr
      cases hr
  · exact h

omit [DecidableEq ι] in
lemma other (h : s.Inv handle request init) {e : Event ε Next Msg ι} (he : e.ofInvoke = false)
    (f : σ → σ) :
    ({ s with task := s.task.step e, entity := f s.entity, log := s.log ++ [.changed f] } :
      Invocations ε Next Msg ι σ α).Inv handle request init := by
  obtain ⟨hcurrent,hqueued⟩ := ActorTask.step_foreign he s.task
  have hall : parties (s.log ++ [.changed f]) ++ ((s.task.step e).current ++ (s.task.step e).queued) =
      parties s.log ++ (s.task.current ++ s.task.queued) := by
    rw [hcurrent, hqueued]
    simp [parties]
  refine ⟨?_,fun j a => ?_,?_,h.distinct,h.entered,h.returned,fun j hj => ?_⟩
  · simp [h.entity, state, Entry.apply]
  · rw [answers_append, h.answered]
    simp [answers]
  · change (parties (s.log ++ [.changed f]) ++ (_ ++ _)).Sublist _
    rw [hall]
    exact h.order
  · change j ∈ parties (s.log ++ [.changed f]) ++ (_ ++ _) ∨ _
    rw [hall]
    exact (h.awaiting j hj).imp_right (Exists.imp fun _ hr => (ActorTask.step_returned hr _).1)

lemma step (h : s.Inv handle request init) (m : Move ε Next Msg ι σ) :
    (s.step handle request m).Inv handle request init := by
  cases m with
  | call i =>
    simp only [Invocations.step]
    split
    · next hidle =>
      exact h.setCaller (fun hi => absurd hidle (h.entered i hi).1) (fun a hc => by cases hc)
        (fun hc => by cases hc)
    · exact h
  | send i => exact h.send i
  | await i => exact h.await i
  | cancel i => exact h.cancel i
  | recv => exact h.recv
  | responds => exact h.responds
  | other e f =>
    simp only [Invocations.step]
    split
    · exact h
    · next he => exact h.other (by simpa using he) f

end Inv

section Runs

/-- The log only grows. -/
lemma step_log (s : Invocations ε Next Msg ι σ α) (m : Move ε Next Msg ι σ) :
    s.log <+: (s.step handle request m).log := by
  cases m with
  | call i => simp only [step]; split <;> exact List.prefix_refl _
  | send i => simp only [step, send]; repeat' split
              all_goals exact List.prefix_refl _
  | await i => simp only [step, await]; split <;> exact List.prefix_refl _
  | cancel i => simp only [step, cancel]; split <;> exact List.prefix_refl _
  | recv => exact List.prefix_refl _
  | responds =>
    simp only [step, responds]
    split
    · exact List.prefix_append _ _
    · exact List.prefix_refl _
  | other e f =>
    simp only [step]
    split
    · exact List.prefix_refl _
    · exact List.prefix_append _ _

lemma run_log (s : Invocations ε Next Msg ι σ α) (ms : List (Move ε Next Msg ι σ)) :
    s.log <+: (Machine.run (step handle request) s ms).log := by
  induction ms generalizing s with
  | nil => exact List.prefix_refl _
  | cons m ms ih => exact (step_log s m).trans (ih _)

variable (handle request) in
/-- What returns is what the handler answers when it handles the requests of the log one after the
other: in the order in which they entered the channel, each of them at most once. -/
structure Sequential (init : σ) (s : Invocations ε Next Msg ι σ α) : Prop where
  entity : s.entity = state handle request init s.log
  returned : ∀ i a, s.callers i = .returned (.ok a) → (i,a) ∈ answers handle request init s.log
  order : (parties s.log).Sublist s.sent
  once : s.sent.Nodup
  /-- a call that has not started is not in the log -/
  idle : ∀ i, s.callers i = .idle → i ∉ parties s.log

/-- Of two calls, one of which has returned before the other one starts, the first is handled first. -/
def RealTime (s t : Invocations ε Next Msg ι σ α) : Prop :=
  ∀ i a j, s.callers i = .returned (.ok a) → s.callers j = .idle → j ∈ parties t.log →
    [i,j].Sublist (parties t.log)

omit [DecidableEq ι] in
lemma Sequential.realTime {t : Invocations ε Next Msg ι σ α} (h : Sequential handle request init s)
    (hlog : s.log <+: t.log) : RealTime s t := by
  intro i a j hi hj hmem
  obtain ⟨rest,hrest⟩ := hlog
  have hfirst : i ∈ parties s.log :=
    map_answers handle request init s.log ▸ List.mem_map.mpr ⟨(i,a),h.returned i a hi,rfl⟩
  rw [← hrest, parties_append] at hmem ⊢
  have hlast : j ∈ parties rest := (List.mem_append.mp hmem).resolve_left (h.idle j hj)
  exact (List.singleton_sublist.mpr hfirst).append (List.singleton_sublist.mpr hlast)

/-- Calls of `invoke` are linearizable: every state is sequential, and the order of the log respects
the real time of the calls. -/
theorem linearizable (init : σ) (ms more : List (Move ε Next Msg ι σ)) :
    Machine.Always (step handle request) (Sequential handle request init)
      (new init : Invocations ε Next Msg ι σ α) ms ∧
    RealTime (Machine.run (step handle request) (new init : Invocations ε Next Msg ι σ α) ms)
      (Machine.run (step handle request) (new init) (ms ++ more)) := by
  have hsequential : Machine.Always (step handle request) (Sequential handle request init)
      (new init : Invocations ε Next Msg ι σ α) ms := by
    refine Machine.always_of_step (I := Inv handle request init) (fun _ m h => h.step m)
      (fun s h => ?_) Inv.new ms
    have hparties := (List.sublist_append_left _ _).trans h.order
    exact ⟨h.entity,fun i a hi => (h.answered i a).mp (h.returned i a hi),hparties,h.distinct,
      fun i hi hmem => (h.entered i (hparties.subset hmem)).1 hi⟩
  refine ⟨hsequential,hsequential.last.realTime ?_⟩
  rw [Machine.run_append]
  exact run_log _ more

/-- No call is lost: while the loop waits on an empty channel every call that waits for its response
has it, and once the task of `run_actor` has ended every call that waits ends with its next poll. -/
def NoneLost (s : Invocations ε Next Msg ι σ α) : Prop :=
  (s.task.run = .select → s.task.queue = [] → ∀ i, s.callers i = .awaiting → (s.answer i).isSome) ∧
  ∀ result, s.task.run = .returned result → ∀ i,
    (s.callers i = .awaiting → ∃ r, (s.await i).callers i = .returned r) ∧
    (s.callers i = .sending → (s.send i).callers i = .returned (.error .send))

theorem none_lost (init : σ) (ms : List (Move ε Next Msg ι σ)) :
    Machine.Always (step handle request) NoneLost (new init : Invocations ε Next Msg ι σ α) ms := by
  refine Machine.always_of_step (I := Inv handle request init) (fun _ m h => h.step m)
    (fun s h => ⟨fun hrun hqueue i hi => ?_,fun result hrun i => ⟨fun hi => ?_,fun hi => ?_⟩⟩)
    Inv.new ms
  · rcases h.awaiting i hi with hmem | ⟨result,hr⟩
    · simp only [ActorTask.current, ActorTask.queued, hrun, hqueue, List.filterMap_nil, List.append_nil] at hmem
      rw [← map_answers handle request init s.log] at hmem
      obtain ⟨⟨j,a⟩,ha,rfl⟩ := List.mem_map.mp hmem
      rw [(h.answered j a).mpr ha]
      rfl
    · rw [hrun] at hr
      cases hr
  · cases ha : s.answer i with
    | some a => exact ⟨.ok a,by simp [await, hi, ha, setCaller]⟩
    | none => exact ⟨.error .recv,by simp [await, hi, ha, hrun, setCaller]⟩
  · simp [send, hi, hrun, setCaller]

/-- A call that was given up, and whose handler was not started. -/
def GivenUp (i : ι) (s : Invocations ε Next Msg ι σ α) : Prop :=
  s.callers i = .dropped ∧ i ∉ parties s.log ∧ i ∉ s.task.current

lemma givenUp_setCaller {i j : ι} {c : CallAt α} (h : GivenUp i s) (hj : s.callers j ≠ .dropped) :
    GivenUp i (s.setCaller j c) := by
  refine ⟨?_,h.2⟩
  have hij : i ≠ j := by
    rintro rfl
    exact hj h.1
  simpa [setCaller, Function.update_of_ne hij] using h.1

lemma givenUp_step {i : ι} (h : GivenUp i s) (m : Move ε Next Msg ι σ) :
    GivenUp i (s.step handle request m) := by
  cases m with
  | call j =>
    simp only [step]
    split
    · next hj => exact givenUp_setCaller h (by simp [hj])
    · exact h
  | send j =>
    simp only [step, send]
    split
    · next hj hrun => exact givenUp_setCaller h (by simp [hj])
    · next hj hrun =>
      split
      · obtain ⟨hc,hp,hcur⟩ := givenUp_setCaller (c := .awaiting) h (j := j) (by simp [hj])
        exact ⟨hc,hp,fun hi => hcur (ActorTask.step_send_current _ s.task ▸ hi)⟩
      · exact h
    · exact h
  | await j =>
    simp only [step, await]
    split
    · next hj _ => exact givenUp_setCaller h (by simp [hj])
    · next hj _ _ => exact givenUp_setCaller h (by simp [hj])
    · exact h
  | cancel j =>
    simp only [step, cancel]
    split
    · next hj => exact givenUp_setCaller h (by simp [hj])
    · next hj => exact givenUp_setCaller h (by simp [hj])
    · exact h
  | recv =>
    refine ⟨h.1,h.2.1,fun hi => ?_⟩
    rcases s.task.recv_current hi with hi | ⟨htakes,hheard⟩
    · exact h.2.2 hi
    · simp [unheard, htakes, h.1] at hheard
  | responds =>
    simp only [step, responds]
    split
    · next j more hrun =>
      have hij : i ≠ j := fun hij => h.2.2 (by simp [ActorTask.current, hrun, hij])
      refine ⟨h.1,?_,?_⟩
      · simpa [parties, hij] using h.2.1
      · simp [ActorTask.step, ActorTask.responds, hrun, ActorTask.current]
    · exact h
  | other e f =>
    simp only [step]
    split
    · exact h
    · next he =>
      refine ⟨h.1,?_,?_⟩
      · simpa [parties] using h.2.1
      · rw [(ActorTask.step_foreign (by simpa using he) s.task).1]
        exact h.2.2

/-- The request of a call that is given up before its handler starts is never handled. -/
theorem givenUp_not_handled (i : ι) {s : Invocations ε Next Msg ι σ α} (h : GivenUp i s)
    (ms : List (Move ε Next Msg ι σ)) :
    i ∉ parties (Machine.run (step handle request) s ms).log :=
  (Machine.always_of_step (I := GivenUp i) (fun _ m hs => givenUp_step hs m) (fun _ hs => hs) h
    ms).last.2.1

/-- The first call is given up while the actor starts, and the second one is handled. -/
theorem givenUp_not_handled_first :
    0 ∉ parties (Machine.run (step (fun r n : ℕ => (n+r,n)) id)
      (Machine.run (step (fun r n : ℕ => (n+r,n)) id) (new 0 : Invocations Unit Unit Unit ℕ ℕ ℕ)
        [.call 0,.send 0,.cancel 0])
      [.call 1,.send 1,.other (.returns (.ok .none)) id,.recv,.recv,.responds]).log :=
  givenUp_not_handled 0 ⟨rfl,by decide,by decide⟩ _

end Runs

end Invocations
end VvClient.Kit
