import VvClient.Glue.Protocol

/-! Which users the delegate knows. A push that fails may take a user away, and a push about a user
that is away may bring it in. -/
namespace VvClient

open Machine Prog

namespace Listener

/-- The next `n` callbacks succeed. -/
def Accepts (l : Listener) (n : ℕ) : Prop := ∀ i < n, l.answers (l.log.length + i) = .ok ()

instance (l : Listener) (n : ℕ) : Decidable (l.Accepts n) :=
  inferInstanceAs (Decidable (∀ i < n, l.answers (l.log.length + i) = .ok ()))

/-- The stream types are known and the callback that follows each of them succeeds. -/
structure Takes (l : Listener) (stypes : List ℤ) : Prop where
  known : ∀ stype ∈ stypes, (StreamType.fromValue stype).isSome
  accepts : l.Accepts stypes.length

instance (l : Listener) (stypes : List ℤ) : Decidable (l.Takes stypes) :=
  decidable_of_iff (_ ∧ _) ⟨fun h => ⟨h.1,h.2⟩,fun h => ⟨h.known,h.accepts⟩⟩

/-- A computation reads some stream types, each with a callback after it, and does nothing else. -/
structure Reads (m : Prog Listener Error Unit) (stypes : List ℤ) : Prop where
  ok : ∀ l : Listener, l.Takes stypes → (m.run l).1 = .ok () ∧ (m.run l).2.answers = l.answers ∧
    (m.run l).2.log.length = l.log.length + stypes.length
  error : ∀ l : Listener, ¬ l.Takes stypes → ∃ e, (m.run l).1 = .error e

lemma takes_append {l : Listener} {stypes stypes' : List ℤ} : l.Takes (stypes ++ stypes') ↔
    l.Takes stypes ∧ ∀ l' : Listener, l'.answers = l.answers →
      l'.log.length = l.log.length + stypes.length → l'.Takes stypes' := by
  constructor
  · intro h
    refine ⟨⟨fun s hs => h.known s (List.mem_append_left _ hs),fun i hi => ?_⟩,?_⟩
    · apply h.accepts
      rw [List.length_append]
      omega
    · intro l' ha hl
      refine ⟨fun s hs => h.known s (List.mem_append_right _ hs),fun i hi => ?_⟩
      rw [ha, hl, Nat.add_assoc]
      apply h.accepts
      rw [List.length_append]
      omega
  · rintro ⟨h,h'⟩
    obtain ⟨hk,ha⟩ := h' ⟨List.replicate (l.log.length + stypes.length) .onRoomReady,l.answers⟩ rfl
      (List.length_replicate ..)
    refine ⟨?_,?_⟩
    · intro s hs
      rcases List.mem_append.mp hs with hs | hs
      · exact h.known s hs
      · exact hk s hs
    · intro i hi
      rw [List.length_append] at hi
      rcases lt_or_ge i stypes.length with hlt | hge
      · exact h.accepts i hlt
      · have hb := ha (i - stypes.length) (by omega)
        rw [List.length_replicate] at hb
        rwa [show l.log.length + stypes.length + (i - stypes.length) = l.log.length + i by omega] at hb

section Reads
variable {m m' : Prog Listener Error Unit} {stypes stypes' : List ℤ}

lemma reads_pure : Reads (pure ()) [] :=
  ⟨fun _ _ => ⟨rfl,rfl,rfl⟩,fun _ h => absurd ⟨by simp,fun i hi => absurd hi (Nat.not_lt_zero i)⟩ h⟩

lemma reads_bind (h : Reads m stypes) (h' : Reads m' stypes') :
    Reads (m >>= fun _ => m') (stypes ++ stypes') := by
  refine ⟨fun l hl => ?_,fun l hl => ?_⟩
  · obtain ⟨ht,ht'⟩ := takes_append.mp hl
    obtain ⟨hok,ha,hlen⟩ := h.ok l ht
    obtain ⟨hok',ha',hlen'⟩ := h'.ok _ (ht' _ ha hlen)
    rw [run_bind_ok (Prod.ext hok rfl)]
    refine ⟨hok',ha'.trans ha,?_⟩
    rw [hlen', hlen, List.length_append]
    omega
  · by_cases ht : l.Takes stypes
    · obtain ⟨hok,ha,hlen⟩ := h.ok l ht
      rw [run_bind_ok (Prod.ext hok rfl)]
      apply h'.error
      intro ht'
      apply hl
      refine takes_append.mpr ⟨ht,fun l' ha' hl' => ⟨ht'.known,fun i hi => ?_⟩⟩
      rw [ha', hl', ← ha, ← hlen]
      exact ht'.accepts i hi
    · obtain ⟨e,he⟩ := h.error l ht
      rw [run_bind_error (Prod.ext he rfl)]
      exact ⟨e,rfl⟩

lemma reads_forEach {α : Type} {f : α → Prog Listener Error Unit} {d : α → List ℤ}
    (h : ∀ x, Reads (f x) (d x)) (xs : List α) : Reads (forEach f xs) (xs.flatMap d) := by
  induction xs with
  | nil => exact reads_pure
  | cons x xs ih => exact reads_bind (h x) ih

/-- One type with its callback. -/
lemma reads_one (stype : ℤ) (e : StreamType → Event) :
    Reads (ofExcept (StreamType.tryFromValue stype) >>= fun t => fire (e t)) [stype] := by
  refine ⟨fun l hl => ?_,fun l hl => ?_⟩
  · obtain ⟨t,ht⟩ := Option.isSome_iff_exists.mp (hl.known stype (List.mem_singleton_self _))
    simp only [StreamType.tryFromValue, ht, run_ok_bind]
    refine ⟨hl.accepts 0 Nat.zero_lt_one,rfl,?_⟩
    simp [fire]
  · cases ht : StreamType.fromValue stype with
    | none =>
      simp only [StreamType.tryFromValue, ht]
      exact ⟨_,rfl⟩
    | some t =>
      simp only [StreamType.tryFromValue, ht, run_ok_bind]
      cases ha : l.answers l.log.length with
      | error e => exact ⟨e,ha⟩
      | ok _ =>
        refine absurd ⟨by simp [ht],fun i hi => ?_⟩ hl
        obtain rfl : i = 0 := by simpa using hi
        exact ha

end Reads

end Listener

namespace UserState

/-- The stream types that the first loop of `delta` reads at a stream of the old state. -/
def readsOld (newState : UserState) (x : Sigma fun _ : String => Stream) : List ℤ :=
  match newState.streams.lookup x.1 with
  | some newStream =>
    if x.2.producerId ≠ newStream.producerId then [x.2.stype,newStream.stype]
    else if x.2.muted ≠ newStream.muted then [x.2.stype]
    else []
  | none => [x.2.stype]

/-- And the second loop, at a stream of the new state. -/
def readsNew (old : UserState) (x : Sigma fun _ : String => Stream) : List ℤ :=
  if (old.streams.lookup x.1).isSome then [] else [x.2.stype]

/-- The stream types that `delta` reads, in the order of iteration. A callback follows each. -/
def reads (old newState : UserState) : List ℤ :=
  old.streams.entries.flatMap newState.readsOld ++ newState.streams.entries.flatMap old.readsNew

end UserState

section Delta
variable (cell : UserCell) (newState : UserState) (x : Sigma fun _ : String => Stream)

lemma reads_deltaOld : Listener.Reads (cell.deltaOld newState x) (newState.readsOld x) := by
  unfold UserCell.deltaOld UserState.readsOld
  cases newState.streams.lookup x.1 with
  | none => exact Listener.reads_one _ _
  | some newStream =>
    by_cases hp : x.2.producerId = newStream.producerId
    · by_cases hm : x.2.muted = newStream.muted
      · simp only [hp, hm, ne_eq, not_true_eq_false, if_false]
        exact Listener.reads_pure
      · simp only [hp, hm, ne_eq, not_true_eq_false, not_false_eq_true, if_false, if_true]
        exact Listener.reads_one _ _
    · simp only [hp, ne_eq, not_false_eq_true, if_true]
      have h := Listener.reads_bind (Listener.reads_one x.2.stype (.onRemoveStream cell.userId))
        (Listener.reads_one newStream.stype fun t => .onAddStream cell.userId t newStream.muted)
      rwa [bind_assoc] at h

lemma reads_deltaNew : Listener.Reads (cell.deltaNew x) (cell.state.readsNew x) := by
  unfold UserCell.deltaNew UserState.readsNew
  cases cell.state.streams.lookup x.1 with
  | some stream => exact Listener.reads_pure
  | none => exact Listener.reads_one _ _

lemma reads_delta : Listener.Reads (cell.delta newState) (cell.state.reads newState) :=
  Listener.reads_bind (Listener.reads_forEach (reads_deltaOld cell newState) _)
    (Listener.reads_forEach (reads_deltaNew cell) _)

end Delta

/-- The pushes that say that a user is no longer there. -/
def ServerPush.TakesAway (u : String) : ServerPush → Prop
  | .uInit id => id = u
  | .uFull newState => newState.id = u ∧ newState.online = false
  | _ => False

namespace Room

/-- The user is present in the map. -/
def Has (u : String) (r : Room) : Prop := (r.users.lookup u).isSome

instance (u : String) (r : Room) : Decidable (r.Has u) :=
  inferInstanceAs (Decidable ((r.users.lookup u).isSome = true))

/-- Handling the UFull of a user that is ready and stays online fails midway: the user has a new
instance and the callback that it leaves fails, or `delta` comes to a stream of an unknown type or
to a callback that fails. -/
def FailsMidway (r : Room) (cell : UserCell) (newState : UserState) : Prop :=
  if newState.instId ≠ cell.state.instId then ¬ r.listener.Accepts 1
  else ¬ r.listener.Takes (cell.state.reads newState)

/-- The push is such a UFull of the user. -/
def Drops (u : String) (r : Room) (x : Received) : Prop :=
  match x.push with
  | .uFull newState =>
    newState.id = u ∧ newState.online = true ∧
      ∃ cell, r.users.lookup u = some cell ∧ cell.stage = .ready ∧ r.FailsMidway cell newState
  | _ => False

section Keep
variable {u v : String}

lemma has_onListener {α : Type} (m : Prog Listener Error α) : Keeps (Has u) (onListener m) :=
  fun _ h => h

lemma has_setUser (cell : UserCell) : Keeps (Has u) (setUser v cell) := by
  intro r h
  change ((r.users.insert v cell).lookup u).isSome
  by_cases huv : u = v
  · rw [huv, AList.lookup_insert]
    rfl
  · rw [AList.lookup_insert_ne huv]
    exact h

lemma has_removeUser (huv : u ≠ v) : Keeps (Has u) (removeUser v) := by
  intro r h
  change ((r.users.erase v).lookup u).isSome
  rw [AList.lookup_erase_ne huv]
  exact h

lemma has_joinUser : Keeps (Has u) (joinUser v) := by
  apply Keeps.get_bind
  intro r
  cases r.users.lookup v with
  | none => exact Keeps.pure ()
  | some user => exact Keeps.bind (has_setUser _) fun _ => has_onListener _

lemma has_forEach (keys : List String) : Keeps (Has u) (forEach joinUser keys) := by
  induction keys with
  | nil => exact Keeps.pure ()
  | cons v keys ih => exact Keeps.bind has_joinUser fun _ => ih

lemma has_handleUInit (huv : u ≠ v) : Keeps (Has u) (handleUInit v) := by
  apply Keeps.get_bind
  intro r
  cases r.users.lookup v with
  | none => exact Keeps.pure ()
  | some user => exact Keeps.bind (has_removeUser huv) fun _ => has_onListener _

lemma has_handleUReady : Keeps (Has u) (handleUReady v) := by
  apply Keeps.get_bind
  intro r
  cases r.users.lookup v with
  | none => exact Keeps.pure ()
  | some user =>
    apply Keeps.bind (has_setUser _)
    intro _
    apply Keeps.get_bind
    intro r'
    cases r'.gotRoomReady with
    | true => exact Keeps.bind (has_setUser _) fun _ => has_onListener _
    | false => exact Keeps.pure ()

lemma has_handleUTree (treeState : TreeState) : Keeps (Has u) (handleUTree treeState) := by
  unfold handleUTree
  cases treeState.id with
  | none => exact Keeps.fail _
  | some v =>
    apply Keeps.get_bind
    intro r
    cases r.users.lookup v with
    | none => exact Keeps.pure ()
    | some cell =>
      cases hs : cell.stage with
      | init =>
        simp only [hs]
        exact has_setUser _
      | ready =>
        simp only [hs]
        exact has_onListener _

lemma has_handleRReady (iter : IterOrder) : Keeps (Has u) (handleRReady iter) :=
  Keeps.bind (has_onListener _) fun _ => Keeps.bind (Keeps.modify fun _ h => h) fun _ =>
    Keeps.get_bind fun _ => has_forEach _

/-- The state of another user moves nobody else. -/
lemma has_handleUFull_other {newState : UserState} (hid : newState.id ≠ u) :
    Keeps (Has u) (handleUFull newState) := by
  apply Keeps.get_bind
  intro r
  apply Keeps.bind (has_removeUser (Ne.symm hid))
  intro _
  cases r.users.lookup newState.id with
  | none => exact has_setUser _
  | some cell =>
    cases hs : cell.stage with
    | init =>
      simp only [hs]
      split_ifs
      · exact Keeps.pure ()
      · exact has_setUser _
    | ready =>
      simp only [hs]
      split_ifs
      · exact has_onListener _
      · exact Keeps.bind (has_onListener _) fun _ => has_setUser _
      · exact Keeps.bind (has_onListener _) fun _ => has_setUser _

end Keep

section Full
variable {r : Room} {u : String} {cell : UserCell} {newState : UserState}

lemma has_withUser : (r.withUser u cell).Has u := by
  rw [Has, withUser, AList.lookup_insert]
  rfl

lemma not_has_withoutUser (es : List Event) : ¬ ((r.withoutUser u).append es).Has u := by
  rw [Has, append, withoutUser, AList.lookup_erase]
  exact Bool.false_ne_true

/-- The cell is out of the map while the listener is called, so what follows the calls decides
whether the user stays. -/
lemma has_onListener_bind (m : Prog Listener Error Unit) :
    ((onListener m >>= fun _ => setUser u cell).run (r.withoutUser u)).2.Has u ↔
      ∃ a, (m.run r.listener).1 = .ok a := by
  have hrun : (onListener m).run (r.withoutUser u) =
      ((m.run r.listener).1,{ r.withoutUser u with listener := (m.run r.listener).2 }) := rfl
  cases hm : (m.run r.listener).1 with
  | ok a =>
    rw [hm] at hrun
    rw [run_bind_ok hrun]
    exact iff_of_true has_withUser ⟨a,rfl⟩
  | error e =>
    rw [hm] at hrun
    rw [run_bind_error hrun]
    refine iff_of_false ?_ (by simp)
    exact not_has_withoutUser (r := { r with listener := (m.run r.listener).2 }) []

/-- A user that is known and stays online is kept exactly when the handling does not fail. -/
lemma has_handleUFull (hc : r.users.lookup newState.id = some cell) (hon : newState.online = true) :
    ((handleUFull newState).run r).2.Has newState.id ↔
      (cell.stage = .ready → ¬ r.FailsMidway cell newState) := by
  unfold handleUFull
  rw [run_get_bind, run_removeUser_bind]
  simp only [hc, hon, Bool.not_true, Bool.false_eq_true, if_false]
  cases hs : cell.stage with
  | init => exact iff_of_true has_withUser (by simp)
  | ready =>
    simp only [forall_const]
    by_cases hinst : newState.instId = cell.state.instId
    · simp only [FailsMidway, hinst, ne_eq, not_true_eq_false, if_false, not_not]
      rw [has_onListener_bind]
      constructor
      · rintro ⟨a,ha⟩
        by_contra h
        obtain ⟨e,he⟩ := (reads_delta cell newState).error _ h
        rw [he] at ha
        cases ha
      · intro h
        exact ⟨_,((reads_delta cell newState).ok _ h).1⟩
    · simp only [FailsMidway, hinst, ne_eq, not_false_eq_true, if_true, not_not]
      rw [has_onListener_bind]
      constructor
      · rintro ⟨a,ha⟩ i hi
        obtain rfl : i = 0 := Nat.lt_one_iff.mp hi
        exact ha
      · exact fun h => ⟨(),h 0 Nat.zero_lt_one⟩

end Full

/-- For every state, push and user, whatever the callbacks return: a user that is present stays,
unless the push says that it is gone, exactly when the push is no UFull of it that fails midway. -/
theorem kept_iff (r : Room) (x : Received) (u : String) :
    (r.Has u → (r.step x).Has u ∨ x.push.TakesAway u) ↔ ¬ r.Drops u x := by
  obtain ⟨push,iter⟩ := x
  cases push with
  | uFull newState =>
    by_cases hid : newState.id = u
    · subst hid
      cases hc : r.users.lookup newState.id with
      | none => simp [Has, Drops, hc]
      | some cell =>
        cases hon : newState.online with
        | false => simp [Drops, ServerPush.TakesAway, hon]
        | true =>
          have hiff := has_handleUFull hc hon
          simp only [Drops, ServerPush.TakesAway, hc, hon, step, handleServerPush, hiff]
          simp [Has, hc]
    · refine iff_of_true (fun h => .inl (has_handleUFull_other hid r h)) ?_
      exact fun h => hid h.1
  | uInit id =>
    refine iff_of_true (fun h => ?_) not_false
    by_cases hid : id = u
    · exact .inr hid
    · exact .inl (has_handleUInit (Ne.symm hid) r h)
  | closed status => exact iff_of_true (fun h => .inl h) not_false
  | chat notice => exact iff_of_true (fun h => .inl (has_onListener _ r h)) not_false
  | uReady id => exact iff_of_true (fun h => .inl (has_handleUReady r h)) not_false
  | uTree treeState => exact iff_of_true (fun h => .inl (has_handleUTree treeState r h)) not_false
  | rTree treeState => exact iff_of_true (fun h => .inl (has_onListener _ r h)) not_false
  | rReady id => exact iff_of_true (fun h => .inl (has_handleRReady iter r h)) not_false

/-- A state with one stream, of some type. -/
def streamState (stype : ℤ) : UserState :=
  ⟨"u",true,AList.singleton "s" ⟨1,stype,"p",false⟩,none,"i"⟩

/-- The user is ready and gets a stream of an unknown type. -/
theorem dropped_by_unknown_stype :
    ¬ ((sampleRun [.uFull (sampleState true "i"),.uReady "u"]).Has "u" →
      (sampleRun [.uFull (sampleState true "i"),.uReady "u",.uFull (streamState 9)]).Has "u" ∨
        (ServerPush.uFull (streamState 9)).TakesAway "u") := by
  have hbefore : (sampleRun [.uFull (sampleState true "i"),.uReady "u"]).Has "u" := by decide
  have hafter : ¬ (sampleRun [.uFull (sampleState true "i"),.uReady "u",
      .uFull (streamState 9)]).Has "u" := by decide
  intro h
  rcases h hbefore with hhas | htakes
  · exact hafter hhas
  · exact absurd htakes.2 (by decide)

end Room
end VvClient
