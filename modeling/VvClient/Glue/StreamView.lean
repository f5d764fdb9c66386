import VvClient.Glue.Member

/-! The listener's picture of the streams. It is built from callbacks of two kinds, the snapshot
when a user joins and the differences afterwards, and it agrees with the client's state. -/
namespace VvClient

open Machine Listener

/-- Whether a user has a stream of each type, and whether it is muted. -/
abbrev StreamView := StreamType → Option Bool

namespace Event

/-- What a callback does to the listener's view of the user that it is about. -/
def replay (view : Option StreamView) : Event → Option StreamView
  | onUserJoined _ _ => some fun _ => none
  | onUserLeaved _ => none
  | onAddStream _ stype muted => view.map fun f => Function.update f stype (some muted)
  | onUpdateStream _ stype muted =>
    view.map fun f => Function.update f stype ((f stype).map fun _ => muted)
  | onRemoveStream _ stype => view.map fun f => Function.update f stype none
  | _ => view

/-- The listener's view of a user. -/
def viewOf (u : String) (log : List Event) : Option StreamView := (about u log).foldl replay none

/-- What a callback does to the stream of one type. -/
def touch (t : StreamType) (muted : Option Bool) : Event → Option Bool
  | onAddStream _ stype m => if t = stype then some m else muted
  | onUpdateStream _ stype m => if t = stype then muted.map fun _ => m else muted
  | onRemoveStream _ stype => if t = stype then none else muted
  | _ => muted

/-- Callbacks about streams touch every type on its own. -/
lemma replay_streams {es : List Event} (h : ∀ e ∈ es, e.isStream = true) (f : StreamView) :
    es.foldl replay (some f) = some fun t => es.foldl (touch t) (f t) := by
  induction es generalizing f with
  | nil => rfl
  | cons e es ih =>
    obtain ⟨he,hes⟩ := List.forall_mem_cons.mp h
    rw [List.foldl_cons]
    have hstep : replay (some f) e = some fun t => touch t (f t) e := by
      cases e with
      | onAddStream u stype m =>
        refine congrArg some (funext fun t => ?_)
        simp only [Function.update_apply, touch]
      | onUpdateStream u stype m =>
        refine congrArg some (funext fun t => ?_)
        simp only [Function.update_apply, touch]
        split_ifs with ht
        · rw [ht]
        · rfl
      | onRemoveStream u stype =>
        refine congrArg some (funext fun t => ?_)
        simp only [Function.update_apply, touch]
      | _ => cases he
    rw [hstep, ih hes]
    rfl

end Event

section Fold
variable {κ ν ε α : Type} [DecidableEq κ] {g : α → ε → α} {ev : (Sigma fun _ : κ => ν) → List ε} {k : κ}

/-- In a fold over entries, where those of other keys have no effect, only the entry of the key
counts. -/
lemma foldl_flatMap_key {xs : List (Sigma fun _ : κ => ν)} (hx : xs.NodupKeys)
    (hev : ∀ x ∈ xs, x.1 ≠ k → ∀ a, (ev x).foldl g a = a) (a : α) :
    (xs.flatMap ev).foldl g a = (xs.dlookup k).elim a fun v => (ev ⟨k,v⟩).foldl g a := by
  induction xs generalizing a with
  | nil => rfl
  | cons x xs ih =>
    obtain ⟨hnot,hxs⟩ := List.nodupKeys_cons.mp hx
    obtain ⟨hxev,hev'⟩ := List.forall_mem_cons.mp hev
    rw [List.flatMap_cons, List.foldl_append]
    by_cases hk : x.1 = k
    · subst hk
      have hnone : xs.dlookup x.1 = none := List.dlookup_eq_none.mpr hnot
      rw [ih hxs hev', hnone, List.dlookup_cons_eq]
      rfl
    · rw [hxev hk, ih hxs hev', List.dlookup_cons_ne _ _ (Ne.symm hk)]

lemma foldl_entries_key (m : HashMap κ ν) (hev : ∀ x ∈ m.entries, x.1 ≠ k → ∀ a, (ev x).foldl g a = a)
    (a : α) : (m.entries.flatMap ev).foldl g a = (m.lookup k).elim a fun v => (ev ⟨k,v⟩).foldl g a :=
  foldl_flatMap_key m.nodupKeys hev a

end Fold

/-- The streams are of known types, and a type always has the same stream id. -/
def UserState.Typed (idOf : StreamType → String) (state : UserState) : Prop :=
  ∀ x ∈ state.streams.entries, ∃ t : StreamType, x.2.stype = t.value ∧ x.1 = idOf t

@[simp] lemma StreamType.tryFromValue_value (t : StreamType) : tryFromValue t.value = .ok t := by
  simp [tryFromValue]

namespace UserState.Typed

variable {idOf : StreamType → String} {state : UserState} {t : StreamType}

lemma stype_of_lookup (h : state.Typed idOf) (hid : Function.Injective idOf) {s : Stream}
    (hs : state.streams.lookup (idOf t) = some s) : s.stype = t.value := by
  obtain ⟨t',ht,hk⟩ := h ⟨idOf t,s⟩ (AList.mem_lookup_iff.mp hs)
  rw [hid hk]
  exact ht

lemma key_of_stype (h : state.Typed idOf) {x : Sigma fun _ : String => Stream}
    (hx : x ∈ state.streams.entries) (ht : x.2.stype = t.value) : x.1 = idOf t := by
  obtain ⟨t',ht',hk⟩ := h x hx
  rw [hk, StreamType.value_injective (ht'.symm.trans ht)]

/-- What a search by type finds is what the map has under the type's id. -/
lemma find_eq (h : state.Typed idOf) (hid : Function.Injective idOf) :
    (state.streams.entries.find? fun x => x.2.stype = t.value) =
      (state.streams.lookup (idOf t)).map (Sigma.mk (idOf t)) := by
  cases hl : state.streams.lookup (idOf t) with
  | none =>
    rw [Option.map_none, List.find?_eq_none]
    intro x hx ht
    have hk := h.key_of_stype hx (of_decide_eq_true ht)
    have hmem : state.streams.lookup x.1 = some x.2 := AList.mem_lookup_iff.mpr hx
    rw [hk, hl] at hmem
    cases hmem
  | some s =>
    have hs := h.stype_of_lookup hid hl
    cases hf : state.streams.entries.find? fun x => x.2.stype = t.value with
    | none =>
      rw [List.find?_eq_none] at hf
      exact absurd (decide_eq_true hs) (hf _ (AList.mem_lookup_iff.mp hl))
    | some x =>
      have hx := List.mem_of_find?_eq_some hf
      have ht := List.find?_some hf
      have hk := h.key_of_stype hx (of_decide_eq_true ht)
      have hmem : state.streams.lookup x.1 = some x.2 := AList.mem_lookup_iff.mpr hx
      obtain ⟨id,s'⟩ := x
      simp only at hk hmem
      subst hk
      rw [hl] at hmem
      cases hmem
      rfl

end UserState.Typed
namespace Listener

/-- A loop whose turns all succeed fires what its turns fire. -/
lemma forEach_ok {α : Type} {f : α → Prog Listener Error Unit} (hf : ∀ x, Fires (f x)) (xs : List α)
    (ho : ∀ x ∈ xs, outcome (f x) = .ok ()) :
    fired (Prog.forEach f xs) = xs.flatMap (fun x => fired (f x)) ∧
      outcome (Prog.forEach f xs) = .ok () := by
  induction xs with
  | nil => exact ⟨rfl,rfl⟩
  | cons x xs ih =>
    obtain ⟨hx,hxs⟩ := List.forall_mem_cons.mp ho
    obtain ⟨ihf,iho⟩ := ih hxs
    have hrest : ∀ _ : Unit, Fires (Prog.forEach f xs) := fun _ => fires_forEach hf xs
    change fired (f x >>= fun _ => Prog.forEach f xs) = _ ∧
      outcome (f x >>= fun _ => Prog.forEach f xs) = _
    rw [fired_bind (hf x) hrest, outcome_bind (hf x) hrest, hx]
    exact ⟨by rw [ihf, List.flatMap_cons],iho⟩

end Listener

namespace UserCell

open StreamType UserState

variable {idOf : StreamType → String} (cell : UserCell) {newState : UserState}

variable {cell}

lemma streamMuted_eq (hid : Function.Injective idOf) (hold : cell.state.Typed idOf) (t : StreamType) :
    cell.streamMuted t = (cell.state.streams.lookup (idOf t)).map Stream.muted := by
  rw [streamMuted, hold.find_eq hid, Option.map_map]
  rfl

/-- The first loop at a stream of the type `t` leaves that type as the new state has it, and
touches no other type. -/
lemma deltaOld_typed (hid : Function.Injective idOf) (hnew : newState.Typed idOf) {t : StreamType}
    {s : Stream} (hs : s.stype = t.value) :
    outcome (cell.deltaOld newState ⟨idOf t,s⟩) = .ok () ∧
      (fired (cell.deltaOld newState ⟨idOf t,s⟩)).foldl (Event.touch t) (some s.muted) =
        (newState.streams.lookup (idOf t)).map Stream.muted ∧
      ∀ t' ≠ t, ∀ muted,
        (fired (cell.deltaOld newState ⟨idOf t,s⟩)).foldl (Event.touch t') muted = muted := by
  unfold deltaOld
  cases hl : newState.streams.lookup (idOf t) with
  | none =>
    simp only [hs, tryFromValue_value]
    refine ⟨rfl,?_,fun t' ht muted => ?_⟩
    · change Event.touch t (some s.muted) (.onRemoveStream cell.userId t) = none
      simp [Event.touch]
    · change Event.touch t' muted (.onRemoveStream cell.userId t) = muted
      simp [Event.touch, ht]
  | some s' =>
    have hs' := hnew.stype_of_lookup hid hl
    simp only [hs, hs', tryFromValue_value]
    split_ifs with hp hm
    · refine ⟨rfl,?_,fun t' ht muted => ?_⟩
      · change Event.touch t (Event.touch t (some s.muted) (.onRemoveStream cell.userId t))
          (.onAddStream cell.userId t s'.muted) = some s'.muted
        simp [Event.touch]
      · change Event.touch t' (Event.touch t' muted (.onRemoveStream cell.userId t))
          (.onAddStream cell.userId t s'.muted) = muted
        simp [Event.touch, ht]
    · refine ⟨rfl,?_,fun t' ht muted => ?_⟩
      · change Event.touch t (some s.muted) (.onUpdateStream cell.userId t s'.muted) = some s'.muted
        simp [Event.touch]
      · change Event.touch t' muted (.onUpdateStream cell.userId t s'.muted) = muted
        simp [Event.touch, ht]
    · refine ⟨rfl,?_,fun t' ht muted => rfl⟩
      rw [not_not] at hm
      exact congrArg some hm

/-- The second loop at a stream of the type `t` adds it if the old state does not have it. -/
lemma deltaNew_typed {t : StreamType} {s : Stream} (hs : s.stype = t.value) :
    outcome (cell.deltaNew ⟨idOf t,s⟩) = .ok () ∧
      (∀ muted, (fired (cell.deltaNew ⟨idOf t,s⟩)).foldl (Event.touch t) muted =
        if (cell.state.streams.lookup (idOf t)).isSome then muted else some s.muted) ∧
      ∀ t' ≠ t, ∀ muted, (fired (cell.deltaNew ⟨idOf t,s⟩)).foldl (Event.touch t') muted = muted := by
  unfold deltaNew
  cases hl : cell.state.streams.lookup (idOf t) with
  | some s' => exact ⟨rfl,fun _ => rfl,fun _ _ _ => rfl⟩
  | none =>
    simp only [hs, tryFromValue_value]
    refine ⟨rfl,fun muted => ?_,fun t' ht muted => ?_⟩
    · change Event.touch t muted (.onAddStream cell.userId t s.muted) = some s.muted
      simp [Event.touch]
    · change Event.touch t' muted (.onAddStream cell.userId t s.muted) = muted
      simp [Event.touch, ht]

variable (cell newState) in
/-- What `delta` does where no turn of its loops fails. -/
lemma delta_turns (hold : ∀ x ∈ cell.state.streams.entries, outcome (cell.deltaOld newState x) = .ok ())
    (hnew : ∀ x ∈ newState.streams.entries, outcome (cell.deltaNew x) = .ok ()) :
    outcome (cell.delta newState) = .ok () ∧
      fired (cell.delta newState) =
        cell.state.streams.entries.flatMap (fun x => fired (cell.deltaOld newState x)) ++
          newState.streams.entries.flatMap fun x => fired (cell.deltaNew x) := by
  have hfires1 := fun x => (tells_deltaOld cell newState x).fires
  have hfires2 := fun x => (tells_deltaNew cell x).fires
  obtain ⟨hf1,ho1⟩ := forEach_ok hfires1 cell.state.streams.entries hold
  obtain ⟨hf2,ho2⟩ := forEach_ok hfires2 newState.streams.entries hnew
  have hrest : ∀ _ : Unit, Fires (Prog.forEach cell.deltaNew newState.streams.entries) :=
    fun _ => fires_forEach hfires2 _
  have hloop1 := fires_forEach hfires1 cell.state.streams.entries
  constructor
  · rw [delta, outcome_bind hloop1 hrest, ho1]
    exact ho2
  · rw [delta, fired_bind hloop1 hrest, hf1, ho1]
    exact congrArg _ hf2

/-- `delta` takes the streams of the old state to those of the new one, type by type. -/
theorem delta_view (hid : Function.Injective idOf) (hold : cell.state.Typed idOf)
    (hnew : newState.Typed idOf) :
    outcome (cell.delta newState) = .ok () ∧
      ∀ t, (fired (cell.delta newState)).foldl (Event.touch t) (cell.streamMuted t) =
        (newState.streams.lookup (idOf t)).map Stream.muted := by
  obtain ⟨hok,hfired⟩ := delta_turns cell newState
    (by
      rintro ⟨id,s⟩ hx
      obtain ⟨t,ht,rfl⟩ := hold _ hx
      exact (deltaOld_typed hid hnew ht).1)
    (by
      rintro ⟨id,s⟩ hx
      obtain ⟨t,ht,rfl⟩ := hnew _ hx
      exact (deltaNew_typed ht).1)
  refine ⟨hok,fun t => ?_⟩
  have hother1 : ∀ x ∈ cell.state.streams.entries, x.1 ≠ idOf t → ∀ muted,
      (fired (cell.deltaOld newState x)).foldl (Event.touch t) muted = muted := by
    rintro ⟨id,s⟩ hx hne muted
    obtain ⟨t',ht',rfl⟩ := hold _ hx
    exact (deltaOld_typed hid hnew ht').2.2 t (fun h => hne (by rw [h])) muted
  have hother2 : ∀ x ∈ newState.streams.entries, x.1 ≠ idOf t → ∀ muted,
      (fired (cell.deltaNew x)).foldl (Event.touch t) muted = muted := by
    rintro ⟨id,s⟩ hx hne muted
    obtain ⟨t',ht',rfl⟩ := hnew _ hx
    exact (deltaNew_typed ht').2.2 t (fun h => hne (by rw [h])) muted
  -- of each loop only the turn at the type's own stream counts
  rw [hfired, List.foldl_append, foldl_entries_key _ hother1, foldl_entries_key _ hother2,
    streamMuted_eq hid hold]
  cases hl : cell.state.streams.lookup (idOf t) with
  | none =>
    cases hl' : newState.streams.lookup (idOf t) with
    | none => rfl
    | some s' =>
      simp only [Option.elim_some, (deltaNew_typed (hnew.stype_of_lookup hid hl')).2.1, hl]
      rfl
  | some s =>
    have hold' : (fired (cell.deltaOld newState ⟨idOf t,s⟩)).foldl (Event.touch t) (some s.muted) =
        (newState.streams.lookup (idOf t)).map Stream.muted :=
      (deltaOld_typed hid hnew (hold.stype_of_lookup hid hl)).2.1
    simp only [Option.map_some, Option.elim_some, hold']
    cases hl' : newState.streams.lookup (idOf t) with
    | none => rfl
    | some s' =>
      simp only [Option.elim_some, (deltaNew_typed (hnew.stype_of_lookup hid hl')).2.1, hl]
      rfl

end UserCell
namespace Member

variable {u : String} {idOf : StreamType → String}

/-- The listener's view of the user. -/
def view (m : Member) : Option StreamView := m.events.foldl Event.replay none

@[simp] lemma fire_view (m : Member) (es : List Event) :
    (m.fire es).view = es.foldl Event.replay m.view := by simp [fire, view, List.foldl_append]

/-- An announcement gives a fresh view, whatever was there before. -/
lemma replay_joinEvents (user : UserCell) (view : Option StreamView) :
    (joinEvents u user).foldl Event.replay view = some user.streamMuted := by
  rw [Room.joinEvents_eq, List.foldl_cons, Event.replay, Event.replay_streams]
  · refine congrArg some (funext fun t => ?_)
    simp only [List.filterMap_cons, List.filterMap_nil]
    cases t <;> cases user.streamMuted .camera <;> cases user.streamMuted .mic <;>
      cases user.streamMuted .screen <;> rfl
  · intro e he
    obtain ⟨t,-,ht⟩ := List.mem_filterMap.mp he
    obtain ⟨muted,-,rfl⟩ := Option.map_eq_some_iff.mp ht
    rfl

/-- Once the room is ready, the view of a ready user shows the streams of its cell. -/
structure Mirrored (idOf : StreamType → String) (m : Member) : Prop where
  typed : ∀ cell, m.cell = some cell → cell.state.Typed idOf
  view : m.roomReady = true → ∀ cell, m.cell = some cell → cell.stage = .ready →
    m.view = some cell.streamMuted

/-- The full states have streams of known types under the ids of the types. -/
def WellTyped (idOf : StreamType → String) (x : Room.Received) : Prop :=
  match x.push with
  | .uFull newState => newState.Typed idOf
  | _ => True

lemma mirrored_new : Mirrored idOf new := ⟨by simp [new],by simp [new]⟩

/-- An announcement shows the streams that the cell has. -/
lemma mirrored_join {m : Member} (h : ∀ cell, m.cell = some cell → cell.state.Typed idOf) :
    (m.join u).Mirrored idOf := by
  unfold join
  cases hc : m.cell with
  | none => exact ⟨by simp [hc],by simp [hc]⟩
  | some user =>
    refine ⟨?_,?_⟩
    · rintro cell hcell
      cases hcell
      exact h user hc
    · rintro - cell hcell -
      cases hcell
      simp only [fire_view, replay_joinEvents]
      rfl

/-- A cell that is not ready need not be mirrored. -/
lemma mirrored_init {m : Member} {cell : UserCell} (hc : m.cell = some cell) (hs : cell.stage = .init)
    (ht : cell.state.Typed idOf) : m.Mirrored idOf := by
  refine ⟨?_,?_⟩
  · rintro c hcell
    rw [hc] at hcell
    cases hcell
    exact ht
  · rintro - c hcell hready
    rw [hc] at hcell
    cases hcell
    rw [hs] at hready
    cases hready

lemma mirrored_none {m : Member} (hc : m.cell = none) : m.Mirrored idOf :=
  ⟨by simp [hc],by simp [hc]⟩

lemma Mirrored.onUReady {m : Member} (h : m.Mirrored idOf) : (m.onUReady u).Mirrored idOf := by
  unfold Member.onUReady
  cases hc : m.cell with
  | none => exact h
  | some user =>
    have ht : ∀ cell, some { user with stage := .ready } = some cell → cell.state.Typed idOf := by
      rintro cell hcell
      cases hcell
      exact h.typed user hc
    cases hr : m.roomReady with
    | true =>
      simp only [if_true]
      exact mirrored_join ht
    | false =>
      simp only [Bool.false_eq_true, if_false]
      exact ⟨ht,by simp⟩

/-- `delta` carries the view from the old streams to the new ones. -/
lemma Mirrored.delta (hid : Function.Injective idOf) {m : Member} (h : m.Mirrored idOf)
    {cell : UserCell} (hc : m.cell = some cell) (hs : cell.stage = .ready) {newState : UserState}
    (hnew : newState.Typed idOf) :
    ({ m with cell := some { cell with state := newState } }.fire
      (fired (cell.delta newState))).Mirrored idOf := by
  refine ⟨?_,?_⟩
  · rintro c hcell
    cases hcell
    exact hnew
  · rintro hr c hcell -
    cases hcell
    have hview : m.view = some cell.streamMuted := h.view hr cell hc hs
    rw [fire_view]
    change (fired (cell.delta newState)).foldl Event.replay m.view = _
    rw [hview, Event.replay_streams fun e he => ((tells_delta cell newState).only e he).2]
    refine congrArg some (funext fun t => ?_)
    rw [(UserCell.delta_view hid (h.typed cell hc) hnew).2 t]
    have htyped : ({ cell with state := newState } : UserCell).state.Typed idOf := hnew
    exact (UserCell.streamMuted_eq hid htyped t).symm

lemma Mirrored.onUFull (hid : Function.Injective idOf) {m : Member} (h : m.Mirrored idOf)
    {newState : UserState} (hnew : newState.Typed idOf) : (m.onUFull u newState).Mirrored idOf := by
  unfold Member.onUFull
  cases hc : m.cell with
  | none => exact mirrored_init rfl rfl hnew
  | some cell =>
    cases hs : cell.stage with
    | init =>
      simp only [hs]
      cases newState.online with
      | false => exact mirrored_none rfl
      | true => exact mirrored_init rfl rfl hnew
    | ready =>
      simp only [hs]
      cases newState.online with
      | false => exact mirrored_none rfl
      | true =>
        simp only [Bool.not_true, Bool.false_eq_true, if_false]
        by_cases hinst : newState.instId = cell.state.instId
        · have hok := (UserCell.delta_view hid (h.typed cell hc) hnew).1
          have hd := h.delta hid hc hs hnew
          simpa only [hinst, ne_eq, not_true_eq_false, if_false, hok, hs, Except.isOk, Except.toBool,
            if_true] using hd
        · simp only [hinst, ne_eq, not_false_eq_true, if_true]
          exact mirrored_init rfl rfl hnew

lemma Mirrored.onUTree {m : Member} (h : m.Mirrored idOf) (node : TreeNode) :
    (m.onUTree u node).Mirrored idOf := by
  unfold Member.onUTree
  cases hc : m.cell with
  | none => exact h
  | some cell =>
    cases hs : cell.stage with
    | init =>
      simp only [hs]
      exact mirrored_init rfl rfl (h.typed cell hc)
    | ready =>
      simp only [hs]
      exact ⟨h.typed,fun hr c hcell hready => (fire_view m _).trans (h.view hr c hcell hready)⟩

/-- One push keeps the view of a user. -/
lemma Mirrored.step (hid : Function.Injective idOf) {m : Member} (h : m.Mirrored idOf)
    {x : Room.Received} (hx : WellTyped idOf x) : (m.step u x).Mirrored idOf := by
  obtain ⟨push,iter⟩ := x
  unfold Member.step
  cases push with
  | uInit id =>
    simp only
    split_ifs
    · unfold onUInit
      cases hc : m.cell with
      | none => exact h
      | some cell => exact mirrored_none rfl
    · exact h
  | uReady id =>
    simp only
    split_ifs
    · exact h.onUReady
    · exact h
  | uFull newState =>
    simp only
    split_ifs
    · exact h.onUFull hid hx
    · exact h
  | uTree treeState =>
    simp only
    split_ifs
    · exact h.onUTree _
    · exact h
  | rReady id => exact mirrored_join h.typed
  | _ => exact h

end Member

namespace Room

/-- Once the room is ready, the listener's view of every ready user has exactly the streams of the
user's cell, each with its type and whether it is muted. -/
def Mirrors (r : Room) : Prop :=
  r.gotRoomReady = true → ∀ u cell, r.users.lookup u = some cell → cell.stage = .ready →
    ∃ view, Event.viewOf u r.listener.log = some view ∧
      ∀ t muted, view t = some muted ↔
        ∃ id s, cell.state.streams.lookup id = some s ∧ s.stype = t.value ∧ s.muted = muted

/-- Whole runs: at every moment the listener's picture of the streams is the client's, whatever the
order of the iterations. -/
theorem always_mirrors {answers : ℕ → Except Error Unit} (h : ∀ n, answers n = .ok ())
    {idOf : StreamType → String} (hid : Function.Injective idOf) {xs : List Received}
    (hxs : ∀ x ∈ xs, Member.WellTyped idOf x) : Always step Mirrors (new answers) xs := by
  have hkeep : ∀ r x, (Sound r ∧ ∀ u, (r.member u).Mirrored idOf) → Member.WellTyped idOf x →
      Sound (r.step x) ∧ ∀ u, ((r.step x).member u).Mirrored idOf := by
    rintro r x ⟨hs,hm⟩ hx
    refine ⟨(step_member hs x "").1,fun u => ?_⟩
    rw [(step_member hs x u).2]
    exact (hm u).step hid hx
  have hall := always_of_guard hkeep ⟨sound_new h,fun u => Member.mirrored_new⟩
    (everyStep_of_forall hxs)
  refine hall.mono ?_
  rintro r ⟨-,hm⟩ hr u cell hc hs
  have htyped := (hm u).typed cell hc
  refine ⟨cell.streamMuted,(hm u).view hr cell hc hs,fun t muted => ?_⟩
  rw [UserCell.streamMuted_eq hid htyped, Option.map_eq_some_iff]
  constructor
  · rintro ⟨s,hl,rfl⟩
    exact ⟨_,s,hl,htyped.stype_of_lookup hid hl,rfl⟩
  · rintro ⟨id,s,hl,ht,rfl⟩
    have hk : id = idOf t := htyped.key_of_stype (AList.mem_lookup_iff.mp hl) ht
    exact ⟨s,hk ▸ hl,rfl⟩

/-- A user with a camera, under the id that `PubCall` gives it. -/
def cameraState (producerId : String) (muted : Bool) : UserState :=
  ⟨"u",true,AList.singleton StreamType.camera.asStr ⟨1,1,producerId,muted⟩,none,"i"⟩

lemma cameraState_typed (producerId : String) (muted : Bool) :
    (cameraState producerId muted).Typed StreamType.asStr := by
  intro x hx
  rw [List.mem_singleton.mp hx]
  exact ⟨.camera,rfl,rfl⟩

/-- The user joins with its camera, mutes it, and replaces it. -/
theorem always_mirrors_camera : Always step Mirrors (new fun _ => .ok ())
    (received [.uFull (cameraState "p" false),.uReady "u",.rReady "r",.uFull (cameraState "p" true),
      .uFull (cameraState "q" false)]) := by
  refine always_mirrors (fun _ => rfl) StreamType.asStr_injective fun x hx => ?_
  simp only [received, List.map_cons, List.map_nil, List.mem_cons, List.not_mem_nil, or_false] at hx
  rcases hx with rfl | rfl | rfl | rfl | rfl
  · exact cameraState_typed _ _
  · trivial
  · trivial
  · exact cameraState_typed _ _
  · exact cameraState_typed _ _

end Room
end VvClient
