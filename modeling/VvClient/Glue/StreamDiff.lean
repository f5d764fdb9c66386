import VvClient.Glue.StreamView

/-! `UserCell::delta` as a difference of two states: its callbacks are about the types of the streams,
while its loops go by their ids, in an order that the maps choose. -/
namespace VvClient

open Listener

section Fold
variable {α ε β : Type} {g : α → ε → α} (ev : β → List ε)

lemma foldl_flatMap_id {xs : List β} (h : ∀ x ∈ xs, ∀ a, (ev x).foldl g a = a) (a : α) :
    (xs.flatMap ev).foldl g a = a := by
  induction xs with
  | nil => rfl
  | cons x xs ih =>
    obtain ⟨hx,hxs⟩ := List.forall_mem_cons.mp h
    rw [List.flatMap_cons, List.foldl_append, hx, ih hxs]

/-- What the last turn with an effect writes is the result. -/
lemma foldl_flatMap_last {xs ys : List β} {x : β} {b : α} (hx : ∀ a, (ev x).foldl g a = b)
    (h : ∀ y ∈ ys, ∀ a, (ev y).foldl g a = a) (a : α) :
    ((xs ++ x::ys).flatMap ev).foldl g a = b := by
  rw [List.flatMap_append, List.foldl_append, List.flatMap_cons, List.foldl_append, hx,
    foldl_flatMap_id ev h]

end Fold

namespace UserState

/-- An entry of the map of streams. -/
abbrev Entry := Sigma fun _ : String => Stream

/-- Every stream is of a known type. -/
def Known (state : UserState) : Prop := ∀ x ∈ state.streams.entries, ∃ t : StreamType, x.2.stype = t.value

/-- No two streams are of one type. -/
def Single (state : UserState) : Prop :=
  ∀ x ∈ state.streams.entries, ∀ y ∈ state.streams.entries, x.2.stype = y.2.stype → x = y

/-- Two states between which `delta` is asked for. -/
structure Comparable (old new : UserState) : Prop where
  knownOld : old.Known
  knownNew : new.Known
  singleOld : old.Single
  singleNew : new.Single
  /-- a producer has one type -/
  producers : ∀ x ∈ old.streams.entries, ∀ y ∈ new.streams.entries,
    x.2.producerId = y.2.producerId → x.2.stype = y.2.stype

/-- In the new state the id of the stream `y` has the type that the stream `x` had. -/
def TakesOver (new : UserState) (y x : Entry) : Prop :=
  ∃ s, new.streams.lookup y.1 = some s ∧ s.stype = x.2.stype ∧ s.stype ≠ y.2.stype

/-- The same state, with its streams in another order. -/
def Reordered (state state' : UserState) : Prop :=
  ∃ streams : HashMap String Stream, streams.entries.Perm state.streams.entries ∧
    state' = { state with streams := streams }

/-- Whether a state has a stream of each type, and whether it is muted. -/
def streamView (state : UserState) : StreamView := fun t =>
  (state.streams.entries.find? fun x => x.2.stype = t.value).map fun x => x.2.muted

variable {state : UserState} {t : StreamType}

lemma streamView_some (h : state.Single) {x : Entry} (hx : x ∈ state.streams.entries)
    (ht : x.2.stype = t.value) : state.streamView t = some x.2.muted := by
  unfold streamView
  cases hf : state.streams.entries.find? fun x => x.2.stype = t.value with
  | none => exact absurd (decide_eq_true ht) (List.find?_eq_none.mp hf x hx)
  | some y =>
    have hp := List.find?_some hf
    have hy : y.2.stype = t.value := of_decide_eq_true hp
    rw [h y (List.mem_of_find?_eq_some hf) x hx (hy.trans ht.symm)]
    rfl

lemma streamView_none (h : ∀ x ∈ state.streams.entries, x.2.stype ≠ t.value) :
    state.streamView t = none := by
  unfold streamView
  rw [List.find?_eq_none.mpr fun x hx => by simpa using h x hx]
  rfl

lemma mem_of_lookup {id : String} {s : Stream} (h : state.streams.lookup id = some s) :
    (⟨id,s⟩ : Entry) ∈ state.streams.entries := AList.mem_lookup_iff.mp h

lemma lookup_of_mem {x : Entry} (h : x ∈ state.streams.entries) :
    state.streams.lookup x.1 = some x.2 := AList.mem_lookup_iff.mpr h

/-- Entries at different places have different ids. -/
lemma fst_ne_of_split {xs ys : List Entry} (hs : state.streams.entries = xs ++ ys) {x y : Entry}
    (hx : x ∈ xs) (hy : y ∈ ys) : y.1 ≠ x.1 := by
  have hkeys := List.nodupKeys_iff_pairwise.mp (hs ▸ state.streams.nodupKeys)
  exact ((List.pairwise_append.mp hkeys).2.2 x hx y hy).symm

lemma TakesOver.ne {y x : Entry} (h : state.TakesOver y x) : y ≠ x := by
  obtain ⟨s,-,hs,hne⟩ := h
  rintro rfl
  exact hne hs

lemma reordered_refl (state : UserState) : state.Reordered state := ⟨state.streams,List.Perm.refl _,rfl⟩

/-- An order in which two given streams come first. -/
lemma exists_reordered {y x : Entry} (hy : y ∈ state.streams.entries) (hx : x ∈ state.streams.entries)
    (hne : y ≠ x) : ∃ state', state.Reordered state' ∧
      ∃ rest, state'.streams.entries = y::x::rest := by
  obtain ⟨us,vs,hs⟩ := List.append_of_mem hy
  have hx' : x ∈ us ++ vs := by
    rw [hs, List.mem_append, List.mem_cons] at hx
    rcases hx with hx | hx | hx
    · exact List.mem_append_left _ hx
    · exact absurd hx.symm hne
    · exact List.mem_append_right _ hx
  obtain ⟨us',vs',hs'⟩ := List.append_of_mem hx'
  have hperm : (y::x::(us' ++ vs')).Perm state.streams.entries := by
    rw [hs]
    refine ((List.perm_middle.symm.cons y).trans ?_).trans List.perm_middle.symm
    rw [hs']
  have hkeys : (y::x::(us' ++ vs')).NodupKeys := (List.perm_nodupKeys hperm).mpr state.streams.nodupKeys
  exact ⟨_,⟨⟨_,hkeys⟩,hperm,rfl⟩,us' ++ vs',rfl⟩

section Reorder
variable {old new old' new' : UserState} (ho : old.Reordered old') (hn : new.Reordered new')
include ho

lemma Reordered.mem_iff {x : Entry} : x ∈ old'.streams.entries ↔ x ∈ old.streams.entries := by
  obtain ⟨streams,hperm,rfl⟩ := ho
  exact hperm.mem_iff

lemma Reordered.lookup (id : String) : old'.streams.lookup id = old.streams.lookup id := by
  obtain ⟨streams,hperm,rfl⟩ := ho
  exact AList.perm_lookup hperm

include hn

lemma Comparable.reordered (h : Comparable old new) : Comparable old' new' where
  knownOld x hx := h.knownOld x (ho.mem_iff.mp hx)
  knownNew x hx := h.knownNew x (hn.mem_iff.mp hx)
  singleOld x hx y hy := h.singleOld x (ho.mem_iff.mp hx) y (ho.mem_iff.mp hy)
  singleNew x hx y hy := h.singleNew x (hn.mem_iff.mp hx) y (hn.mem_iff.mp hy)
  producers x hx y hy := h.producers x (ho.mem_iff.mp hx) y (hn.mem_iff.mp hy)

end Reorder

end UserState

namespace UserCell

open UserState

variable {cell : UserCell} {newState : UserState} {x : Entry} {t a b : StreamType}

variable (cell) in
/-- The first loop, at a stream that the new state does not have. -/
lemma deltaOld_gone (ha : x.2.stype = a.value) (h : newState.streams.lookup x.1 = none) :
    outcome (cell.deltaOld newState x) = .ok () ∧
      fired (cell.deltaOld newState x) = [.onRemoveStream cell.userId a] := by
  unfold deltaOld
  simp only [h, ha, StreamType.tryFromValue_value]
  exact ⟨rfl,rfl⟩

variable (cell) in
/-- The first loop, at a stream that the new state has. -/
lemma deltaOld_there (ha : x.2.stype = a.value) {s : Stream} (hb : s.stype = b.value)
    (h : newState.streams.lookup x.1 = some s) :
    outcome (cell.deltaOld newState x) = .ok () ∧
      fired (cell.deltaOld newState x) =
        if x.2.producerId ≠ s.producerId then
          [.onRemoveStream cell.userId a,.onAddStream cell.userId b s.muted]
        else if x.2.muted ≠ s.muted then [.onUpdateStream cell.userId a s.muted]
        else [] := by
  unfold deltaOld
  simp only [h, ha, hb, StreamType.tryFromValue_value]
  split_ifs <;> exact ⟨rfl,rfl⟩

/-- The second loop adds what the old state does not have. -/
lemma deltaNew_fired (hb : x.2.stype = b.value) :
    outcome (cell.deltaNew x) = .ok () ∧
      fired (cell.deltaNew x) =
        if (cell.state.streams.lookup x.1).isSome then [] else [.onAddStream cell.userId b x.2.muted] := by
  unfold deltaNew
  cases cell.state.streams.lookup x.1 with
  | some s => exact ⟨rfl,rfl⟩
  | none =>
    simp only [hb, StreamType.tryFromValue_value]
    exact ⟨rfl,rfl⟩

section Turns
variable (h : Comparable cell.state newState) (hx : x ∈ cell.state.streams.entries)
include h hx

/-- A stream that neither had the type nor has it now. -/
lemma deltaOld_aside (ht : x.2.stype ≠ t.value)
    (hn : ∀ s, newState.streams.lookup x.1 = some s → s.stype ≠ t.value) (muted : Option Bool) :
    (fired (cell.deltaOld newState x)).foldl (Event.touch t) muted = muted := by
  obtain ⟨a,ha⟩ := h.knownOld x hx
  have hta : t ≠ a := fun he => ht (he ▸ ha)
  cases hl : newState.streams.lookup x.1 with
  | none => simp [(deltaOld_gone cell ha hl).2, Event.touch, hta]
  | some s =>
    obtain ⟨b,hb⟩ := h.knownNew _ (mem_of_lookup hl)
    have htb : t ≠ b := fun he => hn s hl (he ▸ hb)
    rw [(deltaOld_there cell ha hb hl).2]
    split_ifs <;> simp [Event.touch, hta, htb]

/-- A stream that had the type and has it no more. -/
lemma deltaOld_leaves (ht : x.2.stype = t.value)
    (hn : ∀ s, newState.streams.lookup x.1 = some s → s.stype ≠ t.value) (muted : Option Bool) :
    (fired (cell.deltaOld newState x)).foldl (Event.touch t) muted = none := by
  cases hl : newState.streams.lookup x.1 with
  | none => simp [(deltaOld_gone cell ht hl).2, Event.touch]
  | some s =>
    obtain ⟨b,hb⟩ := h.knownNew _ (mem_of_lookup hl)
    have htb : t ≠ b := fun he => hn s hl (he ▸ hb)
    have hp : x.2.producerId ≠ s.producerId := fun he =>
      hn s hl ((h.producers x hx _ (mem_of_lookup hl) he).symm.trans ht)
    rw [(deltaOld_there cell ht hb hl).2, if_pos hp]
    simp [Event.touch, htb]

/-- A stream that has taken the type. -/
lemma deltaOld_takes {s : Stream} (ht : x.2.stype ≠ t.value)
    (hl : newState.streams.lookup x.1 = some s) (hs : s.stype = t.value) (muted : Option Bool) :
    (fired (cell.deltaOld newState x)).foldl (Event.touch t) muted = some s.muted := by
  obtain ⟨a,ha⟩ := h.knownOld x hx
  have hp : x.2.producerId ≠ s.producerId := fun he =>
    ht ((h.producers x hx _ (mem_of_lookup hl) he).trans hs)
  rw [(deltaOld_there cell ha hs hl).2, if_pos hp]
  simp [Event.touch]

omit h hx in
/-- A stream that keeps the type. -/
lemma deltaOld_keeps {s : Stream} (ht : x.2.stype = t.value)
    (hl : newState.streams.lookup x.1 = some s) (hs : s.stype = t.value) :
    (fired (cell.deltaOld newState x)).foldl (Event.touch t) (some x.2.muted) = some s.muted := by
  rw [(deltaOld_there cell ht hs hl).2]
  split_ifs with hp hm
  · simp [Event.touch]
  · simp [Event.touch]
  · rw [not_not] at hm
    exact congrArg some hm

end Turns

/-- Applied to the listener's view of the old streams, the callbacks give the view of the new ones. -/
def DeltaCorrect (cell : UserCell) (newState : UserState) : Prop :=
  (fired (cell.delta newState)).foldl Event.replay (some cell.state.streamView) =
    some newState.streamView

lemma deltaCorrect_iff_touch :
    cell.DeltaCorrect newState ↔ ∀ t, (fired (cell.delta newState)).foldl (Event.touch t)
      (cell.state.streamView t) = newState.streamView t := by
  unfold DeltaCorrect
  rw [Event.replay_streams fun e he => ((tells_delta cell newState).only e he).2, Option.some_inj,
    funext_iff]

section Loops
variable (h : Comparable cell.state newState)
include h

lemma delta_loops (t : StreamType) (muted : Option Bool) :
    (fired (cell.delta newState)).foldl (Event.touch t) muted =
      (newState.streams.entries.flatMap fun x => fired (cell.deltaNew x)).foldl (Event.touch t)
        ((cell.state.streams.entries.flatMap fun x => fired (cell.deltaOld newState x)).foldl
          (Event.touch t) muted) := by
  rw [(delta_turns cell newState _ _).2, List.foldl_append]
  · intro x hx
    obtain ⟨a,ha⟩ := h.knownOld x hx
    cases hl : newState.streams.lookup x.1 with
    | none => exact (deltaOld_gone cell ha hl).1
    | some s =>
      obtain ⟨b,hb⟩ := h.knownNew _ (mem_of_lookup hl)
      exact (deltaOld_there cell ha hb hl).1
  · intro x hx
    obtain ⟨b,hb⟩ := h.knownNew x hx
    exact (deltaNew_fired hb).1

/-- The second loop does nothing to a type whose new stream has an id of the old state. -/
lemma deltaNew_aside (hz : ∀ z ∈ newState.streams.entries, z.2.stype = t.value →
    (cell.state.streams.lookup z.1).isSome) (muted : Option Bool) :
    (newState.streams.entries.flatMap fun x => fired (cell.deltaNew x)).foldl (Event.touch t) muted =
      muted := by
  refine foldl_flatMap_id _ (fun z hzm m => ?_) muted
  obtain ⟨b,hb⟩ := h.knownNew z hzm
  rw [(deltaNew_fired hb).2]
  split_ifs with hold
  · rfl
  · have htb : t ≠ b := fun he => hold (hz z hzm (he ▸ hb))
    simp [Event.touch, htb]

/-- The second loop adds the stream of an id that is new. -/
lemma deltaNew_adds {z : Entry} (hz : z ∈ newState.streams.entries) (ht : z.2.stype = t.value)
    (hl : cell.state.streams.lookup z.1 = none) (muted : Option Bool) :
    (newState.streams.entries.flatMap fun x => fired (cell.deltaNew x)).foldl (Event.touch t) muted =
      some z.2.muted := by
  rw [foldl_entries_key newState.streams (k := z.1), lookup_of_mem hz, Option.elim_some,
    (deltaNew_fired ht).2, hl]
  · simp [Event.touch]
  · intro w hw hne m
    obtain ⟨b,hb⟩ := h.knownNew w hw
    rw [(deltaNew_fired hb).2]
    split_ifs
    · rfl
    · have htb : t ≠ b := fun he => hne (congrArg Sigma.fst (h.singleNew w hw z hz (hb.trans (he ▸ ht.symm))))
      simp [Event.touch, htb]

/-- Where one id alone matters to a type, the first loop does what its turn at that id does. -/
lemma deltaOld_key (hx : x ∈ cell.state.streams.entries)
    (hother : ∀ w ∈ cell.state.streams.entries, w.1 ≠ x.1 → w.2.stype ≠ t.value ∧
      ∀ s, newState.streams.lookup w.1 = some s → s.stype ≠ t.value) (muted : Option Bool) :
    (cell.state.streams.entries.flatMap fun x => fired (cell.deltaOld newState x)).foldl
        (Event.touch t) muted =
      (fired (cell.deltaOld newState x)).foldl (Event.touch t) muted := by
  rw [foldl_entries_key cell.state.streams (k := x.1), lookup_of_mem hx, Option.elim_some]
  intro w hw hne
  exact deltaOld_aside h hw (hother w hw hne).1 (hother w hw hne).2

/-- No other id has the type of a stream of the old state. -/
lemma stype_ne_old (hx : x ∈ cell.state.streams.entries) (ht : x.2.stype = t.value) {w : Entry}
    (hw : w ∈ cell.state.streams.entries) (hne : w.1 ≠ x.1) : w.2.stype ≠ t.value :=
  fun hwt => hne (congrArg Sigma.fst (h.singleOld w hw x hx (hwt.trans ht.symm)))

/-- No other id has the type of a stream of the new state. -/
lemma stype_ne_new {z : Entry} (hz : z ∈ newState.streams.entries) (ht : z.2.stype = t.value)
    {id : String} (hne : id ≠ z.1) :
    ∀ s, newState.streams.lookup id = some s → s.stype ≠ t.value := by
  intro s hl hs
  have heq : (⟨id,s⟩ : Entry) = z := h.singleNew _ (mem_of_lookup hl) z hz (hs.trans ht.symm)
  exact hne (congrArg Sigma.fst heq)

/-- A type that no stream has any more. -/
lemma touch_delta_gone (hn : ∀ z ∈ newState.streams.entries, z.2.stype ≠ t.value) :
    (fired (cell.delta newState)).foldl (Event.touch t) (cell.state.streamView t) = none := by
  have hnew : ∀ (x : Entry) s, newState.streams.lookup x.1 = some s → s.stype ≠ t.value :=
    fun x s hl => hn _ (mem_of_lookup hl)
  rw [delta_loops h, deltaNew_aside h fun z hz ht => absurd ht (hn z hz)]
  by_cases hold : ∃ x ∈ cell.state.streams.entries, x.2.stype = t.value
  · obtain ⟨x,hx,ht⟩ := hold
    rw [deltaOld_key h hx fun w hw hne => ⟨stype_ne_old h hx ht hw hne,hnew w⟩]
    exact deltaOld_leaves h hx ht (hnew x) _
  · have hno : ∀ x ∈ cell.state.streams.entries, x.2.stype ≠ t.value := fun x hx ht => hold ⟨x,hx,ht⟩
    rw [streamView_none hno]
    exact foldl_flatMap_id _ (fun x hx => deltaOld_aside h hx (hno x hx) (hnew x)) none

/-- A type whose stream stays under its id. -/
lemma touch_delta_kept {z : Entry} (hz : z ∈ newState.streams.entries) (ht : z.2.stype = t.value)
    (hx : x ∈ cell.state.streams.entries) (hid : x.1 = z.1) (hxt : x.2.stype = t.value) :
    (fired (cell.delta newState)).foldl (Event.touch t) (cell.state.streamView t) =
      some z.2.muted := by
  have hl : newState.streams.lookup x.1 = some z.2 := hid ▸ lookup_of_mem hz
  rw [delta_loops h, deltaNew_aside h]
  · rw [deltaOld_key h hx fun w hw hne =>
      ⟨stype_ne_old h hx hxt hw hne,stype_ne_new h hz ht (hid ▸ hne)⟩, streamView_some h.singleOld hx hxt]
    exact deltaOld_keeps hxt hl ht
  · intro w hw hwt
    rw [h.singleNew w hw z hz (hwt.trans ht.symm), ← hid, lookup_of_mem hx]
    rfl

/-- A type that an id of the old state has taken, where no later turn removes it. -/
lemma touch_delta_taken {z : Entry} (hz : z ∈ newState.streams.entries) (ht : z.2.stype = t.value)
    {xs ys : List Entry} (hs : cell.state.streams.entries = xs ++ x::ys) (hid : x.1 = z.1)
    (hxt : x.2.stype ≠ t.value) (hlater : ∀ w ∈ ys, w.2.stype ≠ t.value) :
    (fired (cell.delta newState)).foldl (Event.touch t) (cell.state.streamView t) =
      some z.2.muted := by
  have hx : x ∈ cell.state.streams.entries := by simp [hs]
  have hl : newState.streams.lookup x.1 = some z.2 := hid ▸ lookup_of_mem hz
  rw [delta_loops h, deltaNew_aside h]
  · rw [hs]
    refine foldl_flatMap_last (fun x => fired (cell.deltaOld newState x))
      (deltaOld_takes h hx hxt hl ht) (fun w hw => ?_) _
    have hne : w.1 ≠ x.1 := fst_ne_of_split (hs.trans (List.append_cons xs x ys)) (by simp) hw
    exact deltaOld_aside h (by simp [hs, hw]) (hlater w hw) (stype_ne_new h hz ht (hid ▸ hne))
  · intro w hw hwt
    rw [h.singleNew w hw z hz (hwt.trans ht.symm), ← hid, lookup_of_mem hx]
    rfl

/-- A type that an id of the old state has taken, where a later turn removes the stream that had it. -/
lemma touch_delta_lost {z : Entry} (hz : z ∈ newState.streams.entries) (ht : z.2.stype = t.value)
    {xs ys : List Entry} {y : Entry} (hs : cell.state.streams.entries = xs ++ x::ys) (hy : y ∈ xs)
    (hid : y.1 = z.1) (hxt : x.2.stype = t.value) :
    (fired (cell.delta newState)).foldl (Event.touch t) (cell.state.streamView t) = none := by
  have hx : x ∈ cell.state.streams.entries := by simp [hs]
  have hyold : y ∈ cell.state.streams.entries := by simp [hs, hy]
  rw [delta_loops h, deltaNew_aside h]
  · rw [hs]
    have hne : ∀ w ∈ x::ys, w.1 ≠ z.1 := fun w hw => hid ▸ fst_ne_of_split hs hy hw
    refine foldl_flatMap_last (fun x => fired (cell.deltaOld newState x))
      (deltaOld_leaves h hx hxt (stype_ne_new h hz ht (hne x List.mem_cons_self))) (fun w hw => ?_) _
    have hwx : w.1 ≠ x.1 := fst_ne_of_split (hs.trans (List.append_cons xs x ys)) (by simp) hw
    exact deltaOld_aside h (by simp [hs, hw]) (stype_ne_old h hx hxt (by simp [hs, hw]) hwx)
      (stype_ne_new h hz ht (hne w (List.mem_cons_of_mem _ hw)))
  · intro w hw hwt
    rw [h.singleNew w hw z hz (hwt.trans ht.symm), ← hid, lookup_of_mem hyold]
    rfl

/-- For one order of each map: `delta` is right just if a type is not taken by an id before the stream
that had it is removed. -/
theorem deltaCorrect_iff : cell.DeltaCorrect newState ↔
    cell.state.streams.entries.Pairwise fun y x => ¬ newState.TakesOver y x := by
  rw [deltaCorrect_iff_touch]
  constructor
  · intro hcorrect
    rw [List.pairwise_iff_forall_sublist]
    rintro y x hsub ⟨s,hl,hs,hne⟩
    obtain ⟨r₁,r₂,hr,hy,hx⟩ := List.cons_sublist_iff.mp hsub
    obtain ⟨us,vs,hv⟩ := List.append_of_mem (List.singleton_sublist.mp hx)
    have hsplit : cell.state.streams.entries = (r₁ ++ us) ++ x::vs := by rw [hr, hv, List.append_assoc]
    have hxold : x ∈ cell.state.streams.entries := by simp [hsplit]
    obtain ⟨t,ht⟩ := h.knownOld x hxold
    have hz := mem_of_lookup hl
    have hlost := touch_delta_lost h hz (hs.trans ht) hsplit (List.mem_append_left us hy) rfl ht
    rw [hcorrect t, streamView_some h.singleNew hz (hs.trans ht)] at hlost
    cases hlost
  · intro horder t
    by_cases hnew : ∃ z ∈ newState.streams.entries, z.2.stype = t.value
    · obtain ⟨z,hz,ht⟩ := hnew
      rw [streamView_some h.singleNew hz ht]
      cases hl : cell.state.streams.lookup z.1 with
      | none => rw [delta_loops h, deltaNew_adds h hz ht hl]
      | some s =>
        have hx := mem_of_lookup hl
        by_cases hxt : s.stype = t.value
        · exact touch_delta_kept h hz ht hx rfl hxt
        · obtain ⟨xs,ys,hs⟩ := List.append_of_mem hx
          refine touch_delta_taken h hz ht hs rfl hxt fun w hw hwt => ?_
          -- `w` would come after the id that has taken its type
          rw [hs] at horder
          have hafter := (List.pairwise_cons.mp (List.pairwise_append.mp horder).2.1).1 w hw
          exact hafter ⟨z.2,lookup_of_mem hz,ht.trans hwt.symm,fun he => hxt (he.symm.trans ht)⟩
    · have hn : ∀ z ∈ newState.streams.entries, z.2.stype ≠ t.value := fun z hz ht => hnew ⟨z,hz,ht⟩
      rw [streamView_none hn]
      exact touch_delta_gone h hn

end Loops

/-- For each order of the two maps, `delta` is right just if no type is taken by an id before the
stream that had it is removed. So it is right in every order just if no id takes the type that
another id had. -/
theorem delta_correct_iff (cell : UserCell) (newState : UserState) (h : Comparable cell.state newState) :
    (cell.DeltaCorrect newState ↔
      cell.state.streams.entries.Pairwise fun y x => ¬ newState.TakesOver y x) ∧
    ((∀ state' newState', cell.state.Reordered state' → newState.Reordered newState' →
        ({ cell with state := state' } : UserCell).DeltaCorrect newState') ↔
      ∀ y ∈ cell.state.streams.entries, ∀ x ∈ cell.state.streams.entries, ¬ newState.TakesOver y x) := by
  refine ⟨deltaCorrect_iff h,?_,?_⟩
  · intro hall y hy x hx htakes
    obtain ⟨state',hre,rest,hfirst⟩ := exists_reordered hy hx htakes.ne
    have hcorrect := hall state' newState hre newState.reordered_refl
    have horder := (@deltaCorrect_iff { cell with state := state' } newState
      (h.reordered hre newState.reordered_refl)).mp hcorrect
    simp only [hfirst] at horder
    exact (List.pairwise_cons.mp horder).1 x List.mem_cons_self htakes
  · intro hno state' newState' hre hre'
    refine (@deltaCorrect_iff { cell with state := state' } newState' (h.reordered hre hre')).mpr ?_
    refine List.pairwise_of_forall_mem_list fun y hy x hx => ?_
    rintro ⟨s,hl,hs⟩
    exact hno y (hre.mem_iff.mp hy) x (hre.mem_iff.mp hx) ⟨s,(hre'.lookup y.1).symm.trans hl,hs⟩

/-- A user with a camera under the id `a` and a microphone under the id `b`, met in this order. -/
def bothStreams : UserState :=
  ⟨"u",true,(AList.singleton "b" ⟨2,2,"q",false⟩).insert "a" ⟨1,1,"p",false⟩,none,"i"⟩

/-- The microphone is now under the id `a`. -/
def takenStream : UserState := ⟨"u",true,AList.singleton "a" ⟨1,2,"r",true⟩,none,"i"⟩

/-- The camera has a new producer, and the microphone is gone. -/
def newCamera : UserState := ⟨"u",true,AList.singleton "a" ⟨1,1,"r",true⟩,none,"i"⟩

lemma bothStreams_entries : bothStreams.streams.entries =
    [⟨"a",⟨1,1,"p",false⟩⟩,⟨"b",⟨2,2,"q",false⟩⟩] := rfl

/-- Any type may be under the id `a` in the next state. -/
lemma comparable_bothStreams (t : StreamType) :
    Comparable bothStreams ⟨"u",true,AList.singleton "a" ⟨1,t.value,"r",true⟩,none,"i"⟩ where
  knownOld := by
    unfold Known
    rw [bothStreams_entries, List.forall_mem_cons, List.forall_mem_singleton]
    exact ⟨⟨.camera,rfl⟩,⟨.mic,rfl⟩⟩
  knownNew x hx := by
    rw [List.mem_singleton.mp hx]
    exact ⟨t,rfl⟩
  singleOld := by
    unfold Single
    rw [bothStreams_entries]
    decide
  singleNew x hx y hy _ := (List.mem_singleton.mp hx).trans (List.mem_singleton.mp hy).symm
  producers := by
    rw [bothStreams_entries, List.forall_mem_cons, List.forall_mem_singleton]
    constructor <;>
    · intro y hy hp
      rw [List.mem_singleton.mp hy] at hp
      exact absurd hp (by simp)

/-- A new camera under the old id, while the microphone goes. -/
theorem delta_correct_newCamera : (⟨"u",bothStreams,[],.ready⟩ : UserCell).DeltaCorrect newCamera := by
  refine (delta_correct_iff ⟨"u",bothStreams,[],.ready⟩ newCamera (comparable_bothStreams .camera)).1.mpr ?_
  rw [bothStreams_entries, List.pairwise_pair]
  rintro ⟨s,hl,hs,-⟩
  cases hl
  exact absurd hs (by decide)

/-- The id `a` takes the type of the microphone before the old microphone is removed. -/
theorem delta_not_correct : Comparable bothStreams takenStream ∧
    ¬ (⟨"u",bothStreams,[],.ready⟩ : UserCell).DeltaCorrect takenStream := by
  refine ⟨comparable_bothStreams .mic,fun h => ?_⟩
  have hmic := (deltaCorrect_iff_touch.mp h) .mic
  revert hmic
  decide

end UserCell
end VvClient
