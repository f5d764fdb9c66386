import VvClient.Glue.Member

/-! The order in which the listener may be told about a user: it joins, it has streams and a tree
while it is there, and it leaves. -/
namespace VvClient

open Machine Listener

namespace Event

/-- Whether the user is announced after a callback about it. -/
def announce (joined : Bool) : Event → Bool
  | onUserJoined _ _ => true
  | onUserLeaved _ => false
  | _ => joined

/-- Whether a callback about a user may come when the user is announced or not. -/
def Allowed (joined : Bool) : Event → Prop
  | onUserJoined _ _ => joined = false
  | onUserLeaved _ => joined = true
  | onAddStream _ _ _ => joined = true
  | onUpdateStream _ _ _ => joined = true
  | onRemoveStream _ _ => joined = true
  | onUpdateUserTree _ _ => joined = true
  | _ => True

/-- The callbacks about the user alternate between joins and leaves, from a join on, and all the
others lie between a join and the next leave. -/
def Obeys (u : String) (log : List Event) : Prop := EveryStep announce Allowed false (about u log)

/-- Callbacks about streams need the user to be announced. -/
lemma everyStep_streams {joined : Bool} {es : List Event} (h : ∀ e ∈ es, e.isStream = true) :
    EveryStep announce Allowed joined es ↔ (es ≠ [] → joined = true) := by
  induction es with
  | nil => simp [EveryStep]
  | cons e es ih =>
    obtain ⟨he,hes⟩ := List.forall_mem_cons.mp h
    cases e <;> simp_all [isStream, EveryStep, Allowed, announce]

end Event

namespace UserState

/-- The type of a stream of the old state, if the new one does not have the stream as it was. -/
def changedOld (newState : UserState) (x : Sigma fun _ : String => Stream) : Option ℤ :=
  match newState.streams.lookup x.1 with
  | some newStream =>
    if x.2.producerId ≠ newStream.producerId ∨ x.2.muted ≠ newStream.muted then some x.2.stype
    else none
  | none => some x.2.stype

/-- The type of a stream of the new state, if the old one does not have the stream. -/
def changedNew (old : UserState) (x : Sigma fun _ : String => Stream) : Option ℤ :=
  if (old.streams.lookup x.1).isSome then none else some x.2.stype

/-- The types of the streams in which two states differ, in the order of iteration. -/
def changes (old newState : UserState) : List ℤ :=
  old.streams.entries.filterMap newState.changedOld ++
    newState.streams.entries.filterMap old.changedNew

/-- The first difference is in a stream of a known type. -/
def FirstChangeKnown (old newState : UserState) : Prop :=
  ((changes old newState).head?.bind StreamType.fromValue).isSome = true

end UserState

namespace Listener

/-- The computation reports the first of some stream types, if there is one and it is known. -/
def Reports (m : Prog Listener Error Unit) : List ℤ → Prop
  | [] => fired m = [] ∧ outcome m = .ok ()
  | stype::_ =>
    match StreamType.fromValue stype with
    | none => fired m = [] ∧ ∃ e, outcome m = .error e
    | some _ => fired m ≠ []

lemma Reports.fired_iff {m : Prog Listener Error Unit} {stypes : List ℤ} (h : Reports m stypes) :
    fired m ≠ [] ↔ (stypes.head?.bind StreamType.fromValue).isSome = true := by
  cases stypes with
  | nil => simp [h.1]
  | cons stype stypes =>
    simp only [Reports] at h
    cases ht : StreamType.fromValue stype with
    | none => simp_all
    | some t => simp_all

lemma reports_bind {m m' : Prog Listener Error Unit} (hm : Fires m) (hm' : Fires m')
    {stypes stypes' : List ℤ} (h : Reports m stypes) (h' : Reports m' stypes') :
    Reports (m >>= fun _ => m') (stypes ++ stypes') := by
  cases stypes with
  | nil =>
    obtain ⟨hf,ho⟩ := h
    have hf' : fired (m >>= fun _ => m') = fired m' := by
      rw [fired_bind hm fun _ => hm', hf, ho, List.nil_append]
    have ho' : outcome (m >>= fun _ => m') = outcome m' := by
      rw [outcome_bind hm fun _ => hm', ho]
      rfl
    cases stypes' with
    | nil => exact ⟨hf'.trans h'.1,ho'.trans h'.2⟩
    | cons stype stypes' => simpa only [Reports, List.nil_append, hf', ho'] using h'
  | cons stype stypes =>
    simp only [Reports, List.cons_append] at h ⊢
    cases ht : StreamType.fromValue stype with
    | none =>
      simp only [ht] at h ⊢
      obtain ⟨hf,e,ho⟩ := h
      rw [fired_bind hm fun _ => hm', outcome_bind hm fun _ => hm', hf, ho]
      exact ⟨rfl,e,rfl⟩
    | some t =>
      simp only [ht] at h ⊢
      rw [fired_bind hm fun _ => hm']
      simp [h]

lemma reports_forEach {α : Type} {f : α → Prog Listener Error Unit} {d : α → Option ℤ}
    (hf : ∀ x, Fires (f x)) (hd : ∀ x, Reports (f x) (d x).toList) (xs : List α) :
    Reports (Prog.forEach f xs) (xs.filterMap d) := by
  induction xs with
  | nil => exact ⟨rfl,rfl⟩
  | cons x xs ih =>
    have h := reports_bind (hf x) (fires_forEach hf xs) (hd x) ih
    change Reports (f x >>= fun _ => Prog.forEach f xs) _
    rw [List.filterMap_cons]
    cases hx : d x with
    | none => simpa only [hx, Option.toList_none, List.nil_append] using h
    | some stype => simpa only [hx, Option.toList_some, List.singleton_append] using h

/-- The stream type is read before the first callback. -/
lemma reports_callback {stype : ℤ} {f : StreamType → Prog Listener Error Unit}
    (hf : ∀ t, Fires (f t)) (hne : ∀ t, fired (f t) ≠ []) :
    Reports (Prog.ofExcept (StreamType.tryFromValue stype) >>= f) [stype] := by
  simp only [Reports]
  rw [fired_bind (fires_ofExcept _) hf, outcome_bind (fires_ofExcept _) hf]
  simp only [fired_ofExcept, outcome_ofExcept, StreamType.tryFromValue]
  cases StreamType.fromValue stype with
  | none => exact ⟨rfl,_,rfl⟩
  | some t => exact hne t

end Listener

section Delta
variable (cell : UserCell) (newState : UserState) (x : Sigma fun _ : String => Stream)

lemma reports_deltaOld : Reports (cell.deltaOld newState x) (newState.changedOld x).toList := by
  have hfire : ∀ e, fired (fire e) ≠ [] := fun e => by simp
  unfold UserCell.deltaOld UserState.changedOld
  cases newState.streams.lookup x.1 with
  | none => exact reports_callback (fun t => fires_fire _) fun t => hfire _
  | some newStream =>
    by_cases hp : x.2.producerId = newStream.producerId
    · by_cases hm : x.2.muted = newStream.muted
      · simp only [hp, hm, ne_eq, not_true_eq_false, if_false, or_self]
        exact ⟨rfl,rfl⟩
      · simp only [hp, hm, ne_eq, not_true_eq_false, not_false_eq_true, if_false, if_true, or_true]
        exact reports_callback (fun t => fires_fire _) fun t => hfire _
    · simp only [hp, ne_eq, not_false_eq_true, if_true, true_or]
      have hrest : Fires (do
          let stype ← Prog.ofExcept (StreamType.tryFromValue newStream.stype)
          fire (.onAddStream cell.userId stype newStream.muted)) :=
        fires_bind (fires_ofExcept _) fun _ => fires_fire _
      refine reports_callback (fun t => fires_bind (fires_fire _) fun _ => hrest) fun t => ?_
      rw [fired_bind (fires_fire _) fun _ => hrest]
      simp

lemma reports_deltaNew : Reports (cell.deltaNew x) (cell.state.changedNew x).toList := by
  unfold UserCell.deltaNew UserState.changedNew
  cases cell.state.streams.lookup x.1 with
  | some stream => exact ⟨rfl,rfl⟩
  | none => exact reports_callback (fun t => fires_fire _) fun t => by simp

lemma delta_fires_iff :
    fired (cell.delta newState) ≠ [] ↔ UserState.FirstChangeKnown cell.state newState :=
  (reports_bind (tells_forEach (tells_deltaOld cell newState) _).fires
    (tells_forEach (tells_deltaNew cell) _).fires
    (reports_forEach (fun x => (tells_deltaOld cell newState x).fires)
      (reports_deltaOld cell newState) _)
    (reports_forEach (fun x => (tells_deltaNew cell x).fires) (reports_deltaNew cell) _)).fired_iff

end Delta
namespace Member

variable (u : String)

/-- Whether the user is announced. -/
def joined (m : Member) : Bool := run Event.announce false m.events

/-- A push that makes the callbacks about the user keep their order. -/
def Orderly (m : Member) (x : Room.Received) : Prop :=
  match m.cell with
  | none => True
  | some cell =>
    match x.push with
    | .uInit id => id = u → m.joined = true
    | .uReady id => id = u → m.roomReady = true → m.joined = false
    | .uFull newState =>
      newState.id = u → cell.stage = .ready →
        (newState.online = false ∨ newState.instId ≠ cell.state.instId ∨
          UserState.FirstChangeKnown cell.state newState) → m.joined = true
    | .uTree treeState => treeState.id = some u → cell.stage = .ready → m.joined = true
    | .rReady _ => m.joined = false
    | _ => True

/-- The callbacks of a step are in order from where the user stands. -/
def InOrder (m m' : Member) (order : Prop) : Prop :=
  ∃ es, m'.events = m.events ++ es ∧ (EveryStep Event.announce Event.Allowed m.joined es ↔ order)

variable {u}

lemma inOrder_same {m m' : Member} (h : m'.events = m.events) : InOrder m m' True :=
  ⟨[],by simp [h],Iff.rfl⟩

/-- An announcement needs the user to be away; the streams that follow it do not matter. -/
lemma inOrder_join {m m' : Member} {user : UserCell} (h : m'.events = m.events ++ joinEvents u user) :
    InOrder m m' (m.joined = false) := by
  refine ⟨_,h,?_⟩
  rw [Room.joinEvents_eq]
  have hstreams : ∀ e ∈ [StreamType.camera,.mic,.screen].filterMap fun t =>
      (user.streamMuted t).map (Event.onAddStream u t), e.isStream = true := by
    intro e he
    obtain ⟨t,-,ht⟩ := List.mem_filterMap.mp he
    obtain ⟨muted,-,rfl⟩ := Option.map_eq_some_iff.mp ht
    rfl
  simp only [EveryStep, Event.Allowed, Event.announce, Event.everyStep_streams hstreams]
  simp

lemma inOrder_one {m m' : Member} {e : Event} (h : m'.events = m.events ++ [e]) :
    InOrder m m' (e.Allowed m.joined) := ⟨[e],h,by simp [EveryStep]⟩

/-- The streams that `delta` reports need the user to be announced. -/
lemma inOrder_delta {m m' : Member} {cell : UserCell} {newState : UserState}
    (h : m'.events = m.events ++ fired (cell.delta newState)) :
    InOrder m m' (UserState.FirstChangeKnown cell.state newState → m.joined = true) := by
  refine ⟨_,h,?_⟩
  rw [Event.everyStep_streams fun e he => ((tells_delta cell newState).only e he).2, delta_fires_iff]

lemma inOrder_full {m : Member} {cell : UserCell} (hc : m.cell = some cell) (newState : UserState) :
    InOrder m (m.onUFull u newState) (cell.stage = .ready →
      (newState.online = false ∨ newState.instId ≠ cell.state.instId ∨
        UserState.FirstChangeKnown cell.state newState) → m.joined = true) := by
  unfold onUFull
  simp only [hc]
  cases hs : cell.stage with
  | init =>
    simp only [reduceCtorEq, false_implies]
    exact inOrder_same rfl
  | ready =>
    simp only [forall_const]
    cases hon : newState.online with
    | false =>
      simp only [Bool.not_false, if_true, true_or, forall_const]
      exact inOrder_one (e := .onUserLeaved u) rfl
    | true =>
      simp only [Bool.not_true, Bool.true_eq_false, Bool.false_eq_true, if_false, false_or]
      by_cases hinst : newState.instId = cell.state.instId
      · simp only [hinst, ne_eq, not_true_eq_false, if_false, false_or]
        exact inOrder_delta rfl
      · simp only [hinst, ne_eq, not_false_eq_true, if_true, true_or, forall_const]
        exact inOrder_one (e := .onUserLeaved u) rfl

lemma orderly_iff (m : Member) (x : Room.Received) : InOrder m (m.step u x) (m.Orderly u x) := by
  obtain ⟨push,iter⟩ := x
  unfold Orderly step
  cases hc : m.cell with
  | none =>
    refine inOrder_same ?_
    cases push <;> simp only [onUInit, onUReady, onUFull, onUTree, onRReady, join, hc] <;> split_ifs <;> rfl
  | some cell =>
    cases push with
    | uInit id =>
      by_cases hid : id = u
      · simp only [hid, if_true, onUInit, hc, forall_const]
        exact inOrder_one (e := .onUserLeaved u) rfl
      · simp only [hid, if_false, false_implies]
        exact inOrder_same rfl
    | uReady id =>
      by_cases hid : id = u
      · cases hr : m.roomReady with
        | true =>
          simp only [hid, hr, if_true, onUReady, hc, join, forall_const]
          exact inOrder_join rfl
        | false =>
          simp only [hid, hr, if_true, Bool.false_eq_true, if_false, onUReady, hc, false_implies,
            implies_true]
          exact inOrder_same rfl
      · simp only [hid, if_false, false_implies]
        exact inOrder_same rfl
    | uFull newState =>
      by_cases hid : newState.id = u
      · simp only [hid, if_true, forall_const]
        exact inOrder_full hc newState
      · simp only [hid, if_false, false_implies]
        exact inOrder_same rfl
    | uTree treeState =>
      by_cases hid : treeState.id = some u
      · cases hs : cell.stage with
        | init =>
          simp only [hid, hs, if_true, onUTree, hc, reduceCtorEq, false_implies, implies_true]
          exact inOrder_same rfl
        | ready =>
          simp only [hid, hs, if_true, onUTree, hc, forall_const]
          exact inOrder_one (e := .onUpdateUserTree u (.ofState treeState)) rfl
      · simp only [hid, if_false, false_implies]
        exact inOrder_same rfl
    | rReady id =>
      simp only [onRReady, join, hc]
      exact inOrder_join rfl
    | _ => exact inOrder_same rfl

/-- Whole runs of one user: its callbacks keep their order exactly when every push is orderly. -/
theorem run_obeys (m : Member) (xs : List Room.Received) :
    EveryStep Event.announce Event.Allowed false (run (step u) m xs).events ↔
      EveryStep Event.announce Event.Allowed false m.events ∧ EveryStep (step u) (Orderly u) m xs := by
  induction xs generalizing m with
  | nil => simp [EveryStep]
  | cons x xs ih =>
    obtain ⟨es,he,hiff⟩ := orderly_iff m x
    rw [run_cons, ih, he, everyStep_append]
    simp only [EveryStep, and_assoc]
    exact and_congr_right fun _ => and_congr_left fun _ => hiff

end Member
namespace Room

/-- A push that keeps the order of the callbacks about a user. Told are: that the user leaves, only
when it is announced; that it joins, only when it is not; and its streams and its tree, only when
it is announced. -/
def Orderly (u : String) (r : Room) (x : Received) : Prop := (r.member u).Orderly u x

/-- Whole runs on which the callbacks succeed, for every user: the callbacks about the user obey
the protocol exactly when every push is orderly. -/
theorem obeys_iff_orderly {answers : ℕ → Except Error Unit} (h : ∀ n, answers n = .ok ())
    (u : String) (xs : List Received) :
    Event.Obeys u (run step (new answers) xs).listener.log ↔
      EveryStep step (Orderly u) (new answers) xs := by
  have hm := run_member h u xs
  have hlog : Event.about u (run step (new answers) xs).listener.log =
      (run (Member.step u) Member.new xs).events := congrArg Member.events hm
  rw [Event.Obeys, hlog, Member.run_obeys, ← everyStep_member h u]
  exact ⟨fun h => h.2,fun h => ⟨trivial,h⟩⟩

section Sample

def sampleState (online : Bool) (instId : String) : UserState := ⟨"u",online,∅,none,instId⟩

/-- The room after some pushes, with callbacks that succeed. -/
def sampleRun (pushes : List ServerPush) : Room :=
  run step (new fun _ => .ok ()) (received pushes)

theorem obeys_iff_orderly_join_leave :
    Event.Obeys "u" (sampleRun [.rReady "r",.uFull (sampleState true "i"),.uReady "u",
        .uFull (sampleState false "i")]).listener.log ↔
      EveryStep step (Orderly "u") (new fun _ => .ok ()) (received [.rReady "r",
        .uFull (sampleState true "i"),.uReady "u",.uFull (sampleState false "i")]) :=
  obeys_iff_orderly (fun _ => rfl) "u" _

/-- A user that was announced and is reported ready once more is announced again. -/
theorem joined_twice :
    Event.about "u" (sampleRun [.rReady "r",.uFull (sampleState true "i"),.uReady "u",
        .uReady "u"]).listener.log = [.onUserJoined "u" [],.onUserJoined "u" []] ∧
      ¬ Event.Obeys "u" (sampleRun [.rReady "r",.uFull (sampleState true "i"),.uReady "u",
        .uReady "u"]).listener.log := by
  have hlog : Event.about "u" (sampleRun [.rReady "r",.uFull (sampleState true "i"),.uReady "u",
      .uReady "u"]).listener.log = [.onUserJoined "u" [],.onUserJoined "u" []] := by decide
  refine ⟨hlog,?_⟩
  rw [Event.Obeys, hlog]
  intro h
  exact absurd h.2.1 (by simp [Event.Allowed, Event.announce])

end Sample

end Room
end VvClient
