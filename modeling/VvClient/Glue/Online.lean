import VvClient.Glue.Protocol

/-! The users that are tracked and announced are those that the server has reported online. -/
namespace VvClient

open Machine Listener

namespace Event

/-- The callback announces the user. -/
def isJoinOf (u : String) : Event → Bool
  | onUserJoined v _ => v = u
  | _ => false

/-- How often a user was announced. -/
def joins (u : String) (log : List Event) : ℕ := log.countP (isJoinOf u)

variable {u : String} {es fs : List Event}

@[simp] lemma joins_append : joins u (es ++ fs) = joins u es + joins u fs := List.countP_append ..

lemma joins_eq_zero (h : ∀ e ∈ es, isJoinOf u e = false) : joins u es = 0 := by
  rw [joins, List.countP_eq_zero]
  intro e he
  rw [h e he]
  exact Bool.false_ne_true

lemma joins_about : joins u (about u es) = joins u es := by
  rw [joins, about, List.countP_filter]
  apply List.countP_congr
  intro e _
  cases e <;> simp [isJoinOf, userId?]

lemma joins_streams (h : ∀ e ∈ es, e.isStream = true) : joins u es = 0 := by
  apply joins_eq_zero
  intro e he
  have hs := h e he
  cases e with
  | onUserJoined v tree => cases hs
  | _ => rfl

end Event

/-- What the most recent UFull of each user says, after a push. -/
def ServerPush.hears (said : String → Option Bool) : ServerPush → String → Option Bool
  | .uFull newState => Function.update said newState.id (some newState.online)
  | _ => said

namespace Member

variable {u : String} {m : Member} {said : String → Option Bool}

/-- The cell of a user is the user's own, and the user was last reported online. -/
def Tracked (u : String) (said : Option Bool) (m : Member) : Prop :=
  ∀ cell, m.cell = some cell →
    cell.state.online = true ∧ cell.userId = u ∧ cell.state.id = u ∧ said = some true

lemma Tracked.fire (h : Tracked u (said u) m) (es : List Event) : Tracked u (said u) (m.fire es) := h

lemma tracked_none {b : Option Bool} (h : m.cell = none) : Tracked u b m := by
  intro cell hc
  rw [h] at hc
  cases hc

lemma Tracked.join (h : Tracked u (said u) m) : Tracked u (said u) (m.join u) := by
  unfold Member.join
  cases hc : m.cell with
  | none => exact h
  | some user =>
    intro cell hcell
    cases hcell
    exact h user hc

lemma Tracked.onUReady (h : Tracked u (said u) m) : Tracked u (said u) (m.onUReady u) := by
  unfold Member.onUReady
  cases hc : m.cell with
  | none => exact h
  | some user =>
    have hready : Tracked u (said u) { m with cell := some { user with stage := .ready } } := by
      intro cell hcell
      cases hcell
      exact h user hc
    dsimp only
    split_ifs
    · exact hready.join
    · exact hready

lemma Tracked.onUTree (h : Tracked u (said u) m) (node : TreeNode) :
    Tracked u (said u) (m.onUTree u node) := by
  unfold Member.onUTree
  cases hc : m.cell with
  | none => exact h
  | some cell =>
    cases hs : cell.stage with
    | init =>
      simp only [hs]
      intro cell' hcell
      cases hcell
      exact h cell hc
    | ready =>
      simp only [hs]
      exact h

lemma Tracked.onUFull (h : Tracked u (said u) m) (newState : UserState) (hid : newState.id = u)
    (hg : newState.online = true ∨ m.cell ≠ none) :
    Tracked u (some newState.online) (m.onUFull u newState) := by
  unfold Member.onUFull
  cases hc : m.cell with
  | none =>
    have hon := hg.resolve_right fun hne => hne hc
    intro cell hcell
    cases hcell
    exact ⟨hon,rfl,hid,by rw [hon]⟩
  | some cell =>
    have hkey := (h cell hc).2.1
    have hnew : ∀ stage tree es, newState.online = true → Tracked u (some newState.online)
        ⟨some ⟨cell.userId,newState,tree,stage⟩,m.roomReady,es⟩ := by
      intro stage tree es hon cell' hcell
      cases hcell
      exact ⟨hon,hkey,hid,by rw [hon]⟩
    cases hon : newState.online with
    | false =>
      apply tracked_none
      cases hs : cell.stage <;> simp [Member.fire, hs]
    | true =>
      rw [hon] at hnew
      cases hs : cell.stage with
      | init =>
        simp only [hs, if_true]
        exact hnew _ _ _ rfl
      | ready =>
        simp only [hs, Bool.not_true, Bool.false_eq_true, if_false]
        split_ifs
        · exact hnew _ _ _ rfl
        · exact hnew _ _ _ rfl
        · exact tracked_none rfl

lemma Tracked.step (h : Tracked u (said u) m) {x : Room.Received}
    (hg : ∀ newState, x.push = .uFull newState → newState.id = u →
      newState.online = true ∨ m.cell ≠ none) :
    Tracked u (x.push.hears said u) (m.step u x) := by
  obtain ⟨push,iter⟩ := x
  unfold Member.step ServerPush.hears
  cases push with
  | uInit id =>
    simp only
    split_ifs
    · unfold onUInit
      cases hc : m.cell with
      | none => exact h
      | some cell => exact tracked_none rfl
    · exact h
  | uReady id =>
    simp only
    split_ifs
    · exact h.onUReady
    · exact h
  | uFull newState =>
    simp only
    split_ifs with hid
    · subst hid
      rw [Function.update_self]
      exact h.onUFull newState rfl (hg newState rfl rfl)
    · rw [Function.update_of_ne (Ne.symm hid)]
      exact h
  | uTree treeState =>
    simp only
    split_ifs
    · exact h.onUTree _
    · exact h
  | rReady id => exact Tracked.join (m := { m with roomReady := true }) h
  | _ => exact h

/-- A UFull announces nobody. -/
lemma joins_onUFull (newState : UserState) :
    Event.joins u (m.onUFull u newState).events = Event.joins u m.events := by
  have hleaved : Event.joins u [.onUserLeaved u] = 0 := rfl
  unfold onUFull
  cases hc : m.cell with
  | none => rfl
  | some cell =>
    have hdelta : Event.joins u (fired (cell.delta newState)) = 0 :=
      Event.joins_streams fun e he => ((tells_delta cell newState).only e he).2
    cases hs : cell.stage with
    | init => simp only [hs]
    | ready =>
      simp only [hs]
      split_ifs <;> simp [Member.fire, hleaved, hdelta]

/-- Without a cell nothing is told. -/
lemma events_step_of_none (hc : m.cell = none) (x : Room.Received) :
    (m.step u x).events = m.events := by
  obtain ⟨push,iter⟩ := x
  unfold Member.step
  cases push <;> simp only [onUInit, onUReady, onUFull, onUTree, onRReady, join, hc] <;>
    split_ifs <;> rfl

/-- Who is announced is tracked, and the push says nothing new of it. -/
lemma joins_step {x : Room.Received}
    (h : Event.joins u m.events < Event.joins u (m.step u x).events) :
    m.cell ≠ none ∧ x.push.hears said u = said u := by
  refine ⟨?_,?_⟩
  · intro hc
    rw [events_step_of_none hc] at h
    exact lt_irrefl _ h
  · obtain ⟨push,iter⟩ := x
    cases push with
    | uFull newState =>
      by_cases hid : newState.id = u
      · simp only [Member.step, hid, if_true] at h
        rw [joins_onUFull] at h
        exact absurd h (lt_irrefl _)
      · exact Function.update_of_ne (Ne.symm hid) ..
    | _ => rfl

end Member

/-- The room, with what the most recent UFull of each user said. -/
structure Roster where
  room : Room
  said : String → Option Bool

namespace Roster

def new (answers : ℕ → Except Error Unit) : Roster := ⟨.new answers,fun _ => none⟩

def step (s : Roster) (x : Room.Received) : Roster := ⟨s.room.step x,x.push.hears s.said⟩

/-- Every cell is online, and its key is its user and the user of its state. -/
def OnlineOnly (s : Roster) : Prop :=
  ∀ key cell, s.room.users.lookup key = some cell →
    cell.state.online = true ∧ key = cell.userId ∧ key = cell.state.id

/-- Nobody is announced whose most recent UFull said that it is offline. -/
def AnnouncesOnline (s : Roster) (x : Room.Received) : Prop :=
  ∀ u, Event.joins u s.room.listener.log < Event.joins u (s.step x).room.listener.log →
    (s.step x).said u ≠ some false

/-- No UFull says of an unknown user that it is offline. -/
def NoStranger (s : Roster) (x : Room.Received) : Prop :=
  ∀ newState, x.push = .uFull newState →
    newState.online = true ∨ s.room.users.lookup newState.id ≠ none

/-- The invariant: the callbacks succeed and every user is tracked as it should be. -/
structure Sound (s : Roster) : Prop where
  room : s.room.Sound
  tracked : ∀ u, (s.room.member u).Tracked u (s.said u)

lemma sound_new {answers : ℕ → Except Error Unit} (h : ∀ n, answers n = .ok ()) :
    (new answers).Sound := by
  refine ⟨Room.sound_new h,fun u => ?_⟩
  rw [new, Room.member_new]
  exact Member.tracked_none rfl

variable {s : Roster} {x : Room.Received}

lemma Sound.onlineOnly (h : s.Sound) : s.OnlineOnly := by
  intro key cell hc
  obtain ⟨hon,huser,hid,-⟩ := h.tracked key cell hc
  exact ⟨hon,huser.symm,hid.symm⟩

lemma Sound.step (h : s.Sound) (hg : s.NoStranger x) : (s.step x).Sound := by
  refine ⟨(Room.step_member h.room x "").1,fun u => ?_⟩
  change Member.Tracked u _ ((s.room.step x).member u)
  rw [(Room.step_member h.room x u).2]
  apply (h.tracked u).step
  rintro newState hpush rfl
  exact hg newState hpush

/-- A stranger that is offline becomes a cell that is offline. -/
lemma Sound.stranger (h : s.Sound) (hg : ¬ s.NoStranger x) : ¬ (s.step x).OnlineOnly := by
  intro honly
  apply hg
  intro newState hpush
  by_contra hno
  rw [not_or, not_not] at hno
  have hm := (Room.step_member h.room x newState.id).2
  have hcell : (s.room.member newState.id).cell = none := hno.2
  have hlookup : (s.step x).room.users.lookup newState.id = some ⟨newState.id,newState,[],.init⟩ := by
    have hc : (s.room.step x).users.lookup newState.id = _ := congrArg Member.cell hm
    rw [Member.step, hpush] at hc
    change (s.room.step x).users.lookup newState.id = _
    simpa only [if_true, Member.onUFull, hcell] using hc
  exact hno.1 (honly _ _ hlookup).1

lemma Sound.announces (h : s.Sound) : s.AnnouncesOnline x := by
  intro u hlt
  have hm := congrArg Member.events (Room.step_member h.room x u).2
  have hevents : Event.joins u (s.room.member u).events <
      Event.joins u ((s.room.member u).step u x).events := by
    rw [← hm]
    simpa only [Room.member, Event.joins_about, Roster.step] using hlt
  have hjoin : (s.room.member u).cell ≠ none ∧ x.push.hears s.said u = s.said u :=
    Member.joins_step hevents
  obtain ⟨hcell,hsaid⟩ := hjoin
  obtain ⟨cell,hc⟩ := Option.ne_none_iff_exists'.mp hcell
  change x.push.hears s.said u ≠ some false
  rw [hsaid, (h.tracked u cell hc).2.2.2]
  simp

/-- Whole runs on which the callbacks succeed: only users that are online are tracked and announced
exactly when no UFull says of an unknown user that it is offline. -/
theorem onlineOnly_iff {answers : ℕ → Except Error Unit} (h : ∀ n, answers n = .ok ())
    (xs : List Room.Received) :
    (Always step OnlineOnly (new answers) xs ∧ EveryStep step AnnouncesOnline (new answers) xs) ↔
      EveryStep step NoStranger (new answers) xs := by
  have hall := always_iff (G := NoStranger) (fun _ hs => hs.onlineOnly) (fun _ _ hs hg => hs.step hg)
    (fun _ _ hs hg => hs.stranger hg) (sound_new h) xs
  refine ⟨fun hr => hall.mp hr.1,fun hg => ⟨hall.mpr hg,?_⟩⟩
  exact everyStep_of_guard (fun _ _ hs hg => ⟨hs.step hg,hs.announces⟩) (sound_new h) hg

section Sample

/-- The roster after some pushes, with callbacks that succeed. -/
def sampleRun (pushes : List ServerPush) : Roster :=
  run step (new fun _ => .ok ()) (Room.received pushes)

theorem onlineOnly_iff_join_leave :
    (Always step OnlineOnly (new fun _ => .ok ()) (Room.received [.uFull (Room.sampleState true "i"),
          .uReady "u",.rReady "r",.uFull (Room.sampleState false "i")]) ∧
        EveryStep step AnnouncesOnline (new fun _ => .ok ()) (Room.received
          [.uFull (Room.sampleState true "i"),.uReady "u",.rReady "r",
            .uFull (Room.sampleState false "i")])) ↔
      EveryStep step NoStranger (new fun _ => .ok ()) (Room.received
        [.uFull (Room.sampleState true "i"),.uReady "u",.rReady "r",
          .uFull (Room.sampleState false "i")]) :=
  onlineOnly_iff (fun _ => rfl) _

/-- A notice that a user is offline comes twice. The second one brings the user in again, and then
it is announced. -/
theorem stranger_announced :
    ((sampleRun [.rReady "r",.uFull (Room.sampleState true "i"),.uFull (Room.sampleState false "i"),
        .uFull (Room.sampleState false "i"),.uReady "u"]).said "u" = some false ∧
      Event.joins "u" (sampleRun [.rReady "r",.uFull (Room.sampleState true "i"),
        .uFull (Room.sampleState false "i"),.uFull (Room.sampleState false "i"),
        .uReady "u"]).room.listener.log = 1) ∧
      ¬ (Always step OnlineOnly (new fun _ => .ok ()) (Room.received [.rReady "r",
          .uFull (Room.sampleState true "i"),.uFull (Room.sampleState false "i"),
          .uFull (Room.sampleState false "i"),.uReady "u"]) ∧
        EveryStep step AnnouncesOnline (new fun _ => .ok ()) (Room.received [.rReady "r",
          .uFull (Room.sampleState true "i"),.uFull (Room.sampleState false "i"),
          .uFull (Room.sampleState false "i"),.uReady "u"])) := by
  refine ⟨by decide,?_⟩
  rintro ⟨-,hevery⟩
  have hlast := hevery.2.2.2.2.1 "u"
  exact absurd rfl (hlast (by decide))

end Sample

end Roster
end VvClient
