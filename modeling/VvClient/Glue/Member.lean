import VvClient.Glue.Room
import VvClient.Lib.Machine

/-! One user of the room. The pushes move every user on its own, whatever the order in which an
iteration meets the users, so what holds of one user's machine holds of the room. -/
namespace VvClient

/-- A user's part of the room, with the callbacks about the user so far. -/
structure Member where
  cell : Option UserCell
  roomReady : Bool
  events : List Event

/-- The callbacks about a user. -/
def Event.about (u : String) (events : List Event) : List Event :=
  events.filter fun e => e.userId? = some u

/-- A callback about a stream. -/
def Event.isStream : Event → Bool
  | onAddStream _ _ _ => true
  | onUpdateStream _ _ _ => true
  | onRemoveStream _ _ => true
  | _ => false

namespace Member

variable (u : String)

def fire (events : List Event) (m : Member) : Member := { m with events := m.events ++ events }

/-- What `fire_user_joined` fires. -/
def joinEvents (user : UserCell) : List Event :=
  Listener.fired (announceUser u user.tree user.brief)

def onUInit (m : Member) : Member :=
  match m.cell with
  | none => m
  | some _ => { m with cell := none }.fire [.onUserLeaved u]

/-- The user is announced with its tree, which is handed over. -/
def join (m : Member) : Member :=
  match m.cell with
  | none => m
  | some user => { m with cell := some { user with tree := [] } }.fire (joinEvents u user)

def onUReady (m : Member) : Member :=
  match m.cell with
  | none => m
  | some user =>
    let m : Member := { m with cell := some { user with stage := .ready } }
    if m.roomReady then m.join u else m

def onUFull (newState : UserState) (m : Member) : Member :=
  match m.cell with
  | none => { m with cell := some ⟨u,newState,[],.init⟩ }
  | some cell =>
    match cell.stage with
    | .init => { m with cell := if newState.online then some { cell with state := newState } else none }
    | .ready =>
      if !newState.online then { m with cell := none }.fire [.onUserLeaved u]
      else if newState.instId ≠ cell.state.instId then
        { m with cell := some { cell with state := newState, stage := .init } }.fire [.onUserLeaved u]
      else
        { m with cell := if (Listener.outcome (cell.delta newState)).isOk
                         then some { cell with state := newState } else none }.fire
          (Listener.fired (cell.delta newState))

def onUTree (node : TreeNode) (m : Member) : Member :=
  match m.cell with
  | none => m
  | some cell =>
    match cell.stage with
    | .init => { m with cell := some { cell with tree := cell.tree ++ [node] } }
    | .ready => m.fire [.onUpdateUserTree u node]

def onRReady (m : Member) : Member := { m with roomReady := true }.join u

/-- What a push does to the user. -/
def step (m : Member) (x : Room.Received) : Member :=
  match x.push with
  | .uInit id => if id = u then m.onUInit u else m
  | .uReady id => if id = u then m.onUReady u else m
  | .uFull newState => if newState.id = u then m.onUFull u newState else m
  | .uTree treeState => if treeState.id = some u then m.onUTree u (.ofState treeState) else m
  | .rReady _ => m.onRReady u
  | _ => m

def new : Member := ⟨none,false,[]⟩

end Member

namespace Listener

section About
variable {u v : String} {es fs : List Event}

/-- All the callbacks are about one user. -/
def AllAbout (v : String) (es : List Event) : Prop := ∀ e ∈ es, e.userId? = some v

lemma about_append : Event.about u (es ++ fs) = Event.about u es ++ Event.about u fs :=
  List.filter_append ..

lemma about_self (h : AllAbout u es) : Event.about u es = es := by
  apply List.filter_eq_self.mpr
  intro e he
  exact decide_eq_true (h e he)

lemma about_other (h : AllAbout v es) (hv : v ≠ u) : Event.about u es = [] := by
  apply List.filter_eq_nil_iff.mpr
  intro e he
  simpa [h e he] using hv

end About

/-- The computation calls the listener with such callbacks only, and does nothing else. -/
structure Tells {α : Type} (P : Event → Prop) (m : Prog Listener Error α) : Prop where
  fires : Fires m
  only : ∀ e ∈ fired m, P e

section Tells
variable {α β : Type} {v : String} {P : Event → Prop} {m : Prog Listener Error α}

lemma tells_fire {e : Event} (h : P e) : Tells P (fire e) := by
  refine ⟨fires_fire e,?_⟩
  intro e' he
  rw [fired_fire, List.mem_singleton] at he
  rwa [he]

lemma tells_pure (a : α) : Tells P (pure a : Prog Listener Error α) :=
  ⟨fires_pure a,fun _ he => by cases he⟩

lemma tells_ofExcept (r : Except Error α) : Tells P (Prog.ofExcept r) :=
  ⟨fires_ofExcept r,fun _ he => by cases he⟩

lemma tells_bind (hm : Tells P m) {f : α → Prog Listener Error β} (hf : ∀ a, Tells P (f a)) :
    Tells P (m >>= f) := by
  refine ⟨fires_bind hm.fires fun a => (hf a).fires,?_⟩
  intro e he
  rw [fired_bind hm.fires fun a => (hf a).fires] at he
  rcases List.mem_append.mp he with he | he
  · exact hm.only e he
  · cases ho : outcome m with
    | ok a =>
      rw [ho] at he
      exact (hf a).only e he
    | error err =>
      rw [ho] at he
      cases he

lemma tells_forEach {f : β → Prog Listener Error Unit} (hf : ∀ x, Tells P (f x)) (xs : List β) :
    Tells P (Prog.forEach f xs) := by
  induction xs with
  | nil => exact tells_pure ()
  | cons x xs ih => exact tells_bind (hf x) fun _ => ih

lemma tells_fireAddStream (stype : StreamType) (muted : Option Bool) :
    Tells (fun e => e.userId? = some v) (fireAddStream v stype muted) := by
  cases muted with
  | none => exact tells_pure ()
  | some muted => exact tells_fire rfl

lemma tells_announceUser (tree : List TreeNode) (brief : UserBrief) :
    Tells (fun e => e.userId? = some v) (announceUser v tree brief) := by
  refine tells_bind (tells_fire ?_) fun _ => tells_bind (tells_fireAddStream _ _) fun _ =>
    tells_bind (tells_fireAddStream _ _) fun _ => tells_fireAddStream _ _
  rfl

/-- A callback about a stream of the user. -/
def StreamOf (v : String) (e : Event) : Prop := e.userId? = some v ∧ e.isStream = true

lemma tells_deltaOld (cell : UserCell) (newState : UserState) (x : Sigma fun _ : String => Stream) :
    Tells (StreamOf cell.userId) (cell.deltaOld newState x) := by
  have hfire : ∀ e, StreamOf cell.userId e → Tells (StreamOf cell.userId) (fire e) :=
    fun _ h => tells_fire h
  unfold UserCell.deltaOld
  split
  · split_ifs
    · exact tells_bind (tells_ofExcept _) fun _ => tells_bind (hfire _ ⟨rfl,rfl⟩) fun _ =>
        tells_bind (tells_ofExcept _) fun _ => hfire _ ⟨rfl,rfl⟩
    · exact tells_bind (tells_ofExcept _) fun _ => hfire _ ⟨rfl,rfl⟩
    · exact tells_pure ()
  · exact tells_bind (tells_ofExcept _) fun _ => hfire _ ⟨rfl,rfl⟩

lemma tells_deltaNew (cell : UserCell) (x : Sigma fun _ : String => Stream) :
    Tells (StreamOf cell.userId) (cell.deltaNew x) := by
  unfold UserCell.deltaNew
  split
  · exact tells_pure ()
  · exact tells_bind (tells_ofExcept _) fun _ => tells_fire ⟨rfl,rfl⟩

lemma tells_delta (cell : UserCell) (newState : UserState) :
    Tells (StreamOf cell.userId) (cell.delta newState) :=
  tells_bind (tells_forEach (tells_deltaOld cell newState) _) fun _ =>
    tells_forEach (tells_deltaNew cell) _

lemma tells_handleChat (notice : ChatNotice) :
    Tells (fun e => e.userId? = none) (Room.handleChat notice) := by
  unfold Room.handleChat
  split
  · exact tells_pure ()
  · split
    · exact tells_fire rfl
    · split
      · exact tells_fire rfl
      · exact tells_pure ()

lemma outcome_announceUser (u : String) (tree : List TreeNode) (brief : UserBrief) :
    outcome (announceUser u tree brief) = .ok () := by
  obtain ⟨camera,mic,screen⟩ := brief
  cases camera <;> cases mic <;> cases screen <;> rfl

end Tells

end Listener

namespace Room

open Prog Listener

/-- The part of the room that is about one user. -/
def member (u : String) (r : Room) : Member :=
  ⟨r.users.lookup u,r.gotRoomReady,Event.about u r.listener.log⟩

/-- Every callback succeeds, and every cell is kept under its own user. -/
structure Sound (r : Room) : Prop where
  succeeds : r.listener.Succeeds
  keyed : ∀ u cell, r.users.lookup u = some cell → cell.userId = u

lemma sound_new {answers : ℕ → Except Error Unit} (h : ∀ n, answers n = .ok ()) :
    (new answers).Sound := ⟨h,fun u cell hc => by simp [new] at hc⟩

@[simp] theorem member_new (u : String) (answers : ℕ → Except Error Unit) :
    (new answers).member u = Member.new := rfl

/-- More callbacks. -/
def append (r : Room) (events : List Event) : Room := { r with listener := r.listener.append events }

lemma Sound.append {r : Room} (h : r.Sound) (events : List Event) : (r.append events).Sound :=
  ⟨h.succeeds,h.keyed⟩

lemma run_onListener {α : Type} {m : Prog Listener Error α} (hm : Fires m) {r : Room} (hr : r.Sound) :
    (onListener m).run r = (outcome m,r.append (fired m)) := by
  simp only [onListener, run_zoom, hm _ hr.succeeds]
  rfl

section Step
variable {r : Room} {u v : String}

/-- Callbacks about one user are seen in that user's part only. -/
lemma member_append {es : List Event} (h : AllAbout v es) :
    (r.append es).member u = if u = v then (r.member u).fire es else r.member u := by
  unfold member append
  simp only [Listener.append, about_append]
  split_ifs with huv
  · have hself : Event.about u es = es := about_self (huv ▸ h)
    rw [hself]
    rfl
  · rw [about_other h (Ne.symm huv), List.append_nil]

/-- Callbacks about no user. -/
lemma member_append_none (es : List Event) (h : ∀ e ∈ es, e.userId? = none) :
    (r.append es).member u = r.member u := by
  have hnil : Event.about u es = [] := by
    apply List.filter_eq_nil_iff.mpr
    intro e he
    simp [h e he]
  simp only [member, append, Listener.append, about_append, hnil, List.append_nil]

/-- A cell is put into the map. -/
def withUser (r : Room) (v : String) (cell : UserCell) : Room :=
  { r with users := r.users.insert v cell }

/-- A cell is taken out of the map. -/
def withoutUser (r : Room) (v : String) : Room := { r with users := r.users.erase v }

lemma member_withUser (cell : UserCell) :
    (r.withUser v cell).member u = if u = v then { r.member u with cell := some cell } else r.member u := by
  unfold member withUser
  split_ifs with h
  · rw [h, AList.lookup_insert]
  · rw [AList.lookup_insert_ne h]

lemma member_withoutUser :
    (r.withoutUser v).member u = if u = v then { r.member u with cell := none } else r.member u := by
  unfold member withoutUser
  split_ifs with h
  · rw [h, AList.lookup_erase]
  · rw [AList.lookup_erase_ne h]

lemma Sound.withUser (h : r.Sound) (cell : UserCell) (hc : cell.userId = v) :
    (r.withUser v cell).Sound := by
  refine ⟨h.succeeds,?_⟩
  intro w c hw
  by_cases hwv : w = v
  · rw [Room.withUser, hwv, AList.lookup_insert, Option.some.injEq] at hw
    rw [← hw, hc, hwv]
  · rw [Room.withUser, AList.lookup_insert_ne hwv] at hw
    exact h.keyed w c hw

lemma Sound.withoutUser (h : r.Sound) : (r.withoutUser v).Sound := by
  refine ⟨h.succeeds,?_⟩
  intro w c hw
  by_cases hwv : w = v
  · rw [Room.withoutUser, hwv, AList.lookup_erase] at hw
    cases hw
  · rw [Room.withoutUser, AList.lookup_erase_ne hwv] at hw
    exact h.keyed w c hw

/-- The announcement comes first, and then the streams of the types that the user has. -/
lemma joinEvents_eq (v : String) (user : UserCell) :
    Member.joinEvents v user = .onUserJoined v user.tree ::
      [StreamType.camera,.mic,.screen].filterMap fun t =>
        (user.streamMuted t).map (.onAddStream v t) := by
  unfold Member.joinEvents UserCell.brief
  simp only [List.filterMap_cons, List.filterMap_nil]
  cases user.streamMuted .camera <;> cases user.streamMuted .mic <;>
    cases user.streamMuted .screen <;> rfl

lemma joinEvents_about (v : String) (user : UserCell) : AllAbout v (Member.joinEvents v user) :=
  (tells_announceUser _ _).only

lemma run_fireUserJoined (h : r.Sound) (user : UserCell) :
    (fireUserJoined v user).run r =
      (.ok (),(r.withUser v { user with tree := [] }).append (Member.joinEvents v user)) := by
  unfold fireUserJoined setUser
  rw [run_modify_bind]
  have hs : (r.withUser v { user with tree := [] }).listener.Succeeds := h.succeeds
  simp only [onListener, run_zoom, (tells_announceUser user.tree user.brief).fires _ h.succeeds,
    outcome_announceUser]
  rfl

lemma joinUser_member (h : r.Sound) :
    ((joinUser v).run r).1 = .ok () ∧ ((joinUser v).run r).2.Sound ∧
      ((joinUser v).run r).2.gotRoomReady = r.gotRoomReady ∧
      ((joinUser v).run r).2.member u = if u = v then (r.member u).join u else r.member u := by
  unfold joinUser
  rw [run_get_bind]
  cases hl : r.users.lookup v with
  | none =>
    refine ⟨rfl,h,rfl,?_⟩
    split_ifs with huv
    · subst huv
      simp [Member.join, member, hl]
    · rfl
  | some user =>
    simp only [run_fireUserJoined h]
    refine ⟨trivial,?_,rfl,?_⟩
    · exact (h.withUser { user with tree := [] } (h.keyed v user hl)).append _
    · rw [member_append (joinEvents_about v user), member_withUser]
      split_ifs with huv
      · subst huv
        simp [Member.join, member, hl]
      · rfl

lemma joinUsers_member (h : r.Sound) {keys : List String} (hk : keys.Nodup) :
    ((forEach joinUser keys).run r).2.Sound ∧
      ((forEach joinUser keys).run r).2.member u =
        if u ∈ keys then (r.member u).join u else r.member u := by
  induction keys generalizing r with
  | nil => exact ⟨h,by simp [forEach]⟩
  | cons v keys ih =>
    obtain ⟨hv,hkeys⟩ := List.nodup_cons.mp hk
    obtain ⟨hok,hs,-,hm⟩ := joinUser_member (u := u) (v := v) h
    have hrun : (forEach joinUser (v::keys)).run r =
        (forEach joinUser keys).run ((joinUser v).run r).2 := run_bind_ok (Prod.ext hok rfl)
    obtain ⟨hs',hm'⟩ := ih hs hkeys
    rw [hrun]
    refine ⟨hs',hm'.trans ?_⟩
    rw [hm]
    by_cases huv : u = v
    · subst huv
      simp [hv]
    · simp [huv]

lemma run_setUser_bind {α : Type} (cell : UserCell) (f : Unit → Prog Room Error α) :
    (setUser v cell >>= f).run r = (f ()).run (r.withUser v cell) := rfl

lemma run_removeUser_bind {α : Type} (f : Unit → Prog Room Error α) :
    (removeUser v >>= f).run r = (f ()).run (r.withoutUser v) := rfl

lemma run_fire (h : r.Sound) (e : Event) :
    (onListener (Listener.fire e)).run r = (.ok (),r.append [e]) := run_onListener (fires_fire e) h

lemma about_one {e : Event} (h : e.userId? = some v) : AllAbout v [e] := by
  intro e' he
  rw [List.mem_singleton.mp he, h]

/-- What handling a push about the user `v` must leave: a sound room in which `v` has moved as
`move` says and nobody else has. -/
structure Moves (v : String) (move : Member → Member) (r r' : Room) : Prop where
  sound : r'.Sound
  member : ∀ u, r'.member u = if u = v then move (r.member u) else r.member u

lemma handleUInit_moves (h : r.Sound) : Moves v (Member.onUInit v) r ((handleUInit v).run r).2 := by
  unfold handleUInit
  rw [run_get_bind]
  cases hl : r.users.lookup v with
  | none =>
    refine ⟨h,fun u => ?_⟩
    split_ifs with hu
    · subst hu
      simp [Member.onUInit, Room.member, hl]
    · rfl
  | some user =>
    simp only [run_removeUser_bind, run_fire h.withoutUser]
    refine ⟨h.withoutUser.append _,fun u => ?_⟩
    rw [member_append (about_one rfl), member_withoutUser]
    split_ifs with hu
    · subst hu
      simp [Member.onUInit, Room.member, hl]
    · rfl

lemma handleUReady_moves (h : r.Sound) : Moves v (Member.onUReady v) r ((handleUReady v).run r).2 := by
  unfold handleUReady
  rw [run_get_bind]
  cases hl : r.users.lookup v with
  | none =>
    refine ⟨h,fun u => ?_⟩
    split_ifs with hu
    · subst hu
      simp [Member.onUReady, Room.member, hl]
    · rfl
  | some user =>
    have hs : (r.withUser v { user with stage := .ready }).Sound := h.withUser _ (h.keyed v user hl)
    simp only [run_setUser_bind, run_get_bind]
    by_cases hr : r.gotRoomReady = true
    · have hg : (r.withUser v { user with stage := .ready }).gotRoomReady = true := hr
      simp only [hg, if_true, run_fireUserJoined hs]
      refine ⟨(hs.withUser { user with tree := [], stage := .ready } (h.keyed v user hl)).append _,
        fun u => ?_⟩
      rw [member_append (joinEvents_about _ _), member_withUser, member_withUser]
      split_ifs with hu
      · subst hu
        simp [Member.onUReady, Member.join, Room.member, hl, hr]
      · rfl
    · have hg : ¬ (r.withUser v { user with stage := .ready }).gotRoomReady = true := hr
      simp only [hg, Bool.false_eq_true, if_false, run_pure]
      refine ⟨hs,fun u => ?_⟩
      rw [member_withUser]
      split_ifs with hu
      · subst hu
        simp [Member.onUReady, Room.member, hl, hr]
      · rfl

lemma handleUTree_moves (h : r.Sound) {treeState : TreeState} (hid : treeState.id = some v) :
    Moves v (Member.onUTree v (.ofState treeState)) r ((handleUTree treeState).run r).2 := by
  unfold handleUTree
  simp only [hid, run_get_bind]
  cases hl : r.users.lookup v with
  | none =>
    refine ⟨h,fun u => ?_⟩
    split_ifs with hu
    · subst hu
      simp [Member.onUTree, Room.member, hl]
    · rfl
  | some cell =>
    cases hst : cell.stage with
    | init =>
      simp only [hst]
      refine ⟨h.withUser _ (h.keyed v cell hl),fun u => ?_⟩
      change (r.withUser v _).member u = _
      rw [member_withUser]
      split_ifs with hu
      · subst hu
        simp [Member.onUTree, Room.member, hl, hst]
      · rfl
    | ready =>
      simp only [hst, run_fire h]
      refine ⟨h.append _,fun u => ?_⟩
      rw [member_append (about_one rfl)]
      split_ifs with hu
      · subst hu
        simp [Member.onUTree, Room.member, hl, hst]
      · rfl

/-- The user's cell is taken out, the listener is called, and another cell may be put in. -/
def replaced (r : Room) (v : String) (es : List Event) : Option UserCell → Room
  | none => (r.withoutUser v).append es
  | some cell => ((r.withoutUser v).append es).withUser v cell

@[simp] lemma append_nil : r.append [] = r := by simp [append]

lemma replaced_moves (h : r.Sound) {es : List Event} (hes : AllAbout v es) (cell : Option UserCell)
    (hc : ∀ c, cell = some c → c.userId = v) (move : Member → Member)
    (hmove : move (r.member v) = { r.member v with cell := cell }.fire es) :
    Moves v move r (r.replaced v es cell) := by
  have hout : (r.withoutUser v).Sound := h.withoutUser
  cases cell with
  | none =>
    refine ⟨hout.append _,fun u => ?_⟩
    rw [replaced, member_append hes, member_withoutUser]
    split_ifs with hu
    · rw [hu, hmove]
    · rfl
  | some c =>
    refine ⟨(hout.append _).withUser c (hc c rfl),fun u => ?_⟩
    rw [replaced, member_withUser, member_append hes, member_withoutUser]
    split_ifs with hu
    · rw [hu, hmove]
      rfl
    · rfl

lemma handleUFull_moves (h : r.Sound) (newState : UserState) :
    Moves newState.id (Member.onUFull newState.id newState) r ((handleUFull newState).run r).2 := by
  have hout : (r.withoutUser newState.id).Sound := h.withoutUser
  have hnil : AllAbout newState.id [] := fun _ he => by cases he
  have hleaved : AllAbout newState.id [.onUserLeaved newState.id] := about_one rfl
  unfold handleUFull
  rw [run_get_bind, run_removeUser_bind]
  cases hl : r.users.lookup newState.id with
  | none =>
    have hm := replaced_moves h hnil (some ⟨newState.id,newState,[],.init⟩) (by simp)
      (Member.onUFull newState.id newState)
      (by simp [Member.onUFull, Room.member, hl, Member.fire])
    rw [replaced, append_nil] at hm
    exact hm
  | some cell =>
    have hkey := h.keyed newState.id cell hl
    cases hst : cell.stage with
    | init =>
      simp only [hst]
      by_cases hon : newState.online = true
      · simp only [hon, Bool.not_true, Bool.false_eq_true, if_false]
        have hm := replaced_moves h hnil (some { cell with state := newState, stage := .init })
          (by simpa using hkey) (Member.onUFull newState.id newState)
          (by simp [Member.onUFull, Room.member, hl, Member.fire, hst, hon])
        rw [replaced, append_nil] at hm
        exact hm
      · simp only [hon, Bool.not_false, if_true]
        have hm := replaced_moves h hnil none (by simp) (Member.onUFull newState.id newState)
          (by simp [Member.onUFull, Room.member, hl, Member.fire, hst, hon])
        rw [replaced, append_nil] at hm
        exact hm
    | ready =>
      simp only [hst]
      by_cases hon : newState.online = true
      · simp only [hon, Bool.not_true, Bool.false_eq_true, if_false]
        by_cases hinst : newState.instId = cell.state.instId
        · simp only [hinst, ne_eq, not_true_eq_false, if_false]
          have htells := tells_delta cell newState
          have habout : AllAbout newState.id (fired (cell.delta newState)) :=
            fun e he => hkey ▸ (htells.only e he).1
          rw [run_bind, run_onListener htells.fires hout]
          cases ho : outcome (cell.delta newState) with
          | ok _ =>
            refine replaced_moves h habout (some { cell with state := newState, stage := .ready })
              (by simpa using hkey) _ ?_
            simp [Member.onUFull, Room.member, hl, Member.fire, hst, hon, hinst, ho, Except.isOk,
              Except.toBool]
          | error e =>
            refine replaced_moves h habout none (by simp) _ ?_
            simp [Member.onUFull, Room.member, hl, Member.fire, hst, hon, hinst, ho, Except.isOk,
              Except.toBool]
        · simp only [hinst, ne_eq, not_false_eq_true, if_true, run_bind, run_fire hout]
          refine replaced_moves h hleaved (some { cell with state := newState, stage := .init })
            (by simpa using hkey) _ ?_
          simp [Member.onUFull, Room.member, hl, Member.fire, hst, hon, hinst]
      · simp only [hon, Bool.not_false, if_true, run_fire hout]
        refine replaced_moves h hleaved none (by simp) _ ?_
        simp [Member.onUFull, Room.member, hl, Member.fire, hst, hon]

lemma handleRReady_member (h : r.Sound) (iter : IterOrder) :
    ((handleRReady iter).run r).2.Sound ∧
      ((handleRReady iter).run r).2.member u = (r.member u).onRReady u := by
  have hready : Sound { r.append [.onRoomReady] with gotRoomReady := true } := ⟨h.succeeds,h.keyed⟩
  have hm : member u { r.append [.onRoomReady] with gotRoomReady := true } =
      { r.member u with roomReady := true } := by
    have ha := member_append_none (r := r) (u := u) [.onRoomReady] (by simp [Event.userId?])
    rw [← ha]
    rfl
  have hnodup : (iter.order r.users.keys).Nodup := (iter.perm _).nodup_iff.mpr r.users.keys_nodup
  obtain ⟨hs,hj⟩ := joinUsers_member (u := u) hready hnodup
  have hrun : (handleRReady iter).run r = (forEach joinUser (iter.order r.users.keys)).run
      { r.append [.onRoomReady] with gotRoomReady := true } := by
    unfold handleRReady
    rw [run_bind_ok (run_fire h _), run_modify_bind, run_get_bind]
    rfl
  rw [hrun]
  refine ⟨hs,hj.trans ?_⟩
  rw [hm]
  split_ifs with hu
  · rfl
  · have hnone : r.users.lookup u = none := by
      rw [AList.lookup_eq_none]
      exact fun hmem => hu ((iter.perm _).mem_iff.mpr hmem)
    simp [Member.onRReady, Member.join, member, hnone]

/-- One push: the room stays sound, and every user takes its own step. -/
theorem step_member (h : r.Sound) (x : Received) (u : String) :
    (r.step x).Sound ∧ (r.step x).member u = (r.member u).step u x := by
  obtain ⟨push,iter⟩ := x
  cases push with
  | closed status => exact ⟨h,rfl⟩
  | chat notice =>
    simp only [step, handleServerPush, run_onListener (tells_handleChat notice).fires h]
    exact ⟨h.append _,member_append_none _ (tells_handleChat notice).only⟩
  | uInit id =>
    have hm := handleUInit_moves (v := id) h
    refine ⟨hm.sound,(hm.member u).trans ?_⟩
    simp only [Member.step, eq_comm]
    split_ifs with hu
    · rw [hu]
    · rfl
  | uReady id =>
    have hm := handleUReady_moves (v := id) h
    refine ⟨hm.sound,(hm.member u).trans ?_⟩
    simp only [Member.step, eq_comm]
    split_ifs with hu
    · rw [hu]
    · rfl
  | uFull newState =>
    have hm := handleUFull_moves h newState
    refine ⟨hm.sound,(hm.member u).trans ?_⟩
    simp only [Member.step, eq_comm]
    split_ifs with hu
    · rw [hu]
    · rfl
  | uTree treeState =>
    cases hid : treeState.id with
    | none =>
      have hrun : r.step ⟨.uTree treeState,iter⟩ = r := by
        simp [step, handleServerPush, handleUTree, hid]
      rw [hrun]
      exact ⟨h,by simp [Member.step, hid]⟩
    | some id =>
      have hm := handleUTree_moves h hid
      refine ⟨hm.sound,(hm.member u).trans ?_⟩
      simp only [Member.step, hid, Option.some.injEq, eq_comm]
      split_ifs with hu
      · rw [hu]
      · rfl
  | rTree treeState =>
    simp only [step, handleServerPush, run_fire h]
    exact ⟨h.append _,member_append_none _ (by simp [Event.userId?])⟩
  | rReady id => exact handleRReady_member h iter

/-- Whole runs: a user of the room moves as its own machine does. -/
theorem run_member {answers : ℕ → Except Error Unit} (h : ∀ n, answers n = .ok ()) (u : String)
    (xs : List Received) :
    (Machine.run step (new answers) xs).member u = Machine.run (Member.step u) Member.new xs :=
  Machine.run_map (I := Sound) (f := member u) (fun _ x hr => (step_member hr x u).1) (fun _ x hr =>
    (step_member hr x u).2) (sound_new h) xs

/-- What every step of a user's machine does, every step of the room does for the user. -/
theorem everyStep_member {answers : ℕ → Except Error Unit} (h : ∀ n, answers n = .ok ()) (u : String)
    {Q : Member → Received → Prop} (xs : List Received) :
    Machine.EveryStep step (fun r x => Q (r.member u) x) (new answers) xs ↔
      Machine.EveryStep (Member.step u) Q Member.new xs :=
  Machine.everyStep_map (I := Sound) (f := member u) (fun _ x hr => (step_member hr x u).1)
    (fun _ x hr => (step_member hr x u).2) (sound_new h) xs

end Step

end Room
end VvClient
