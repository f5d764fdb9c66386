import VvClient.Glue.Member

/-! The tree of a user: its nodes wait in the cell until the user is announced, and go straight to
the listener afterwards. -/
namespace VvClient

open Machine Listener

/-- The nodes that a callback hands to the listener. -/
def Event.treeNodes : Event → List TreeNode
  | onUserJoined _ tree => tree
  | onUpdateUserTree _ node => [node]
  | _ => []

namespace Member

/-- The nodes of the user that the listener was handed, in the order of the callbacks. -/
def treeNodes (m : Member) : List TreeNode := m.events.flatMap Event.treeNodes

variable {u : String}

lemma fire_treeNodes (m : Member) (es : List Event) :
    (m.fire es).treeNodes = m.treeNodes ++ es.flatMap Event.treeNodes := by
  simp [fire, treeNodes, List.flatMap_append]

lemma joinEvents_treeNodes (user : UserCell) :
    (joinEvents u user).flatMap Event.treeNodes = user.tree := by
  rw [Room.joinEvents_eq, List.flatMap_cons]
  have hnil : ([StreamType.camera,.mic,.screen].filterMap fun t =>
      (user.streamMuted t).map (Event.onAddStream u t)).flatMap Event.treeNodes = [] := by
    rw [List.flatMap_eq_nil_iff]
    intro e he
    obtain ⟨t,-,ht⟩ := List.mem_filterMap.mp he
    obtain ⟨muted,-,rfl⟩ := Option.map_eq_some_iff.mp ht
    rfl
  rw [hnil]
  exact List.append_nil _

lemma join_treeNodes {m : Member} {user : UserCell} (hc : m.cell = some user) :
    (m.join u).treeNodes = m.treeNodes ++ user.tree := by
  rw [join, hc]
  exact (fire_treeNodes _ _).trans (congrArg _ (joinEvents_treeNodes user))

lemma onRReady_treeNodes {m : Member} {user : UserCell} (hc : m.cell = some user) :
    (m.onRReady u).treeNodes = m.treeNodes ++ user.tree :=
  join_treeNodes hc (m := { m with roomReady := true })

/-- `delta` hands over no nodes. -/
lemma delta_treeNodes (cell : UserCell) (newState : UserState) :
    (fired (cell.delta newState)).flatMap Event.treeNodes = [] := by
  rw [List.flatMap_eq_nil_iff]
  intro e he
  have hs := ((tells_delta cell newState).only e he).2
  cases e with
  | onAddStream => rfl
  | onUpdateStream => rfl
  | onRemoveStream => rfl
  | _ => cases hs

end Member

/-- The room, with what came in for one user's tree since the user's cell was created or its
instance changed, and how many nodes were handed over before that. -/
structure TreeWatch where
  room : Room
  received : List TreeNode
  skip : ℕ

namespace TreeWatch

variable (u : String)

def new (answers : ℕ → Except Error Unit) : TreeWatch := ⟨Room.new answers,[],0⟩

/-- The push creates the user's cell, or changes the instance in it. -/
def starts (cell? : Option UserCell) (x : Room.Received) : Bool :=
  match x.push with
  | .uFull newState =>
    newState.id = u &&
      match cell? with
      | none => true
      | some cell => newState.online && newState.instId ≠ cell.state.instId
  | _ => false

/-- The node that a push brings for the user. -/
def brings (x : Room.Received) : List TreeNode :=
  match x.push with
  | .uTree treeState => if treeState.id = some u then [.ofState treeState] else []
  | _ => []

def step (w : TreeWatch) (x : Room.Received) : TreeWatch :=
  if starts u (w.room.users.lookup u) x then
    ⟨w.room.step x,brings u x,(w.room.member u).treeNodes.length⟩
  else ⟨w.room.step x,w.received ++ brings u x,w.skip⟩

/-- The nodes handed over since the start. -/
def handed (w : TreeWatch) : List TreeNode := (w.room.member u).treeNodes.drop w.skip

/-- The listener was handed the first of the received nodes, in order and each once. -/
def Faithful (w : TreeWatch) : Prop := w.handed u <+: w.received

/-- No node overtakes those that wait in the cell, and none waits when the instance changes. -/
def KeepsPlace (cell? : Option UserCell) (x : Room.Received) : Prop :=
  ∀ cell, cell? = some cell →
    match x.push with
    | .uTree treeState => treeState.id = some u → cell.stage = .ready → cell.tree = []
    | .uFull newState =>
      newState.id = u → newState.online = true → newState.instId ≠ cell.state.instId → cell.tree = []
    | _ => True

def Kept (w : TreeWatch) (x : Room.Received) : Prop := KeepsPlace u (w.room.users.lookup u) x

end TreeWatch

/-- What was received and not yet handed over waits in the cell. -/
structure TreeInv (m : Member) (received : List TreeNode) (skip : ℕ) : Prop where
  counted : skip ≤ m.treeNodes.length
  waits : ∀ cell, m.cell = some cell → received = m.treeNodes.drop skip ++ cell.tree
  gone : m.cell = none → m.treeNodes.drop skip <+: received

namespace TreeInv

variable {u : String} {m : Member} {received : List TreeNode} {skip : ℕ}

lemma faithful (h : TreeInv m received skip) : m.treeNodes.drop skip <+: received := by
  cases hc : m.cell with
  | none => exact h.gone hc
  | some cell => exact ⟨cell.tree,(h.waits cell hc).symm⟩

/-- The cell goes away, with callbacks that hand over no nodes. -/
lemma leave (h : TreeInv m received skip) {m' : Member} (hc : m'.cell = none)
    (hn : m'.treeNodes = m.treeNodes) : TreeInv m' received skip :=
  ⟨hn ▸ h.counted,by simp [hc],fun _ => hn ▸ h.faithful⟩

/-- The waiting nodes stay as they are. -/
lemma stay (h : TreeInv m received skip) {m' : Member} {cell cell' : UserCell}
    (hc : m.cell = some cell) (hc' : m'.cell = some cell') (ht : cell'.tree = cell.tree)
    (hn : m'.treeNodes = m.treeNodes) : TreeInv m' received skip := by
  refine ⟨hn ▸ h.counted,?_,by simp [hc']⟩
  intro c hcc
  rw [hc'] at hcc
  cases hcc
  rw [hn, ht]
  exact h.waits cell hc

lemma join (h : TreeInv m received skip) : TreeInv (m.join u) received skip := by
  cases hc : m.cell with
  | none =>
    rw [Member.join, hc]
    exact h
  | some user =>
    have hcell : (m.join u).cell = some { user with tree := [] } := by
      rw [Member.join, hc]
      rfl
    refine ⟨?_,?_,by simp [hcell]⟩
    · rw [Member.join_treeNodes hc, List.length_append]
      exact Nat.le_add_right_of_le h.counted
    · intro c hcc
      cases hcell.symm.trans hcc
      rw [Member.join_treeNodes hc, List.drop_append_of_le_length h.counted, List.append_nil]
      exact h.waits user hc

/-- Nothing was received or handed over since a start. -/
lemma start {m' : Member} (hn : m'.treeNodes = m.treeNodes)
    (hc : ∀ cell, m'.cell = some cell → cell.tree = []) : TreeInv m' [] m.treeNodes.length := by
  refine ⟨ge_of_eq (congrArg List.length hn),?_,?_⟩
  · intro cell hcell
    rw [hc cell hcell, List.append_nil, hn, List.drop_length]
  · intro _
    simp only [hn, List.drop_length, List.nil_prefix]

lemma onUReady (h : TreeInv m received skip) : TreeInv (m.onUReady u) received skip := by
  unfold Member.onUReady
  cases hc : m.cell with
  | none => exact h
  | some user =>
    have hs : TreeInv { m with cell := some { user with stage := .ready } } received skip :=
      h.stay hc rfl rfl rfl
    simp only
    split_ifs
    · exact hs.join
    · exact hs

lemma onUInit (h : TreeInv m received skip) : TreeInv (m.onUInit u) received skip := by
  unfold Member.onUInit
  cases hc : m.cell with
  | none => exact h
  | some user => exact h.leave rfl ((Member.fire_treeNodes _ _).trans (List.append_nil _))

/-- A node comes in: it waits, or it goes to the listener when none waits. -/
lemma onUTree (h : TreeInv m received skip) (node : TreeNode)
    (hk : ∀ cell, m.cell = some cell → cell.stage = .ready → cell.tree = []) :
    TreeInv (m.onUTree u node) (received ++ [node]) skip := by
  unfold Member.onUTree
  cases hc : m.cell with
  | none => exact ⟨h.counted,by simp [hc],fun _ => h.faithful.trans (List.prefix_append _ _)⟩
  | some cell =>
    cases hs : cell.stage with
    | init =>
      simp only [hs]
      refine ⟨h.counted,?_,by simp⟩
      intro c hcc
      cases hcc
      rw [h.waits cell hc, List.append_assoc]
      rfl
    | ready =>
      simp only [hs]
      have hn : (m.fire [.onUpdateUserTree u node]).treeNodes = m.treeNodes ++ [node] :=
        Member.fire_treeNodes _ _
      refine ⟨?_,?_,by simp [Member.fire, hc]⟩
      · rw [hn, List.length_append]
        exact Nat.le_add_right_of_le h.counted
      · intro c hcc
        have hcell : some cell = some c := hc.symm.trans hcc
        cases hcell
        rw [hn, List.drop_append_of_le_length h.counted, h.waits cell hc, hk cell hc hs]
        simp

/-- A full state without a change of the instance leaves the waiting nodes alone. -/
lemma onUFull (h : TreeInv m received skip) (newState : UserState) {cell : UserCell}
    (hc : m.cell = some cell) (hsame : newState.online = true → newState.instId = cell.state.instId) :
    TreeInv (m.onUFull u newState) received skip := by
  unfold Member.onUFull
  simp only [hc]
  cases hon : newState.online with
  | false =>
    cases hs : cell.stage with
    | init => exact h.leave rfl rfl
    | ready => exact h.leave rfl ((Member.fire_treeNodes _ _).trans (List.append_nil _))
  | true =>
    cases hs : cell.stage with
    | init => exact h.stay hc rfl rfl rfl
    | ready =>
      have hn : ∀ c, ({ m with cell := c }.fire (fired (cell.delta newState))).treeNodes =
          m.treeNodes := by
        intro c
        rw [Member.fire_treeNodes, Member.delta_treeNodes, List.append_nil]
        rfl
      simp only [hsame hon, ne_eq, not_true_eq_false, Bool.not_true, Bool.false_eq_true, if_false]
      split_ifs
      · exact h.stay hc rfl rfl (hn _)
      · exact h.leave rfl (hn _)

/-- A full state that creates the cell or changes the instance starts anew. -/
lemma onUFull_start (newState : UserState)
    (hk : ∀ cell, m.cell = some cell → newState.online = true ∧
      newState.instId ≠ cell.state.instId ∧ cell.tree = []) :
    TreeInv (m.onUFull u newState) [] m.treeNodes.length := by
  unfold Member.onUFull
  cases hc : m.cell with
  | none =>
    refine start rfl ?_
    rintro c hcc
    cases hcc
    rfl
  | some cell =>
    obtain ⟨hon,hinst,ht⟩ := hk cell hc
    cases hs : cell.stage with
    | init =>
      simp only [hs, hon, if_true]
      refine start rfl ?_
      rintro c hcc
      cases hcc
      exact ht
    | ready =>
      simp only [hs, hon, Bool.not_true, Bool.false_eq_true, if_false, ne_eq, hinst,
        not_false_eq_true, if_true]
      refine start ((Member.fire_treeNodes _ _).trans (List.append_nil _)) ?_
      rintro c hcc
      cases hcc
      exact ht

open TreeWatch in
/-- One push that starts nothing. -/
lemma step (h : TreeInv m received skip) {x : Room.Received} (hk : KeepsPlace u m.cell x)
    (hs : starts u m.cell x = false) : TreeInv (m.step u x) (received ++ brings u x) skip := by
  obtain ⟨push,iter⟩ := x
  unfold Member.step brings
  cases push with
  | uInit id =>
    simp only [List.append_nil]
    split_ifs
    · exact h.onUInit
    · exact h
  | uReady id =>
    simp only [List.append_nil]
    split_ifs
    · exact h.onUReady
    · exact h
  | uFull newState =>
    simp only [List.append_nil]
    split_ifs with hid
    · cases hc : m.cell with
      | none => simp [starts, hc, hid] at hs
      | some cell =>
        refine h.onUFull newState hc fun hon => ?_
        simpa [starts, hc, hid, hon] using hs
    · exact h
  | uTree treeState =>
    simp only
    split_ifs with hid
    · exact h.onUTree _ fun cell hc hready => hk cell hc hid hready
    · simpa using h
  | rReady id =>
    simp only [List.append_nil]
    have hr : TreeInv { m with roomReady := true } received skip := ⟨h.counted,h.waits,h.gone⟩
    exact hr.join
  | _ => simpa using h

open TreeWatch in
/-- One push that starts the user's tree anew. -/
lemma step_start {x : Room.Received} (hk : KeepsPlace u m.cell x) (hs : starts u m.cell x = true) :
    TreeInv (m.step u x) (brings u x) m.treeNodes.length := by
  obtain ⟨push,iter⟩ := x
  cases push with
  | uFull newState =>
    obtain ⟨hid,hcell⟩ : newState.id = u ∧ _ := by
      simpa only [starts, Bool.and_eq_true, decide_eq_true_eq] using hs
    simp only [Member.step, hid, if_true]
    refine onUFull_start newState fun cell hc => ?_
    simp only [hc, Bool.and_eq_true, decide_eq_true_eq] at hcell
    exact ⟨hcell.1,hcell.2,hk cell hc hid hcell.1 hcell.2⟩
  | _ => cases hs

end TreeInv

namespace TreeWatch

variable {u : String} {w : TreeWatch}

/-- The room is sound, and the user's nodes are where they should be. -/
structure Watched (u : String) (w : TreeWatch) : Prop where
  sound : w.room.Sound
  nodes : TreeInv (w.room.member u) w.received w.skip

lemma watched_new {answers : ℕ → Except Error Unit} (h : ∀ n, answers n = .ok ()) :
    (new answers).Watched u := by
  refine ⟨Room.sound_new h,Nat.le_refl _,?_,fun _ => List.nil_prefix⟩
  intro cell hc
  cases hc

lemma step_of_not_starts {x : Room.Received} (hs : starts u (w.room.users.lookup u) x = false) :
    w.step u x = ⟨w.room.step x,w.received ++ brings u x,w.skip⟩ := by
  rw [TreeWatch.step, hs, if_neg Bool.false_ne_true]

lemma step_of_starts {x : Room.Received} (hs : starts u (w.room.users.lookup u) x = true) :
    w.step u x = ⟨w.room.step x,brings u x,(w.room.member u).treeNodes.length⟩ := by
  rw [TreeWatch.step, hs, if_pos rfl]

lemma Watched.step (h : w.Watched u) {x : Room.Received} (hk : w.Kept u x) :
    (w.step u x).Watched u := by
  obtain ⟨hsound,hmember⟩ := Room.step_member h.sound x u
  have hkept : KeepsPlace u (w.room.member u).cell x := hk
  cases hs : starts u (w.room.users.lookup u) x with
  | true =>
    have hnodes := TreeInv.step_start hkept hs
    rw [← hmember] at hnodes
    rw [step_of_starts hs]
    exact ⟨hsound,hnodes⟩
  | false =>
    have hnodes := h.nodes.step hkept hs
    rw [← hmember] at hnodes
    rw [step_of_not_starts hs]
    exact ⟨hsound,hnodes⟩

/-- A node that goes straight to the listener. -/
lemma step_uTree (hsound : w.room.Sound) {cell : UserCell} (hc : (w.room.member u).cell = some cell)
    (hs : cell.stage = .ready) {treeState : TreeState} (hid : treeState.id = some u)
    (iter : IterOrder) :
    (w.step u ⟨.uTree treeState,iter⟩).room.Sound ∧
      ((w.step u ⟨.uTree treeState,iter⟩).room.member u) =
        (w.room.member u).fire [.onUpdateUserTree u (.ofState treeState)] ∧
      (w.step u ⟨.uTree treeState,iter⟩).received = w.received ++ [.ofState treeState] ∧
      (w.step u ⟨.uTree treeState,iter⟩).skip = w.skip := by
  obtain ⟨hsound',hmember⟩ := Room.step_member hsound ⟨.uTree treeState,iter⟩ u
  rw [step_of_not_starts rfl]
  refine ⟨hsound',hmember.trans ?_,?_,rfl⟩
  · simp only [Member.step, hid, if_true, Member.onUTree, hc, hs]
  · simp only [brings, hid, if_true]

/-- Some node of the user is not the given one. -/
lemma exists_treeState_ne (u : String) (node? : Option TreeNode) :
    ∃ treeState : TreeState, treeState.id = some u ∧ node? ≠ some (.ofState treeState) := by
  by_cases h : node? = some ⟨"",none,some true⟩
  · refine ⟨⟨"",none,some u,some false⟩,rfl,fun h' => ?_⟩
    cases h.symm.trans h'
  · exact ⟨⟨"",none,some u,some true⟩,rfl,h⟩

/-- A node that overtakes the nodes that wait: the one after it shows the disorder. -/
lemma Watched.lose_uTree (h : w.Watched u) {cell : UserCell}
    (hc : (w.room.member u).cell = some cell) (hs : cell.stage = .ready) (ht : cell.tree ≠ [])
    {treeState : TreeState} (hid : treeState.id = some u) (iter : IterOrder) :
    ∃ xs, ¬ (run (TreeWatch.step u) (w.step u ⟨.uTree treeState,iter⟩) xs).Faithful u := by
  obtain ⟨node,nodes,hcons⟩ := List.exists_cons_of_ne_nil ht
  obtain ⟨next,hnext,hne⟩ := exists_treeState_ne u (nodes ++ [TreeNode.ofState treeState]).head?
  obtain ⟨hsound,hm,hr,hk⟩ := step_uTree h.sound hc hs hid iter
  have hc' : ((w.step u ⟨.uTree treeState,iter⟩).room.member u).cell = some cell := by
    rw [hm]
    exact hc
  obtain ⟨-,hm',hr',hk'⟩ := step_uTree hsound hc' hs hnext iter
  refine ⟨[⟨.uTree next,iter⟩],fun hf => ?_⟩
  change List.IsPrefix (List.drop _ (Member.treeNodes _)) _ at hf
  rw [run_cons, run_nil, hm', hr', hk', hm, hr, hk, Member.fire_treeNodes, Member.fire_treeNodes,
    List.append_assoc, List.drop_append_of_le_length h.nodes.counted, h.nodes.waits cell hc, hcons,
    List.append_assoc, List.append_assoc, List.prefix_append_right_inj] at hf
  simp only [List.flatMap_cons, List.flatMap_nil, Event.treeNodes, List.append_nil, List.cons_append,
    List.nil_append, List.cons_prefix_cons] at hf
  cases nodes with
  | nil =>
    simp only [List.nil_append, List.cons_prefix_cons] at hf
    exact hne (congrArg some hf.2.1.symm)
  | cons second nodes =>
    simp only [List.cons_append, List.cons_prefix_cons] at hf
    exact hne (congrArg some hf.2.1.symm)

/-- A new instance with nodes of the old one waiting: when it is announced they are handed over. -/
lemma Watched.lose_uFull (h : w.Watched u) {cell : UserCell}
    (hc : (w.room.member u).cell = some cell) (ht : cell.tree ≠ []) {newState : UserState}
    (hid : newState.id = u) (hon : newState.online = true)
    (hinst : newState.instId ≠ cell.state.instId) (iter : IterOrder) :
    ∃ xs, ¬ (run (TreeWatch.step u) (w.step u ⟨.uFull newState,iter⟩) xs).Faithful u := by
  obtain ⟨hsound,hm⟩ := Room.step_member h.sound ⟨.uFull newState,iter⟩ u
  obtain ⟨-,hm'⟩ := Room.step_member hsound ⟨.rReady "",iter⟩ u
  have hstart : starts u (w.room.users.lookup u) ⟨.uFull newState,iter⟩ = true := by
    have hc' : w.room.users.lookup u = some cell := hc
    simp [starts, hid, hc', hon, hinst]
  obtain ⟨cell',hc',ht',hn⟩ : ∃ cell' : UserCell,
      ((w.room.member u).step u ⟨.uFull newState,iter⟩).cell = some cell' ∧ cell'.tree = cell.tree ∧
      ((w.room.member u).step u ⟨.uFull newState,iter⟩).treeNodes = (w.room.member u).treeNodes := by
    simp only [Member.step, hid, if_true, Member.onUFull, hc]
    cases hs : cell.stage with
    | init =>
      simp only [hon, if_true]
      exact ⟨_,rfl,rfl,rfl⟩
    | ready =>
      simp only [hon, Bool.not_true, Bool.false_eq_true, if_false, ne_eq, hinst, not_false_eq_true,
        if_true]
      exact ⟨_,rfl,rfl,(Member.fire_treeNodes _ _).trans (List.append_nil _)⟩
  refine ⟨[⟨.rReady "",iter⟩],fun hf => ht ?_⟩
  rw [run_cons, run_nil, step_of_starts hstart, step_of_not_starts rfl] at hf
  change List.drop _ (Member.treeNodes _) <+: [] at hf
  have hlast : (((w.room.member u).step u ⟨.uFull newState,iter⟩).step u ⟨.rReady "",iter⟩).treeNodes =
      (w.room.member u).treeNodes ++ cell.tree := by
    rw [← hn, ← ht']
    exact Member.onRReady_treeNodes hc'
  rw [hm', hm, hlast, List.drop_append_of_le_length (Nat.le_refl _), List.drop_length,
    List.nil_append] at hf
  exact List.prefix_nil.mp hf

lemma Watched.lose (h : w.Watched u) (x : Room.Received) (hk : ¬ w.Kept u x) :
    ∃ xs, ¬ (run (TreeWatch.step u) (w.step u x) xs).Faithful u := by
  obtain ⟨push,iter⟩ := x
  unfold Kept KeepsPlace at hk
  simp only [not_forall] at hk
  obtain ⟨cell,hc,hk⟩ := hk
  have hcell : (w.room.member u).cell = some cell := hc
  cases push with
  | uTree treeState =>
    simp only [Classical.not_imp] at hk
    obtain ⟨hid,hs,ht⟩ := hk
    exact h.lose_uTree hcell hs ht hid iter
  | uFull newState =>
    simp only [Classical.not_imp] at hk
    obtain ⟨hid,hon,hinst,ht⟩ := hk
    exact h.lose_uFull hcell ht hid hon hinst iter
  | _ => exact absurd trivial hk

/-- Whole runs on which the callbacks succeed: as long as every push is kept in its place, the
listener has, at every moment, the first of the received nodes in order and each once. Any other
push can be followed by some with which it has not. -/
theorem faithful_exact {answers : ℕ → Except Error Unit} (h : ∀ n, answers n = .ok ()) (u : String) :
    Exact (step u) (Kept u) (Faithful u) (new answers) :=
  exact_of_invariant (fun _ hw => hw.nodes.faithful) (fun _ _ hw hx => hw.step hx)
    (fun _ x hw hx => hw.lose x hx) (watched_new h)

section Sample

def sampleState : UserState := ⟨"u",true,∅,none,"i"⟩

/-- A node for the user's tree, with the path alone. -/
def sampleNode (path : String) : TreeState := ⟨path,none,some "u",none⟩

/-- One node comes in before the user is announced, one after. -/
theorem faithful_exact_join :
    EveryStep (step "u") (Kept "u") (new fun _ => .ok ()) (Room.received [.uFull sampleState,
        .uTree (sampleNode "a"),.rReady "r",.uReady "u",.uTree (sampleNode "b")]) ∧
      Always (step "u") (Faithful "u") (new fun _ => .ok ()) (Room.received [.uFull sampleState,
        .uTree (sampleNode "a"),.rReady "r",.uReady "u",.uTree (sampleNode "b")]) := by
  have hk : EveryStep (step "u") (Kept "u") (new fun _ => .ok ())
      (Room.received [.uFull sampleState,.uTree (sampleNode "a"),.rReady "r",.uReady "u",
        .uTree (sampleNode "b")]) := by
    refine ⟨?_,?_,?_,?_,?_,trivial⟩
    · intro cell hc
      cases hc
    · intro cell hc _ hs
      cases hc
      cases hs
    · exact fun _ _ => trivial
    · exact fun _ _ => trivial
    · intro cell hc _ _
      cases hc
      rfl
  exact ⟨hk,(faithful_exact (fun _ => rfl) "u").keeps _ hk⟩

/-- A node that comes in between the user and the room being ready overtakes the one that waits. -/
theorem later_node_first :
    ¬ Always (step "u") (Faithful "u") (new fun _ => .ok ()) (Room.received [.uFull sampleState,
      .uTree (sampleNode "a"),.uReady "u",.uTree (sampleNode "b")]) := by
  intro h
  have hlast := h.last
  revert hlast
  unfold Faithful
  decide

end Sample

end TreeWatch
end VvClient
