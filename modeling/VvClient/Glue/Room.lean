import Mathlib.Data.List.AList
import VvClient.Glue.Listener

/-! The users that the delegate knows, and how it handles the pushes of the server: it keeps the
users up to date and tells the listener. -/
namespace VvClient

inductive UserStage
  | init
  | ready
  deriving DecidableEq, Repr

structure UserCell where
  userId : String
  state : UserState
  tree : List TreeNode
  stage : UserStage

structure UserBrief where
  cameraMuted : Option Bool
  micMuted : Option Bool
  screenMuted : Option Bool
  deriving DecidableEq, Repr

/-- `StreamType::from_value` with its error. -/
def StreamType.tryFromValue (value : ℤ) : Except Error StreamType :=
  match fromValue value with
  | some stype => .ok stype
  | none => .error (.msg ("invalid StreamType [" ++ toString value ++ "]"))

namespace UserCell

/-- The first loop of `delta`, at one stream of the old state. -/
def deltaOld (cell : UserCell) (newState : UserState) (x : Sigma fun _ : String => Stream) :
    Prog Listener Error Unit :=
  match newState.streams.lookup x.1 with
  | some newStream =>
    if x.2.producerId ≠ newStream.producerId then do
      let stype ← Prog.ofExcept (StreamType.tryFromValue x.2.stype)
      Listener.fire (.onRemoveStream cell.userId stype)
      let stype ← Prog.ofExcept (StreamType.tryFromValue newStream.stype)
      Listener.fire (.onAddStream cell.userId stype newStream.muted)
    else if x.2.muted ≠ newStream.muted then do
      let stype ← Prog.ofExcept (StreamType.tryFromValue x.2.stype)
      Listener.fire (.onUpdateStream cell.userId stype newStream.muted)
    else pure ()
  | none => do
    let stype ← Prog.ofExcept (StreamType.tryFromValue x.2.stype)
    Listener.fire (.onRemoveStream cell.userId stype)

/-- The second loop of `delta`, at one stream of the new state. -/
def deltaNew (cell : UserCell) (x : Sigma fun _ : String => Stream) : Prog Listener Error Unit :=
  match cell.state.streams.lookup x.1 with
  | some _ => pure ()
  | none => do
    let stype ← Prog.ofExcept (StreamType.tryFromValue x.2.stype)
    Listener.fire (.onAddStream cell.userId stype x.2.muted)

def delta (cell : UserCell) (newState : UserState) : Prog Listener Error Unit := do
  Prog.forEach (cell.deltaOld newState) cell.state.streams.entries
  Prog.forEach cell.deltaNew newState.streams.entries

/-- The first stream of a type that an iteration finds. -/
def streamMuted (cell : UserCell) (stype : StreamType) : Option Bool :=
  (cell.state.streams.entries.find? fun x => x.2.stype = stype.value).map fun x => x.2.muted

def brief (cell : UserCell) : UserBrief :=
  ⟨cell.streamMuted .camera,cell.streamMuted .mic,cell.streamMuted .screen⟩

end UserCell

/-- One of the three streams that `fire_user_joined` adds. -/
def fireAddStream (userId : String) (stype : StreamType) : Option Bool → Prog Listener Error Unit
  | some muted => Listener.fire (.onAddStream userId stype muted)
  | none => pure ()

/-- The calls of `fire_user_joined` for a user whose tree was taken out already. -/
def announceUser (userId : String) (tree : List TreeNode) (brief : UserBrief) :
    Prog Listener Error Unit := do
  Listener.fire (.onUserJoined userId tree)
  fireAddStream userId .camera brief.cameraMuted
  fireAddStream userId .mic brief.micMuted
  fireAddStream userId .screen brief.screenMuted

/-- `strip_prefix` -/
def stripPrefix (pre s : String) : Option String :=
  if pre.toList <+: s.toList then some (String.ofList (s.toList.drop pre.length)) else none

/-- `CHAT_DIV`, `USER_PREFIX` and `ROOM_PREFIX` -/
def userPrefix : String := "u."
def roomPrefix : String := "r."

/-- The order in which an iteration over a map meets its keys. -/
structure IterOrder where
  order : List String → List String
  perm : ∀ keys, (order keys).Perm keys

/-- The part of `DelegateImpl` that the pushes of the server are about. -/
structure Room where
  listener : Listener
  users : HashMap String UserCell
  gotRoomReady : Bool

namespace Room

/-- A room that nothing is known of yet. -/
def new (answers : ℕ → Except Error Unit) : Room := ⟨⟨[],answers⟩,∅,false⟩

def onListener {α : Type} (m : Prog Listener Error α) : Prog Room Error α :=
  Prog.zoom listener (fun l r => { r with listener := l }) m

def setUser (userId : String) (cell : UserCell) : Prog Room Error Unit :=
  Prog.modify fun r => { r with users := r.users.insert userId cell }

def removeUser (userId : String) : Prog Room Error Unit :=
  Prog.modify fun r => { r with users := r.users.erase userId }

/-- The tree is taken out of the cell before the first call. -/
def fireUserJoined (userId : String) (user : UserCell) : Prog Room Error Unit := do
  setUser userId { user with tree := [] }
  onListener (announceUser userId user.tree user.brief)

def handleChat (notice : ChatNotice) : Prog Listener Error Unit :=
  match stripPrefix userPrefix notice.fromId with
  | none => pure ()
  | some fromUserId =>
    match stripPrefix roomPrefix notice.toId with
    | some roomId => Listener.fire (.onRoomChat ⟨fromUserId,roomId,notice.body⟩)
    | none =>
      match stripPrefix userPrefix notice.toId with
      | some toUserId => Listener.fire (.onUserChat ⟨fromUserId,toUserId,notice.body⟩)
      | none => pure ()

def handleUInit (userId : String) : Prog Room Error Unit := do
  match (← Prog.get).users.lookup userId with
  | none => pure ()
  | some _ =>
    removeUser userId
    onListener (Listener.fire (.onUserLeaved userId))

def handleUReady (userId : String) : Prog Room Error Unit := do
  match (← Prog.get).users.lookup userId with
  | none => pure ()
  | some user =>
    let user : UserCell := { user with stage := .ready }
    setUser userId user
    if (← Prog.get).gotRoomReady then fireUserJoined userId user else pure ()

/-- The cell is out of the map while it is worked on, and put back at the end. -/
def handleUFull (newState : UserState) : Prog Room Error Unit := do
  let r := (← Prog.get).users.lookup newState.id
  removeUser newState.id
  match r with
  | none => setUser newState.id ⟨newState.id,newState,[],.init⟩
  | some cell =>
    match cell.stage with
    | .init =>
      if !newState.online then pure ()
      else setUser newState.id { cell with state := newState }
    | .ready =>
      if !newState.online then onListener (Listener.fire (.onUserLeaved newState.id))
      else if newState.instId ≠ cell.state.instId then do
        onListener (Listener.fire (.onUserLeaved newState.id))
        setUser newState.id { cell with state := newState, stage := .init }
      else do
        onListener (cell.delta newState)
        setUser newState.id { cell with state := newState }

def handleUTree (treeState : TreeState) : Prog Room Error Unit :=
  match treeState.id with
  | none => Prog.fail (.msg "no user_id in user tree")
  | some userId => do
    match (← Prog.get).users.lookup userId with
    | none => pure ()
    | some cell =>
      match cell.stage with
      | .init => setUser userId { cell with tree := cell.tree ++ [.ofState treeState] }
      | .ready => onListener (Listener.fire (.onUpdateUserTree userId (.ofState treeState)))

/-- One turn of the loop over the users that the room being ready starts. -/
def joinUser (userId : String) : Prog Room Error Unit := do
  match (← Prog.get).users.lookup userId with
  | none => pure ()
  | some user => fireUserJoined userId user

def handleRReady (iter : IterOrder) : Prog Room Error Unit := do
  onListener (Listener.fire .onRoomReady)
  Prog.modify fun r => { r with gotRoomReady := true }
  Prog.forEach joinUser (iter.order (← Prog.get).users.keys)

/-- `DelegateImpl::handle_server_push` -/
def handleServerPush (iter : IterOrder) : ServerPush → Prog Room Error Unit
  | .closed status => Prog.fail (.ofStatus (status.getD default))
  | .chat notice => onListener (handleChat notice)
  | .uInit userId => handleUInit userId
  | .uReady userId => handleUReady userId
  | .uFull newState => handleUFull newState
  | .uTree treeState => handleUTree treeState
  | .rTree treeState => onListener (Listener.fire (.onUpdateRoomTree (.ofState treeState)))
  | .rReady _ => handleRReady iter

/-- A push, with the order of the iteration that its handling may make. -/
structure Received where
  push : ServerPush
  iter : IterOrder

/-- The order of the map itself. -/
def mapOrder : IterOrder := ⟨id,fun _ => List.Perm.refl _⟩

/-- Pushes whose iterations follow the order of the map itself. -/
def received (pushes : List ServerPush) : List Received := pushes.map fun push => ⟨push,mapOrder⟩

/-- The room after a push, whether its handling fails or not. -/
def step (r : Room) (x : Received) : Room := ((handleServerPush x.iter x.push).run r).2

end Room
end VvClient
