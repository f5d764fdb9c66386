import VvClient.Client.Task
import VvClient.Glue.Room

/-! The delegate of the application: it turns the operations of the inbox into requests, and hands
every response to the resolver that was registered with its request. -/
namespace VvClient

/-- `Direction::Inbound` and `Direction::Outbound` -/
def directionInbound : ℤ := 0
def directionOutbound : ℤ := 1

structure OnCreateXResponse where
  xid : String
  iceParam : Option String
  iceCandidates : String
  dtls : Option String
  deriving DecidableEq, Repr

structure SubReturn where
  xId : String
  consumerId : String
  producerId : String
  streamId : String
  rtp : Option String
  deriving DecidableEq, Repr

/-- A callback that is not about the users of the room. `cb` names the object that is called. -/
inductive Callback
  | onOpened (sessionId : String)
  | onClosed (status : Status)
  | onCreatedX (dir : ℤ) (response : OnCreateXResponse)
  | resolveConnX (cb : ℕ)
  | resolvePub (cb : ℕ) (producerId : String)
  | resolveUPub (cb : ℕ)
  | resolveMute (cb : ℕ)
  | resolveSub (cb : ℕ) (ret : SubReturn)
  | resolveUSub (cb : ℕ)
  deriving DecidableEq, Repr

/-- The callbacks so far, and what each answers. -/
structure Callbacks where
  log : List Callback
  answers : ℕ → Except Error Unit

def Callbacks.fire (c : Callback) : Prog Callbacks Error Unit := ⟨fun l =>
  (l.answers l.log.length,{ l with log := l.log ++ [c] })⟩

structure SubCall where
  userId : String
  stype : StreamType
  deriving DecidableEq, Repr

/-- What `serde_json` makes of the bodies of the requests, and the debug texts in the errors. -/
structure Texts where
  createX : ℤ → Except Error String
  batchEnd : Except Error String
  closeSession : Option Bool → Except Error String
  subscribe : (streamId producerId xid : String) → Except Error String
  unsubscribe : String → Except Error String
  response : ResponseType → String
  subCall : SubCall → String

/-- Texts that are all empty. -/
def Texts.blank : Texts := ⟨fun _ => .ok "",.ok "",fun _ => .ok "",fun _ _ _ => .ok "",
  fun _ => .ok "",fun _ => "",fun _ => ""⟩

section Convert
variable (texts : Texts)

/-- The error of the conversions for a response of another type. -/
def unexpectResponse (name : String) (response : ResponseType) : Error :=
  .msg ("Unexpect response of [" ++ name ++ "], " ++ texts.response response)

/-- The source names `Sub` in this error too. -/
def OnCreateXResponse.tryFrom : ResponseType → Except Error OnCreateXResponse
  | .createX xid iceParam iceCandidates dtls => .ok ⟨xid,iceParam,iceCandidates,dtls⟩
  | response => .error (unexpectResponse texts "Sub" response)

/-- A response without contents that the caller uses. -/
def tryUnit (want : ResponseType) (name : String) (response : ResponseType) : Except Error Unit :=
  if response = want then .ok () else .error (unexpectResponse texts name response)

def ConnXReturn.tryFrom : ResponseType → Except Error Unit := tryUnit texts .connX "ConnX"
def UPubReturn.tryFrom : ResponseType → Except Error Unit := tryUnit texts .uPub "UPub"
def MuteReturn.tryFrom : ResponseType → Except Error Unit := tryUnit texts .mute "Mute"
def UnsubReturn.tryNew : ResponseType → Except Error Unit := tryUnit texts .uSub "USub"

def PubReturn.tryFrom : ResponseType → Except Error String
  | .pub producerId => .ok producerId
  | response => .error (unexpectResponse texts "Pub" response)

def SubReturn.tryNew (xId producerId streamId : String) : ResponseType → Except Error SubReturn
  | .sub consumerId rtp => .ok ⟨xId,consumerId,producerId,streamId,rtp⟩
  | response => .error (unexpectResponse texts "Sub" response)

end Convert

/-- The closures that `response_handlers` holds. -/
inductive Resolver
  | createX (dir : ℤ)
  | batchEnd
  | leave
  | connX (cb : ℕ)
  | pub (cb : ℕ)
  | uPub (cb : ℕ)
  | mute (cb : ℕ)
  | sub (cb : ℕ) (xId producerId streamId : String)
  | uSub (cb : ℕ)
  deriving DecidableEq, Repr

/-- A request of the application. `body` is what `to_body` returns, and within it what `serde_json`
makes of that body. -/
inductive Request
  | connX (body : Except Error (Except Error String)) (cb : ℕ)
  | pub (body : Except Error (Except Error String)) (cb : ℕ)
  | uPub (body : Except Error (Except Error String)) (cb : ℕ)
  | mute (body : Except Error (Except Error String)) (cb : ℕ)
  | sub (req : SubCall) (cb : ℕ)
  | uSub (consumerId : String) (cb : ℕ)

inductive DelegateImpl.Op
  | leave (atEnd : Option Bool)
  | request (req : Request)

/-- A request that was registered: its number, and what it was registered with. -/
structure Registration where
  sn : ℤ
  body : Except Error String
  resolver : Resolver

/-- What happened to the resolvers of the current queue. -/
structure Answered where
  /-- everything that was registered, in order -/
  registered : List Registration
  /-- the resolvers of the current queue that an insertion pushed out of the table -/
  replaced : List (ℤ × Resolver)
  /-- the resolvers that were run, with the number that the response acknowledges -/
  ran : List (ℤ × Resolver)

structure DelegateImpl where
  /-- `listener`, `users` and `got_room_ready` -/
  room : Room
  callbacks : Callbacks
  /-- `shared.inbox` -/
  inbox : List DelegateImpl.Op
  /-- what other threads push into the inbox until the next calls of `on_process` end -/
  arrivals : ℕ → List DelegateImpl.Op
  /-- the orders of the iterations over `users` that the next pushes start -/
  iters : ℕ → IterOrder
  responseHandlers : HashMap ℤ Resolver
  dlinkXId : Option String
  /-- `shared.closed` -/
  isClosed : Bool
  answered : Answered

namespace DelegateImpl

/-- The delegate of a new client. -/
def new (answers callbacks : ℕ → Except Error Unit) (arrivals : ℕ → List Op)
    (iters : ℕ → IterOrder) : DelegateImpl :=
  ⟨Room.new answers,⟨[],callbacks⟩,[],arrivals,iters,∅,none,false,⟨[],[],[]⟩⟩

def onSelf {α : Type} (m : Prog DelegateImpl Error α) : Prog (DelegateImpl × Xfer) Error α :=
  Prog.zoom Prod.fst (fun d s => (d,s.2)) m

def onXfer {α : Type} (m : Prog Xfer Error α) : Prog (DelegateImpl × Xfer) Error α :=
  Prog.zoom Prod.snd (fun x s => (s.1,x)) m

def onCallbacks {α : Type} (m : Prog Callbacks Error α) : Prog DelegateImpl Error α :=
  Prog.zoom callbacks (fun c d => { d with callbacks := c }) m

def onRoom {α : Type} (m : Prog Room Error α) : Prog DelegateImpl Error α :=
  Prog.zoom room (fun r d => { d with room := r }) m

/-- `with_context` on an `Option` -/
def orFail {σ α : Type} (text : String) (o : Option α) : Prog σ Error α :=
  Prog.ofExcept (match o with
    | some a => .ok a
    | none => .error (.msg text))

/-- `response_handlers.insert` for a request that was just queued. -/
def register (sn : ℤ) (body : Except Error String) (resolver : Resolver) (d : DelegateImpl) :
    DelegateImpl :=
  { d with
    responseHandlers := d.responseHandlers.insert sn resolver
    answered := { d.answered with
      registered := d.answered.registered ++ [⟨sn,body,resolver⟩]
      replaced := d.answered.replaced ++
        if sn ∈ d.answered.registered.map Registration.sn then
          ((d.responseHandlers.lookup sn).map fun r => (sn,r)).toList
        else [] } }

/-- `send_request`, which the operations of the application have inlined. -/
def sendRequest (body : Except Error String) (resolver : Resolver) :
    Prog (DelegateImpl × Xfer) Error Unit := do
  let sn ← onXfer (Xfer.addQos1Json .request body none)
  onSelf (Prog.modify (register sn body resolver))

section Requests
variable (texts : Texts)

def reqCreateX (dir : ℤ) : Prog (DelegateImpl × Xfer) Error Unit :=
  sendRequest (texts.createX dir) (.createX dir)

def reqBatchEnd : Prog (DelegateImpl × Xfer) Error Unit := sendRequest texts.batchEnd .batchEnd

def reqLeave (atEnd : Option Bool) : Prog (DelegateImpl × Xfer) Error Unit :=
  sendRequest (texts.closeSession atEnd) .leave

/-- The closure of `simple_request`. -/
def simpleRequest (body : Except Error (Except Error String)) (resolver : Resolver) :
    Prog (DelegateImpl × Xfer) Error Unit := do
  let body ← Prog.ofExcept body
  sendRequest body resolver

/-- The closure of `sub_stream`. -/
def subStream (req : SubCall) (cb : ℕ) : Prog (DelegateImpl × Xfer) Error Unit := do
  let user ← orFail "Not found user" ((← Prog.get).1.room.users.lookup req.userId)
  let xId ← orFail "no dlink_x_id" (← Prog.get).1.dlinkXId
  let stream ← orFail ("can't find stream for sub " ++ texts.subCall req)
    (user.state.streams.entries.find? fun x => x.2.stype = req.stype.value)
  sendRequest (texts.subscribe stream.1 stream.2.producerId xId)
    (.sub cb xId stream.2.producerId stream.1)

/-- The closure of `unsub_stream`. -/
def unsubStream (consumerId : String) (cb : ℕ) : Prog (DelegateImpl × Xfer) Error Unit :=
  sendRequest (texts.unsubscribe consumerId) (.uSub cb)

def runRequest : Request → Prog (DelegateImpl × Xfer) Error Unit
  | .connX body cb => simpleRequest body (.connX cb)
  | .pub body cb => simpleRequest body (.pub cb)
  | .uPub body cb => simpleRequest body (.uPub cb)
  | .mute body cb => simpleRequest body (.mute cb)
  | .sub req cb => subStream texts req cb
  | .uSub consumerId cb => unsubStream texts consumerId cb

def processOp : Op → Prog (DelegateImpl × Xfer) Error Unit
  | .leave atEnd => reqLeave texts atEnd
  | .request req => runRequest texts req

/-- The loop of `on_process`, where `ops` is the inbox. -/
def drain : List Op → Prog (DelegateImpl × Xfer) Error Unit
  | [] => pure ()
  | op::ops => do
    onSelf (Prog.modify fun d => { d with inbox := ops })
    processOp texts op
    drain ops

/-- What arrives while the loop runs stands at the end of the inbox. -/
def onProcess : Prog (DelegateImpl × Xfer) Error Unit := do
  onSelf (Prog.modify fun d =>
    { d with inbox := d.inbox ++ d.arrivals 0, arrivals := fun n => d.arrivals (n+1) })
  drain texts (← Prog.get).1.inbox

/-- Run a closure on the type of a response. -/
def resolve (response : ResponseType) : Resolver → Prog DelegateImpl Error Unit
  | .createX dir => do
    let rsp ← Prog.ofExcept (OnCreateXResponse.tryFrom texts response)
    if dir = directionOutbound then Prog.modify fun d => { d with dlinkXId := some rsp.xid }
    onCallbacks (Callbacks.fire (.onCreatedX dir rsp))
  | .batchEnd => pure ()
  | .leave =>
    if response = .close then pure () else Prog.fail (.msg "invalid response type for CloseSession")
  | .connX cb => do
    Prog.ofExcept (ConnXReturn.tryFrom texts response)
    onCallbacks (Callbacks.fire (.resolveConnX cb))
  | .pub cb => do
    let producerId ← Prog.ofExcept (PubReturn.tryFrom texts response)
    onCallbacks (Callbacks.fire (.resolvePub cb producerId))
  | .uPub cb => do
    Prog.ofExcept (UPubReturn.tryFrom texts response)
    onCallbacks (Callbacks.fire (.resolveUPub cb))
  | .mute cb => do
    Prog.ofExcept (MuteReturn.tryFrom texts response)
    onCallbacks (Callbacks.fire (.resolveMute cb))
  | .sub cb xId producerId streamId => do
    let ret ← Prog.ofExcept (SubReturn.tryNew texts xId producerId streamId response)
    onCallbacks (Callbacks.fire (.resolveSub cb ret))
  | .uSub cb => do
    Prog.ofExcept (UnsubReturn.tryNew texts response)
    onCallbacks (Callbacks.fire (.resolveUSub cb))

/-- The part of `on_response` that has taken the resolver out of the table. A status with a code is
only logged. -/
def answer (ack : ℤ) (response : ServerResponse) (resolver : Resolver) :
    Prog DelegateImpl Error Unit :=
  if (response.status.getD default).code ≠ 0 then pure ()
  else do
    let typ ← orFail "no typ field in response" response.typ
    Prog.modify fun d => { d with
      answered := { d.answered with ran := d.answered.ran ++ [(ack,resolver)] } }
    resolve texts typ resolver

def onResponse (ack : ℤ) (response : ServerResponse) : Prog DelegateImpl Error Unit := do
  let resolver ← orFail ("Not found response handler for ack [" ++ toString ack ++ "]")
    ((← Prog.get).responseHandlers.lookup ack)
  Prog.modify fun d => { d with responseHandlers := d.responseHandlers.erase ack }
  answer texts ack response resolver

/-- An opening fills a new queue, for which nothing was registered yet. -/
def onOpening : Prog (DelegateImpl × Xfer) Error Unit := do
  onSelf (Prog.modify fun d => { d with answered := { d.answered with registered := [] } })
  reqCreateX texts directionInbound
  reqCreateX texts directionOutbound
  reqBatchEnd texts

def onOpened (sessionId : String) : Prog DelegateImpl Error Unit :=
  onCallbacks (Callbacks.fire (.onOpened sessionId))

/-- What it sends to a call of `leave_room_and_wait` is left to the model of these calls. -/
def onClosed (status : Status) : Prog DelegateImpl Error Unit := do
  Prog.modify fun d => { d with isClosed := true }
  onCallbacks (Callbacks.fire (.onClosed status))

def onPush (push : ServerPush) : Prog DelegateImpl Error Unit := do
  let iter := (← Prog.get).iters 0
  Prog.modify fun d => { d with iters := fun n => d.iters (n+1) }
  onRoom (Room.handleServerPush iter push)

/-- `impl Delegate for DelegateImpl` -/
def delegate : Delegate DelegateImpl where
  onOpening := onOpening texts
  onOpened sessionId := onSelf (onOpened sessionId)
  onClosed := onClosed
  onProcess := onProcess texts
  onResponse ack response := onSelf (onResponse texts ack response)
  onPush push := onSelf (onPush push)

end Requests

end DelegateImpl
end VvClient
