import Mathlib.Data.List.AList
import VvClient.Proto.Packet

/-! The messages inside the packets, as the client reads them: pushes and responses of the
server. -/
namespace VvClient

/-- A Rust `HashMap`. The order of the entries is the order in which an iteration meets them,
which the language leaves open. -/
abbrev HashMap (κ ν : Type) := AList (fun _ : κ => ν)

inductive StreamType
  | camera
  | mic
  | screen
  deriving DecidableEq, Repr

namespace StreamType

def value : StreamType → ℤ
  | camera => 1
  | mic => 2
  | screen => 3

/-- `StreamType::from_value`, which fails on every other number. -/
def fromValue (value : ℤ) : Option StreamType :=
  if value = 1 then some camera
  else if value = 2 then some mic
  else if value = 3 then some screen
  else none

def asStr : StreamType → String
  | camera => "camera"
  | mic => "mic"
  | screen => "screen"

@[simp] theorem fromValue_value (t : StreamType) : fromValue t.value = some t := by
  cases t <;> rfl

theorem value_injective : Function.Injective value := by
  intro t u h
  have h' : some t = some u := by rw [← fromValue_value, ← fromValue_value, h]
  exact Option.some.inj h'

theorem asStr_injective : Function.Injective asStr := by
  intro t u h
  cases t <;> cases u <;> first | rfl | exact absurd h (by decide)

end StreamType

structure Stream where
  seq : ℤ
  stype : ℤ
  producerId : String
  muted : Bool
  deriving DecidableEq, Repr

structure UserState where
  id : String
  online : Bool
  streams : HashMap String Stream
  ext : Option String
  instId : String

structure TreeState where
  path : String
  value : Option String
  id : Option String
  prune : Option Bool
  deriving DecidableEq, Repr

/-- The node that the listener sees. -/
structure TreeNode where
  path : String
  value : Option String
  prune : Option Bool
  deriving DecidableEq, Repr

def TreeNode.ofState (s : TreeState) : TreeNode := ⟨s.path,s.value,s.prune⟩

structure ChatNotice where
  fromId : String
  toId : String
  body : String
  deriving DecidableEq, Repr

inductive ServerPush
  | closed (status : Option Status)
  | chat (notice : ChatNotice)
  | uInit (id : String)
  | uReady (id : String)
  | uFull (state : UserState)
  | uTree (state : TreeState)
  | rTree (state : TreeState)
  | rReady (id : String)

/-- `ResponseType`. The media parameters inside are opaque texts here. -/
inductive ResponseType
  | opened (sessionId connId : String)
  | reconn (connId : String)
  | close
  | createX (xid : String) (iceParam : Option String) (iceCandidates : String)
      (dtls : Option String)
  | connX
  | pub (producerId : String)
  | uPub
  | sub (consumerId : String) (rtp : Option String)
  | uSub
  | mute
  | layer
  | ended (updated : Bool)
  | upExt
  | upUTree
  | upRTree
  | chat
  | bEnd
  | hb
  deriving DecidableEq, Repr

structure ServerResponse where
  status : Option Status
  typ : Option ResponseType
  deriving DecidableEq, Repr

structure ReconnectRequest where
  sessionId : String
  token : Option String
  trySeq : ℤ
  lastSuccessSeq : ℤ
  magic : ℤ
  deriving DecidableEq, Repr

/-- How `serde_json` reads a packet and the two kinds of body, where `none` is a parse error, and
how it writes the bodies of the worker's own requests. `duration` is the debug text of a duration. -/
structure Serde where
  packet : String → Option Packet
  serverRsp : String → Option ServerResponse
  serverPush : String → Option ServerPush
  reconnectRequest : ReconnectRequest → String
  heartbeatRequest : String
  duration : ℕ → String

/-- `PacketRef::parse_as_server_rsp` -/
def Packet.parseAsServerRsp (serde : Serde) (p : Packet) : Except Error ServerResponse :=
  match p.body with
  | none => .error (.msg "expect server response body")
  | some body =>
    match serde.serverRsp body with
    | none => .error (.msg "invalid server response body")
    | some typed => .ok typed

/-- `PacketRef::parse_as_server_push` -/
def Packet.parseAsServerPush (serde : Serde) (p : Packet) : Except Error ServerPush :=
  match p.body with
  | none => .error (.msg "expect server push body")
  | some body =>
    match serde.serverPush body with
    | none => .error (.msg "invalid server push body")
    | some typed => .ok typed

end VvClient
