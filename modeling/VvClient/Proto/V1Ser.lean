import VvClient.Proto.Requests
import VvClient.Proto.Responses

/-! The requests of a client, the packets and the candidates as they are written. -/
namespace VvClient.V1

open Json

/-- The items of an iterator, written as a sequence. -/
structure IterSer (ι : Type) where
  items : List ι

def IterSer.serialize {ι : Type} (item : ι → Json) (v : IterSer ι) : Json := ofList item v.items

structure PacketSer (B : Type) where
  typ : Option Int32
  sn : Option Int64
  body : Option B
  ack : Option Int64

def PacketSer.serialize {B : Type} (body : B → Json) (v : PacketSer B) : Json :=
  .obj (skipNone "typ" ofInt32 v.typ ++ skipNone "sn" ofInt64 v.sn ++ skipNone "body" body v.body ++
    skipNone "ack" ofInt64 v.ack)

structure ClientRequestSer (T : Type) where
  typ : T

def ClientRequestSer.serialize {T : Type} (typ : T → Json) (v : ClientRequestSer T) : Json :=
  .obj (field "typ" (typ v.typ))

section Open

structure SdkInfoSer where
  name : Option String
  version : Option String

def SdkInfoSer.serialize (v : SdkInfoSer) : Json :=
  .obj (skipNone "name" .str v.name ++ skipNone "version" .str v.version)

structure ClientInfoSer (Device : Type) where
  clientId : Option String
  platform : Option String
  sdk : Option SdkInfoSer
  device : Option Device

def ClientInfoSer.serialize {Device : Type} (device : Device → Json) (v : ClientInfoSer Device) : Json :=
  .obj (skipNone "client_id" .str v.clientId ++ skipNone "platform" .str v.platform ++
    skipNone "sdk" SdkInfoSer.serialize v.sdk ++ skipNone "device" device v.device)

structure UpdateTreeRequestSer where
  path : Option String
  value : Option String
  prune : Option Bool

namespace UpdateTreeRequestSer

def serialize (v : UpdateTreeRequestSer) : Json :=
  .obj (skipNone "path" .str v.path ++ skipNone "value" .str v.value ++ skipNone "prune" .bool v.prune)

/-- `impl From<&UpdateTreeRequest>` -/
def ofOwned (v : UpdateTreeRequest) : UpdateTreeRequestSer := ⟨v.path,v.value,v.prune⟩

def toOwned (v : UpdateTreeRequestSer) : UpdateTreeRequest := ⟨v.path,v.value,v.prune⟩

theorem reads : Reads UpdateTreeRequest.deserialize serialize toOwned :=
  ⟨fun v => by simp [UpdateTreeRequest.deserialize, serialize, toOwned],fun _ => Json.noConfusion⟩

theorem read_ofOwned (v : UpdateTreeRequest) :
    UpdateTreeRequest.deserialize (ofOwned v).serialize = some v := reads.read (ofOwned v)

end UpdateTreeRequestSer

structure OpenSessionRequestSer (Device : Type) where
  userId : String
  roomId : String
  clientInfo : Option (ClientInfoSer Device)
  token : Option String
  userExt : Option String
  userTree : Option (IterSer UpdateTreeRequestSer)
  batch : Option Bool

namespace OpenSessionRequestSer
variable {Device : Type} (device : Device → Json)

def serialize (v : OpenSessionRequestSer Device) : Json :=
  .obj (field "user_id" (.str v.userId) ++ field "room_id" (.str v.roomId) ++
    skipNone "client_info" (ClientInfoSer.serialize device) v.clientInfo ++
    skipNone "token" .str v.token ++ skipNone "user_ext" .str v.userExt ++
    skipNone "user_tree" (IterSer.serialize UpdateTreeRequestSer.serialize) v.userTree ++
    skipNone "batch" .bool v.batch)

/-- The server reads neither the token nor the information about the client. -/
def toOwned (v : OpenSessionRequestSer Device) : OpenSessionRequest :=
  ⟨v.userId,v.roomId,v.userExt,v.userTree.map fun t => t.items.map UpdateTreeRequestSer.toOwned,
    v.batch⟩

lemma tree_reads : Reads (toList UpdateTreeRequest.deserialize)
    (IterSer.serialize UpdateTreeRequestSer.serialize)
    (fun t => t.items.map UpdateTreeRequestSer.toOwned) :=
  ⟨fun t => UpdateTreeRequestSer.reads.ofList.read t.items,fun _ => Json.noConfusion⟩

theorem read (v : OpenSessionRequestSer Device) :
    OpenSessionRequest.deserialize (v.serialize device) = some v.toOwned := by
  simp [OpenSessionRequest.deserialize, serialize, toOwned, tree_reads.skipped]

end OpenSessionRequestSer

end Open

structure ReconnectRequestSer where
  sessionId : String
  token : Option String
  trySeq : Int64
  lastSuccessSeq : Int64
  magic : Int32

namespace ReconnectRequestSer

def serialize (v : ReconnectRequestSer) : Json :=
  .obj (field "session_id" (.str v.sessionId) ++ skipNone "token" .str v.token ++
    field "try_seq" (ofInt64 v.trySeq) ++ field "last_success_seq" (ofInt64 v.lastSuccessSeq) ++
    field "magic" (ofInt32 v.magic))

def toOwned (v : ReconnectRequestSer) : ReconnectRequest :=
  ⟨v.sessionId,v.token,v.trySeq,v.lastSuccessSeq,v.magic⟩

theorem read (v : ReconnectRequestSer) :
    ReconnectRequest.deserialize v.serialize = some v.toOwned := by
  simp [ReconnectRequest.deserialize, serialize, toOwned]

end ReconnectRequestSer

structure CloseSessionRequestSer where
  roomId : String
  ends : Option Bool

namespace CloseSessionRequestSer

def serialize (v : CloseSessionRequestSer) : Json :=
  .obj (field "room_id" (.str v.roomId) ++ skipNone "end" .bool v.ends)

def toOwned (v : CloseSessionRequestSer) : CloseSessionRequest := ⟨v.roomId,v.ends⟩

theorem read (v : CloseSessionRequestSer) :
    CloseSessionRequest.deserialize v.serialize = some v.toOwned := by
  simp [CloseSessionRequest.deserialize, serialize, toOwned]

end CloseSessionRequestSer

section Media
variable {Dtls Rtp : Type} (dtls : Codec Dtls) (rtp : Codec Rtp)

structure CreateWebrtcTransportRequestSer (Dtls : Type) where
  roomId : String
  dir : Int32
  kind : Int32
  dtls : Option Dtls

namespace CreateWebrtcTransportRequestSer

def serialize (v : CreateWebrtcTransportRequestSer Dtls) : Json :=
  .obj (field (camelCase "room_id") (.str v.roomId) ++ field (camelCase "dir") (ofInt32 v.dir) ++
    field (camelCase "kind") (ofInt32 v.kind) ++ skipNone (camelCase "dtls") dtls.serialize v.dtls)

def toOwned (v : CreateWebrtcTransportRequestSer Dtls) : CreateWebrtcTransportRequest Dtls :=
  ⟨v.roomId,v.dir,v.kind,v.dtls⟩

theorem read {dtls : Codec Dtls} (hdtls : dtls.Lawful) (v : CreateWebrtcTransportRequestSer Dtls) :
    CreateWebrtcTransportRequest.deserialize dtls (v.serialize dtls) = some v.toOwned := by
  simp [CreateWebrtcTransportRequest.deserialize, serialize, toOwned, hdtls.skipped]

end CreateWebrtcTransportRequestSer

structure ConnectWebrtcTransportRequestSer (Dtls : Type) where
  xid : String
  dtls : Option Dtls

namespace ConnectWebrtcTransportRequestSer

def serialize (v : ConnectWebrtcTransportRequestSer Dtls) : Json :=
  .obj (field (camelCase "xid") (.str v.xid) ++ skipNone (camelCase "dtls") dtls.serialize v.dtls)

def toOwned (v : ConnectWebrtcTransportRequestSer Dtls) : ConnectWebrtcTransportRequest Dtls :=
  ⟨v.xid,v.dtls⟩

theorem read {dtls : Codec Dtls} (hdtls : dtls.Lawful) (v : ConnectWebrtcTransportRequestSer Dtls) :
    ConnectWebrtcTransportRequest.deserialize dtls (v.serialize dtls) = some v.toOwned := by
  simp [ConnectWebrtcTransportRequest.deserialize, serialize, toOwned, hdtls.skipped]

end ConnectWebrtcTransportRequestSer

structure PublishRequestSer (Rtp : Type) where
  roomId : String
  xid : String
  streamId : String
  stype : Int32
  rtp : Option Rtp
  audioType : Int32
  muted : Option Bool

namespace PublishRequestSer

def serialize (v : PublishRequestSer Rtp) : Json :=
  .obj (field (camelCase "room_id") (.str v.roomId) ++ field (camelCase "xid") (.str v.xid) ++
    field (camelCase "stream_id") (.str v.streamId) ++ field (camelCase "stype") (ofInt32 v.stype) ++
    skipNone (camelCase "rtp") rtp.serialize v.rtp ++
    field (camelCase "audio_type") (ofInt32 v.audioType) ++ skipNone (camelCase "muted") .bool v.muted)

def toOwned (v : PublishRequestSer Rtp) : PublishRequest Rtp :=
  ⟨v.roomId,v.xid,v.streamId,v.stype,v.rtp,v.audioType,v.muted⟩

theorem read {rtp : Codec Rtp} (hrtp : rtp.Lawful) (v : PublishRequestSer Rtp) :
    PublishRequest.deserialize rtp (v.serialize rtp) = some v.toOwned := by
  simp [PublishRequest.deserialize, serialize, toOwned, hrtp.skipped]

end PublishRequestSer

end Media

/-- The address is written under the name `ip`. -/
structure IceCandidateSer where
  foundation : String
  priority : UInt32
  ip : String
  protocol : Protocol
  port : UInt16
  typ : IceCandidateType
  tcpType : Option IceCandidateTcpType

namespace IceCandidateSer

def serialize (v : IceCandidateSer) : Json :=
  .obj (field (camelCase "foundation") (.str v.foundation) ++
    field (camelCase "priority") (ofUInt32 v.priority) ++ field (camelCase "ip") (.str v.ip) ++
    field (camelCase "protocol") v.protocol.serialize ++
    field (camelCase "port") (ofUInt16 v.port) ++ field (camelCase "type") v.typ.serialize ++
    skipNone (camelCase "tcp_type") IceCandidateTcpType.serialize v.tcpType)

/-- `impl From<&IceCandidate>` -/
def ofOwned (v : IceCandidate) : IceCandidateSer :=
  ⟨v.foundation,v.priority,v.address,v.protocol,v.port,v.typ,v.tcpType⟩

theorem read_ofOwned (v : IceCandidate) : IceCandidate.deserialize (ofOwned v).serialize = some v := by
  simp [IceCandidate.deserialize, serialize, ofOwned, IceCandidateTcpType.reads.skipped]

end IceCandidateSer

structure UnPublishRequestSer where
  roomId : String
  producerId : Option String
  streamId : Option String

namespace UnPublishRequestSer

def serialize (v : UnPublishRequestSer) : Json :=
  .obj (field (camelCase "room_id") (.str v.roomId) ++
    skipNone (camelCase "producer_id") .str v.producerId ++
    skipNone (camelCase "stream_id") .str v.streamId)

def toOwned (v : UnPublishRequestSer) : UnPublishRequest := ⟨v.roomId,v.producerId,v.streamId⟩

theorem read (v : UnPublishRequestSer) :
    UnPublishRequest.deserialize v.serialize = some v.toOwned := by
  simp [UnPublishRequest.deserialize, serialize, toOwned]

end UnPublishRequestSer

structure MuteRequestSer where
  roomId : String
  producerId : Option String
  streamId : Option String
  muted : Bool

namespace MuteRequestSer

def serialize (v : MuteRequestSer) : Json :=
  .obj (field (camelCase "room_id") (.str v.roomId) ++
    skipNone (camelCase "producer_id") .str v.producerId ++
    skipNone (camelCase "stream_id") .str v.streamId ++ field (camelCase "muted") (.bool v.muted))

def toOwned (v : MuteRequestSer) : MuteRequest := ⟨v.roomId,v.producerId,v.streamId,v.muted⟩

theorem read (v : MuteRequestSer) : MuteRequest.deserialize v.serialize = some v.toOwned := by
  simp [MuteRequest.deserialize, serialize, toOwned]

end MuteRequestSer

structure SubscribeRequestSer where
  roomId : String
  streamId : String
  producerId : String
  xid : String
  preferredLayers : Option PreferredLayers

namespace SubscribeRequestSer

def serialize (v : SubscribeRequestSer) : Json :=
  .obj (field (camelCase "room_id") (.str v.roomId) ++
    field (camelCase "stream_id") (.str v.streamId) ++
    field (camelCase "producer_id") (.str v.producerId) ++ field (camelCase "xid") (.str v.xid) ++
    skipNone (camelCase "preferred_layers") PreferredLayers.serialize v.preferredLayers)

def toOwned (v : SubscribeRequestSer) : SubscribeRequest :=
  ⟨v.roomId,v.streamId,v.producerId,v.xid,v.preferredLayers⟩

theorem read (v : SubscribeRequestSer) :
    SubscribeRequest.deserialize v.serialize = some v.toOwned := by
  simp [SubscribeRequest.deserialize, serialize, toOwned, PreferredLayers.reads.skipped]

end SubscribeRequestSer

structure UnsubscribeRequestSer where
  roomId : String
  consumerId : String

namespace UnsubscribeRequestSer

def serialize (v : UnsubscribeRequestSer) : Json :=
  .obj (field (camelCase "room_id") (.str v.roomId) ++
    field (camelCase "consumer_id") (.str v.consumerId))

def toOwned (v : UnsubscribeRequestSer) : UnSubscribeRequest := ⟨v.roomId,v.consumerId⟩

theorem read (v : UnsubscribeRequestSer) :
    UnSubscribeRequest.deserialize v.serialize = some v.toOwned := by
  simp [UnSubscribeRequest.deserialize, serialize, toOwned]

end UnsubscribeRequestSer

abbrev BatchEndRequestSer := NoFields
abbrev HeartbeatRequestSer := NoFields

/-- The enums `OpenTypeSer`, `ReconnTypeSer` and so on, which have one variant each. -/
inductive RequestTypeSer (Device Dtls Rtp : Type)
  | opens (v : OpenSessionRequestSer Device)
  | reconn (v : ReconnectRequestSer)
  | close (v : CloseSessionRequestSer)
  | createX (v : CreateWebrtcTransportRequestSer Dtls)
  | connX (v : ConnectWebrtcTransportRequestSer Dtls)
  | pub (v : PublishRequestSer Rtp)
  | uPub (v : UnPublishRequestSer)
  | sub (v : SubscribeRequestSer)
  | uSub (v : UnsubscribeRequestSer)
  | mute (v : MuteRequestSer)
  | bEnd (v : BatchEndRequestSer)
  | hb (v : HeartbeatRequestSer)

namespace RequestTypeSer
variable {Device Dtls Rtp : Type} (device : Device → Json) (dtls : Codec Dtls) (rtp : Codec Rtp)

def serialize : RequestTypeSer Device Dtls Rtp → Json
  | .opens v => tagged "Open" (v.serialize device)
  | .reconn v => tagged "Reconn" v.serialize
  | .close v => tagged "Close" v.serialize
  | .createX v => tagged "CreateX" (v.serialize dtls)
  | .connX v => tagged "ConnX" (v.serialize dtls)
  | .pub v => tagged "Pub" (v.serialize rtp)
  | .uPub v => tagged "UPub" v.serialize
  | .sub v => tagged "Sub" v.serialize
  | .uSub v => tagged "USub" v.serialize
  | .mute v => tagged "Mute" v.serialize
  | .bEnd v => tagged "BEnd" v.serialize
  | .hb v => tagged "HB" v.serialize

/-- The request of the same name with the same fields. -/
def toOwned : RequestTypeSer Device Dtls Rtp → MsgType Dtls Rtp
  | .opens v => .opens v.toOwned
  | .reconn v => .reconn v.toOwned
  | .close v => .close v.toOwned
  | .createX v => .createX v.toOwned
  | .connX v => .connX v.toOwned
  | .pub v => .pub v.toOwned
  | .uPub v => .uPub v.toOwned
  | .sub v => .sub v.toOwned
  | .uSub v => .uSub v.toOwned
  | .mute v => .mute v.toOwned
  | .bEnd v => .bEnd v
  | .hb v => .hb v

variable {dtls rtp} (hdtls : dtls.Lawful) (hrtp : rtp.Lawful)
include hdtls hrtp

theorem reads : Reads (MsgType.deserialize dtls rtp) (serialize device dtls rtp) toOwned := by
  constructor
  · intro v
    cases v with
    | createX v => simp [MsgType.deserialize, serialize, toOwned, v.read hdtls]
    | connX v => simp [MsgType.deserialize, serialize, toOwned, v.read hdtls]
    | pub v => simp [MsgType.deserialize, serialize, toOwned, v.read hrtp]
    | _ v => simp [MsgType.deserialize, serialize, toOwned, v.read]
  · intro v
    cases v <;> exact Json.noConfusion

end RequestTypeSer

/-- A request is read as the variant of the same name, with the same fields. -/
theorem ClientRequestSer.read {Device Dtls Rtp : Type} (device : Device → Json) {dtls : Codec Dtls}
    {rtp : Codec Rtp} (hdtls : dtls.Lawful) (hrtp : rtp.Lawful)
    (v : ClientRequestSer (RequestTypeSer Device Dtls Rtp)) :
    ClientMessage.deserialize dtls rtp (v.serialize (RequestTypeSer.serialize device dtls rtp)) =
      some ⟨some v.typ.toOwned⟩ := by
  simp [ClientMessage.deserialize, serialize, (RequestTypeSer.reads device hdtls hrtp).present]

end VvClient.V1
