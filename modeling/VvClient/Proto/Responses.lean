import VvClient.Proto.V1

/-! The responses of the server, as they are written and read. -/
namespace VvClient.V1

open Json

section Media

structure IceParameters where
  usernameFragment : String
  password : String
  iceLite : Option Bool
  deriving DecidableEq

namespace IceParameters

def serialize (v : IceParameters) : Json :=
  .obj (field (camelCase "username_fragment") (.str v.usernameFragment) ++
    field (camelCase "password") (.str v.password) ++
    field (camelCase "ice_lite") (ofOption .bool v.iceLite))

def deserialize (j : Json) : Option IceParameters := do
  let fs ← toFields j
  let usernameFragment ← required (camelCase "username_fragment") toStr fs
  let password ← required (camelCase "password") toStr fs
  let iceLite ← Json.optional (camelCase "ice_lite") toBool fs
  return ⟨usernameFragment,password,iceLite⟩

theorem reads : Reads deserialize serialize id :=
  ⟨fun v => by simp [deserialize, serialize, Reads.bool.nullable],fun _ => Json.noConfusion⟩

end IceParameters

inductive IceCandidateType
  | host
  | srflx
  | prflx
  | relay
  deriving DecidableEq

namespace IceCandidateType

def serialize : IceCandidateType → Json
  | host => .str "host"
  | srflx => .str "srflx"
  | prflx => .str "prflx"
  | relay => .str "relay"

def deserialize (j : Json) : Option IceCandidateType := do
  match ← toUnitVariant j with
  | "host" => some host
  | "srflx" => some srflx
  | "prflx" => some prflx
  | "relay" => some relay
  | _ => none

@[simp] theorem read (v : IceCandidateType) : deserialize v.serialize = some v := by cases v <;> rfl

end IceCandidateType

inductive IceCandidateTcpType
  | passive
  deriving DecidableEq

namespace IceCandidateTcpType

def serialize : IceCandidateTcpType → Json
  | passive => .str "passive"

def deserialize (j : Json) : Option IceCandidateTcpType := do
  match ← toUnitVariant j with
  | "passive" => some passive
  | _ => none

theorem reads : Reads deserialize serialize id :=
  ⟨fun v => by cases v; rfl,fun v => by cases v; exact Json.noConfusion⟩

end IceCandidateTcpType

inductive Protocol
  | tcp
  | udp
  deriving DecidableEq

namespace Protocol

def serialize : Protocol → Json
  | tcp => .str "tcp"
  | udp => .str "udp"

def deserialize (j : Json) : Option Protocol := do
  match ← toUnitVariant j with
  | "tcp" => some tcp
  | "udp" => some udp
  | _ => none

@[simp] theorem read (v : Protocol) : deserialize v.serialize = some v := by cases v <;> rfl

end Protocol

/-- `address` is also read under the name `ip`. -/
structure IceCandidate where
  foundation : String
  priority : UInt32
  address : String
  protocol : Protocol
  port : UInt16
  typ : IceCandidateType
  tcpType : Option IceCandidateTcpType
  deriving DecidableEq

namespace IceCandidate

def serialize (v : IceCandidate) : Json :=
  .obj (field (camelCase "foundation") (.str v.foundation) ++
    field (camelCase "priority") (ofUInt32 v.priority) ++
    field (camelCase "address") (.str v.address) ++
    field (camelCase "protocol") v.protocol.serialize ++
    field (camelCase "port") (ofUInt16 v.port) ++ field (camelCase "type") v.typ.serialize ++
    skipNone (camelCase "tcp_type") IceCandidateTcpType.serialize v.tcpType)

def deserialize (j : Json) : Option IceCandidate := do
  let fs ← toFields j
  let foundation ← required (camelCase "foundation") toStr fs
  let priority ← required (camelCase "priority") toUInt32 fs
  let address ← requiredOr (camelCase "address") "ip" toStr fs
  let protocol ← required (camelCase "protocol") Protocol.deserialize fs
  let port ← required (camelCase "port") toUInt16 fs
  let typ ← required (camelCase "type") IceCandidateType.deserialize fs
  let tcpType ← Json.optional (camelCase "tcp_type") IceCandidateTcpType.deserialize fs
  return ⟨foundation,priority,address,protocol,port,typ,tcpType⟩

theorem reads : Reads deserialize serialize id :=
  ⟨fun v => by simp [deserialize, serialize, IceCandidateTcpType.reads.skipped],
    fun _ => Json.noConfusion⟩

end IceCandidate

end Media

structure OpenSessionResponse where
  sessionId : String
  connId : String
  deriving DecidableEq

namespace OpenSessionResponse

def serialize (v : OpenSessionResponse) : Json :=
  .obj (field "session_id" (.str v.sessionId) ++ field "conn_id" (.str v.connId))

def deserialize (j : Json) : Option OpenSessionResponse := do
  let fs ← toFields j
  let sessionId ← required "session_id" toStr fs
  let connId ← required "conn_id" toStr fs
  return ⟨sessionId,connId⟩

theorem read (v : OpenSessionResponse) : deserialize v.serialize = some v := by
  simp [deserialize, serialize]

end OpenSessionResponse

structure ReconnectResponse where
  connId : String
  deriving DecidableEq

namespace ReconnectResponse

def serialize (v : ReconnectResponse) : Json := .obj (field "conn_id" (.str v.connId))

def deserialize (j : Json) : Option ReconnectResponse := do
  let fs ← toFields j
  let connId ← required "conn_id" toStr fs
  return ⟨connId⟩

theorem read (v : ReconnectResponse) : deserialize v.serialize = some v := by
  simp [deserialize, serialize]

end ReconnectResponse

structure PublishResponse where
  producerId : String
  deriving DecidableEq

namespace PublishResponse

def serialize (v : PublishResponse) : Json :=
  .obj (field (camelCase "producer_id") (.str v.producerId))

def deserialize (j : Json) : Option PublishResponse := do
  let fs ← toFields j
  let producerId ← required (camelCase "producer_id") toStr fs
  return ⟨producerId⟩

theorem read (v : PublishResponse) : deserialize v.serialize = some v := by
  simp [deserialize, serialize]

end PublishResponse

structure EndResponse where
  updated : Bool
  deriving DecidableEq

namespace EndResponse

def serialize (v : EndResponse) : Json := .obj (field (camelCase "updated") (.bool v.updated))

def deserialize (j : Json) : Option EndResponse := do
  let fs ← toFields j
  let updated ← required (camelCase "updated") toBool fs
  return ⟨updated⟩

theorem read (v : EndResponse) : deserialize v.serialize = some v := by
  simp [deserialize, serialize]

end EndResponse

abbrev CloseSessionResponse := NoFields
abbrev ConnectWebrtcTransportResponse := NoFields
abbrev UnPublishResponse := NoFields
abbrev UnSubscribeResponse := NoFields
abbrev MuteResponse := NoFields
abbrev LayerResponse := NoFields
abbrev UpdateExtResponse := NoFields
abbrev UpdateTreeResponse := NoFields
abbrev ChatResponse := NoFields
abbrev BatchEndResponse := NoFields
abbrev HeartbeatResponse := NoFields

structure CreateWebrtcTransportResponse (Dtls : Type) where
  xid : String
  iceParam : Option IceParameters
  iceCandidates : List IceCandidate
  dtls : Option Dtls

structure SubscribeResponse (Rtp : Type) where
  consumerId : String
  rtp : Option Rtp

inductive ResponseType (Dtls Rtp : Type)
  | opened (v : OpenSessionResponse)
  | reconn (v : ReconnectResponse)
  | close (v : CloseSessionResponse)
  | createX (v : CreateWebrtcTransportResponse Dtls)
  | connX (v : ConnectWebrtcTransportResponse)
  | pub (v : PublishResponse)
  | uPub (v : UnPublishResponse)
  | sub (v : SubscribeResponse Rtp)
  | uSub (v : UnSubscribeResponse)
  | mute (v : MuteResponse)
  | layer (v : LayerResponse)
  | ended (v : EndResponse)
  | upExt (v : UpdateExtResponse)
  | upUTree (v : UpdateTreeResponse)
  | upRTree (v : UpdateTreeResponse)
  | chat (v : ChatResponse)
  | bEnd (v : BatchEndResponse)
  | hb (v : HeartbeatResponse)

structure ResponseRef (Dtls Rtp : Type) where
  status : Option Status
  typ : Option (ResponseType Dtls Rtp)

structure Response (Dtls Rtp : Type) where
  status : Option Status
  typ : Option (ResponseType Dtls Rtp)

section Derived
variable {Dtls Rtp : Type} (dtls : Codec Dtls) (rtp : Codec Rtp)

def CreateWebrtcTransportResponse.serialize (v : CreateWebrtcTransportResponse Dtls) : Json :=
  .obj (field (camelCase "xid") (.str v.xid) ++
    field (camelCase "ice_param") (ofOption IceParameters.serialize v.iceParam) ++
    field (camelCase "ice_candidates") (ofList IceCandidate.serialize v.iceCandidates) ++
    field (camelCase "dtls") (ofOption dtls.serialize v.dtls))

def CreateWebrtcTransportResponse.deserialize (j : Json) :
    Option (CreateWebrtcTransportResponse Dtls) := do
  let fs ← toFields j
  let xid ← required (camelCase "xid") toStr fs
  let iceParam ← Json.optional (camelCase "ice_param") IceParameters.deserialize fs
  let iceCandidates ← required (camelCase "ice_candidates") (toList IceCandidate.deserialize) fs
  let dtls ← Json.optional (camelCase "dtls") dtls.deserialize fs
  return ⟨xid,iceParam,iceCandidates,dtls⟩

def SubscribeResponse.serialize (v : SubscribeResponse Rtp) : Json :=
  .obj (field (camelCase "consumer_id") (.str v.consumerId) ++
    field (camelCase "rtp") (ofOption rtp.serialize v.rtp))

def SubscribeResponse.deserialize (j : Json) : Option (SubscribeResponse Rtp) := do
  let fs ← toFields j
  let consumerId ← required (camelCase "consumer_id") toStr fs
  let rtp ← Json.optional (camelCase "rtp") rtp.deserialize fs
  return ⟨consumerId,rtp⟩

def ResponseType.serialize : ResponseType Dtls Rtp → Json
  | .opened v => tagged "Open" v.serialize
  | .reconn v => tagged "Reconn" v.serialize
  | .close v => tagged "Close" v.serialize
  | .createX v => tagged "CreateX" (v.serialize dtls)
  | .connX v => tagged "ConnX" v.serialize
  | .pub v => tagged "Pub" v.serialize
  | .uPub v => tagged "UPub" v.serialize
  | .sub v => tagged "Sub" (v.serialize rtp)
  | .uSub v => tagged "USub" v.serialize
  | .mute v => tagged "Mute" v.serialize
  | .layer v => tagged "Layer" v.serialize
  | .ended v => tagged "End" v.serialize
  | .upExt v => tagged "UpExt" v.serialize
  | .upUTree v => tagged "UpUTree" v.serialize
  | .upRTree v => tagged "UpRTree" v.serialize
  | .chat v => tagged "Chat" v.serialize
  | .bEnd v => tagged "BEnd" v.serialize
  | .hb v => tagged "HB" v.serialize

def ResponseType.deserialize (j : Json) : Option (ResponseType Dtls Rtp) := do
  let (tag,v) ← toVariant j
  match tag with
  | "Open" => (OpenSessionResponse.deserialize v).map .opened
  | "Reconn" => (ReconnectResponse.deserialize v).map .reconn
  | "Close" => (NoFields.deserialize v).map .close
  | "CreateX" => (CreateWebrtcTransportResponse.deserialize dtls v).map .createX
  | "ConnX" => (NoFields.deserialize v).map .connX
  | "Pub" => (PublishResponse.deserialize v).map .pub
  | "UPub" => (NoFields.deserialize v).map .uPub
  | "Sub" => (SubscribeResponse.deserialize rtp v).map .sub
  | "USub" => (NoFields.deserialize v).map .uSub
  | "Mute" => (NoFields.deserialize v).map .mute
  | "Layer" => (NoFields.deserialize v).map .layer
  | "End" => (EndResponse.deserialize v).map .ended
  | "UpExt" => (NoFields.deserialize v).map .upExt
  | "UpUTree" => (NoFields.deserialize v).map .upUTree
  | "UpRTree" => (NoFields.deserialize v).map .upRTree
  | "Chat" => (NoFields.deserialize v).map .chat
  | "BEnd" => (NoFields.deserialize v).map .bEnd
  | "HB" => (NoFields.deserialize v).map .hb
  | _ => none

def ResponseRef.serialize (v : ResponseRef Dtls Rtp) : Json :=
  .obj (field "status" (ofOption Status.serialize v.status) ++
    field "typ" (ofOption (ResponseType.serialize dtls rtp) v.typ))

def Response.deserialize (j : Json) : Option (Response Dtls Rtp) := do
  let fs ← toFields j
  let status ← Json.optional "status" Status.deserialize fs
  let typ ← Json.optional "typ" (ResponseType.deserialize dtls rtp) fs
  return ⟨status,typ⟩

def ResponseRef.toOwned (v : ResponseRef Dtls Rtp) : Response Dtls Rtp := ⟨v.status,v.typ⟩

variable {dtls rtp} (hdtls : dtls.Lawful) (hrtp : rtp.Lawful)
include hdtls

theorem CreateWebrtcTransportResponse.read (v : CreateWebrtcTransportResponse Dtls) :
    deserialize dtls (v.serialize dtls) = some v := by
  simp [deserialize, serialize, IceParameters.reads.nullable, IceCandidate.reads.ofList.read,
    hdtls.nullable]

include hrtp
omit hdtls

theorem SubscribeResponse.read (v : SubscribeResponse Rtp) :
    deserialize rtp (v.serialize rtp) = some v := by
  simp [deserialize, serialize, hrtp.nullable]

include hdtls

theorem ResponseType.reads : Reads (ResponseType.deserialize dtls rtp)
    (ResponseType.serialize dtls rtp) id := by
  constructor
  · intro v
    cases v with
    | createX v => simp [deserialize, serialize, v.read hdtls]
    | sub v => simp [deserialize, serialize, v.read hrtp]
    | _ v => simp [deserialize, serialize, v.read]
  · intro v
    cases v <;> exact Json.noConfusion

/-- A response is read as it was written. -/
theorem ResponseRef.read (v : ResponseRef Dtls Rtp) :
    Response.deserialize dtls rtp (v.serialize dtls rtp) = some v.toOwned := by
  simp [Response.deserialize, serialize, toOwned, Status.reads.nullable,
    (ResponseType.reads hdtls hrtp).nullable]

end Derived

end VvClient.V1
