import VvClient.Proto.V1

/-! The requests of a client as they are read. -/
namespace VvClient.V1

open Json

structure PreferredLayers where
  spatialLayer : UInt32
  temporalLayer : Int32
  deriving DecidableEq

namespace PreferredLayers

def serialize (v : PreferredLayers) : Json :=
  .obj (field (camelCase "spatial_layer") (ofUInt32 v.spatialLayer) ++
    field (camelCase "temporal_layer") (ofInt32 v.temporalLayer))

def deserialize (j : Json) : Option PreferredLayers := do
  let fs ← toFields j
  let spatialLayer ← required (camelCase "spatial_layer") toUInt32 fs
  let temporalLayer ← required (camelCase "temporal_layer") toInt32 fs
  return ⟨spatialLayer,temporalLayer⟩

theorem reads : Reads deserialize serialize id :=
  ⟨fun v => by simp [deserialize, serialize],fun _ => Json.noConfusion⟩

end PreferredLayers

structure UpdateTreeRequest where
  path : Option String
  value : Option String
  prune : Option Bool
  deriving DecidableEq

structure OpenSessionRequest where
  userId : String
  roomId : String
  userExt : Option String
  userTree : Option (List UpdateTreeRequest)
  batch : Option Bool
  deriving DecidableEq

structure ReconnectRequest where
  sessionId : String
  token : Option String
  trySeq : Int64
  lastSuccessSeq : Int64
  magic : Int32
  deriving DecidableEq

structure CloseSessionRequest where
  roomId : String
  ends : Option Bool
  deriving DecidableEq

structure CreateWebrtcTransportRequest (Dtls : Type) where
  roomId : String
  dir : Int32
  kind : Int32
  dtls : Option Dtls

structure ConnectWebrtcTransportRequest (Dtls : Type) where
  xid : String
  dtls : Option Dtls

structure PublishRequest (Rtp : Type) where
  roomId : String
  xid : String
  streamId : String
  stype : Int32
  rtp : Option Rtp
  audioType : Int32
  muted : Option Bool

structure UnPublishRequest where
  roomId : String
  producerId : Option String
  streamId : Option String
  deriving DecidableEq

structure SubscribeRequest where
  roomId : String
  streamId : String
  producerId : String
  xid : String
  preferredLayers : Option PreferredLayers
  deriving DecidableEq

structure UnSubscribeRequest where
  roomId : String
  consumerId : String
  deriving DecidableEq

structure MuteRequest where
  roomId : String
  producerId : Option String
  streamId : Option String
  muted : Bool
  deriving DecidableEq

structure LayerRequest where
  roomId : String
  consumerId : String
  preferredLayers : Option PreferredLayers
  deriving DecidableEq

structure UpdateExtRequest where
  ext : Option String
  deriving DecidableEq

structure ChatRequest where
  toId : Option String
  body : String
  deriving DecidableEq

abbrev EndRequest := NoFields
abbrev BatchEndRequest := NoFields
abbrev HeartbeatRequest := NoFields

inductive MsgType (Dtls Rtp : Type)
  | opens (v : OpenSessionRequest)
  | reconn (v : ReconnectRequest)
  | close (v : CloseSessionRequest)
  | createX (v : CreateWebrtcTransportRequest Dtls)
  | connX (v : ConnectWebrtcTransportRequest Dtls)
  | pub (v : PublishRequest Rtp)
  | uPub (v : UnPublishRequest)
  | sub (v : SubscribeRequest)
  | uSub (v : UnSubscribeRequest)
  | mute (v : MuteRequest)
  | layer (v : LayerRequest)
  | ends (v : EndRequest)
  | upExt (v : UpdateExtRequest)
  | upUTree (v : UpdateTreeRequest)
  | upRTree (v : UpdateTreeRequest)
  | chat (v : ChatRequest)
  | bEnd (v : BatchEndRequest)
  | hb (v : HeartbeatRequest)

/-- `ClientMessage`, also named `ClientRequest` -/
structure ClientMessage (Dtls Rtp : Type) where
  typ : Option (MsgType Dtls Rtp)

def UpdateTreeRequest.deserialize (j : Json) : Option UpdateTreeRequest := do
  let fs ← toFields j
  let path ← Json.optional (camelCase "path") toStr fs
  let value ← Json.optional (camelCase "value") toStr fs
  let prune ← Json.optional (camelCase "prune") toBool fs
  return ⟨path,value,prune⟩

def OpenSessionRequest.deserialize (j : Json) : Option OpenSessionRequest := do
  let fs ← toFields j
  let userId ← required "user_id" toStr fs
  let roomId ← required "room_id" toStr fs
  let userExt ← Json.optional "user_ext" toStr fs
  let userTree ← Json.optional "user_tree" (toList UpdateTreeRequest.deserialize) fs
  let batch ← Json.optional "batch" toBool fs
  return ⟨userId,roomId,userExt,userTree,batch⟩

def ReconnectRequest.deserialize (j : Json) : Option ReconnectRequest := do
  let fs ← toFields j
  let sessionId ← required "session_id" toStr fs
  let token ← Json.optional "token" toStr fs
  let trySeq ← required "try_seq" toInt64 fs
  let lastSuccessSeq ← required "last_success_seq" toInt64 fs
  let magic ← required "magic" toInt32 fs
  return ⟨sessionId,token,trySeq,lastSuccessSeq,magic⟩

def CloseSessionRequest.deserialize (j : Json) : Option CloseSessionRequest := do
  let fs ← toFields j
  let roomId ← required "room_id" toStr fs
  let ends ← Json.optional "end" toBool fs
  return ⟨roomId,ends⟩

def UnPublishRequest.deserialize (j : Json) : Option UnPublishRequest := do
  let fs ← toFields j
  let roomId ← required (camelCase "room_id") toStr fs
  let producerId ← Json.optional (camelCase "producer_id") toStr fs
  let streamId ← Json.optional (camelCase "stream_id") toStr fs
  return ⟨roomId,producerId,streamId⟩

def SubscribeRequest.deserialize (j : Json) : Option SubscribeRequest := do
  let fs ← toFields j
  let roomId ← required (camelCase "room_id") toStr fs
  let streamId ← required (camelCase "stream_id") toStr fs
  let producerId ← required (camelCase "producer_id") toStr fs
  let xid ← required (camelCase "xid") toStr fs
  let preferredLayers ← Json.optional (camelCase "preferred_layers") PreferredLayers.deserialize fs
  return ⟨roomId,streamId,producerId,xid,preferredLayers⟩

def UnSubscribeRequest.deserialize (j : Json) : Option UnSubscribeRequest := do
  let fs ← toFields j
  let roomId ← required (camelCase "room_id") toStr fs
  let consumerId ← required (camelCase "consumer_id") toStr fs
  return ⟨roomId,consumerId⟩

def MuteRequest.deserialize (j : Json) : Option MuteRequest := do
  let fs ← toFields j
  let roomId ← required (camelCase "room_id") toStr fs
  let producerId ← Json.optional (camelCase "producer_id") toStr fs
  let streamId ← Json.optional (camelCase "stream_id") toStr fs
  let muted ← required (camelCase "muted") toBool fs
  return ⟨roomId,producerId,streamId,muted⟩

def LayerRequest.deserialize (j : Json) : Option LayerRequest := do
  let fs ← toFields j
  let roomId ← required (camelCase "room_id") toStr fs
  let consumerId ← required (camelCase "consumer_id") toStr fs
  let preferredLayers ← Json.optional (camelCase "preferred_layers") PreferredLayers.deserialize fs
  return ⟨roomId,consumerId,preferredLayers⟩

def UpdateExtRequest.deserialize (j : Json) : Option UpdateExtRequest := do
  let fs ← toFields j
  let ext ← Json.optional (camelCase "ext") toStr fs
  return ⟨ext⟩

def ChatRequest.deserialize (j : Json) : Option ChatRequest := do
  let fs ← toFields j
  let toId ← Json.optional (camelCase "to") toStr fs
  let body ← required (camelCase "body") toStr fs
  return ⟨toId,body⟩

section Media
variable {Dtls Rtp : Type} (dtls : Codec Dtls) (rtp : Codec Rtp)

def CreateWebrtcTransportRequest.deserialize (j : Json) :
    Option (CreateWebrtcTransportRequest Dtls) := do
  let fs ← toFields j
  let roomId ← required (camelCase "room_id") toStr fs
  let dir ← required (camelCase "dir") toInt32 fs
  let kind ← required (camelCase "kind") toInt32 fs
  let dtls ← Json.optional (camelCase "dtls") dtls.deserialize fs
  return ⟨roomId,dir,kind,dtls⟩

def ConnectWebrtcTransportRequest.deserialize (j : Json) :
    Option (ConnectWebrtcTransportRequest Dtls) := do
  let fs ← toFields j
  let xid ← required (camelCase "xid") toStr fs
  let dtls ← Json.optional (camelCase "dtls") dtls.deserialize fs
  return ⟨xid,dtls⟩

def PublishRequest.deserialize (j : Json) : Option (PublishRequest Rtp) := do
  let fs ← toFields j
  let roomId ← required (camelCase "room_id") toStr fs
  let xid ← required (camelCase "xid") toStr fs
  let streamId ← required (camelCase "stream_id") toStr fs
  let stype ← required (camelCase "stype") toInt32 fs
  let rtp ← Json.optional (camelCase "rtp") rtp.deserialize fs
  let audioType ← required (camelCase "audio_type") toInt32 fs
  let muted ← Json.optional (camelCase "muted") toBool fs
  return ⟨roomId,xid,streamId,stype,rtp,audioType,muted⟩

def MsgType.deserialize (j : Json) : Option (MsgType Dtls Rtp) := do
  let (tag,v) ← toVariant j
  match tag with
  | "Open" => (OpenSessionRequest.deserialize v).map .opens
  | "Reconn" => (ReconnectRequest.deserialize v).map .reconn
  | "Close" => (CloseSessionRequest.deserialize v).map .close
  | "CreateX" => (CreateWebrtcTransportRequest.deserialize dtls v).map .createX
  | "ConnX" => (ConnectWebrtcTransportRequest.deserialize dtls v).map .connX
  | "Pub" => (PublishRequest.deserialize rtp v).map .pub
  | "UPub" => (UnPublishRequest.deserialize v).map .uPub
  | "Sub" => (SubscribeRequest.deserialize v).map .sub
  | "USub" => (UnSubscribeRequest.deserialize v).map .uSub
  | "Mute" => (MuteRequest.deserialize v).map .mute
  | "Layer" => (LayerRequest.deserialize v).map .layer
  | "End" => (NoFields.deserialize v).map .ends
  | "UpExt" => (UpdateExtRequest.deserialize v).map .upExt
  | "UpUTree" => (UpdateTreeRequest.deserialize v).map .upUTree
  | "UpRTree" => (UpdateTreeRequest.deserialize v).map .upRTree
  | "Chat" => (ChatRequest.deserialize v).map .chat
  | "BEnd" => (NoFields.deserialize v).map .bEnd
  | "HB" => (NoFields.deserialize v).map .hb
  | _ => none

def ClientMessage.deserialize (j : Json) : Option (ClientMessage Dtls Rtp) := do
  let fs ← toFields j
  let typ ← Json.optional "typ" (MsgType.deserialize dtls rtp) fs
  return ⟨typ⟩

end Media

end VvClient.V1
