import VvClient.Client.Task
import VvClient.Proto.RoundTrip

/-! What a client joins a room with, the request that it makes of this to open its session, and how
a server reads the requests of the worker itself. -/
namespace VvClient

open V1 Json

/-- The entries of `device` stand in the order of an iteration over the map. -/
structure ClientInfo where
  clientId : Option String
  platform : Option String
  sdkName : Option String
  sdkVersion : Option String
  device : Option (List (String × String))

structure JoinAdvanceArgs where
  userExt : Option String
  userTree : Option (List UpdateTreeRequest)
  connection : ConnectionConfig
  batch : Option Bool
  token : Option String
  clientInfo : Option ClientInfo

/-- `JoinConfig` with the fields that the open request is made of. -/
structure JoinArgs where
  userId : String
  roomId : String
  advance : JoinAdvanceArgs

/-- `SignalConfig` with the fields that the open request is made of. -/
structure SignalArgs extends SignalConfig where
  userId : String
  roomId : String
  token : Option String
  clientInfo : Option ClientInfo

/-- `impl Into<JoinConfig> for SignalConfig` -/
def SignalArgs.intoJoin (c : SignalArgs) : JoinArgs where
  userId := c.userId
  roomId := c.roomId
  advance :=
    { userExt := none
      userTree := none
      connection := c.toSignalConfig.intoConnection
      batch := none
      token := c.token
      clientInfo := c.clientInfo }

/-- A map of texts as it is written. -/
def deviceJson (device : List (String × String)) : Json := .obj (device.map fun e => (e.1,.str e.2))

/-- The part of `open_session_send` that is about the client. -/
def ClientInfo.toSer (ci : ClientInfo) : ClientInfoSer (List (String × String)) where
  clientId := ci.clientId
  platform := ci.platform
  sdk := if ci.sdkName.isSome || ci.sdkVersion.isSome then some ⟨ci.sdkName,ci.sdkVersion⟩ else none
  device := ci.device

/-- `PacketRef::parse_as_client_req`, with which a server reads a request. -/
def Packet.parseAsClientReq {Dtls Rtp : Type} (text : JsonText) (dtls : Codec Dtls) (rtp : Codec Rtp)
    (p : Packet) : Except Error (ClientMessage Dtls Rtp) :=
  if p.typ? ≠ some .request then .error (.msg "expect request but typ")
  else match p.body with
  | none => .error (.msg "expect request body")
  | some body =>
    match fromStr text (ClientMessage.deserialize dtls rtp) body with
    | none => .error (.msg "invalid client req body")
    | some req => .ok req

/-- A request without a number, which opens or resumes a session. -/
def Packet.handshake (body : String) : Packet := ⟨some PacketType.request.asNum,none,some body,none⟩

section Handshake
variable {Device Dtls Rtp : Type} (text : JsonText) (device : Device → Json) (dtls : Codec Dtls)
  (rtp : Codec Rtp) (typ : RequestTypeSer Device Dtls Rtp)

/-- A request as `into_body` displays it. -/
def bodyJson (m : ClientRequestSer (RequestTypeSer Device Dtls Rtp)) : Json :=
  m.serialize (RequestTypeSer.serialize device dtls rtp)

/-- The packet of `open_session_send` and `reconnect_session` as `send_packet_ser` writes it. -/
def handshakeText : String :=
  text.write (PacketSer.serialize (JsonDisplay.serialize text (bodyJson device dtls rtp))
    ⟨some (.ofInt PacketType.request.asNum),none,some ⟨⟨typ⟩⟩,none⟩)

variable {text dtls rtp} (htext : text.Lawful)
include htext

/-- The packet that is read of this text. -/
lemma handshakeText_packet :
    (PacketRef.fromJson text (handshakeText text device dtls rtp typ)).map PacketRef.toPacket =
      some (.handshake (text.write (bodyJson device dtls rtp ⟨typ⟩))) :=
  @serde_packet _ _ text dtls rtp htext (fun _ => "") _ _ _

/-- A server reads the request. -/
lemma parseAsClientReq_handshake (hdtls : dtls.Lawful) (hrtp : rtp.Lawful) :
    (Packet.handshake (text.write (bodyJson device dtls rtp ⟨typ⟩))).parseAsClientReq text dtls rtp =
      .ok ⟨some typ.toOwned⟩ := by
  have htyp : (Packet.handshake (text.write (bodyJson device dtls rtp ⟨typ⟩))).typ? = some .request := rfl
  have hread := ClientRequestSer.read device hdtls hrtp ⟨typ⟩
  rw [Packet.parseAsClientReq, if_neg (not_not.mpr htyp)]
  simp only [Packet.handshake, bodyJson, fromStr_write htext, hread]

end Handshake

namespace JoinArgs

/-- The request of `open_session_send`. -/
def openRequest (a : JoinArgs) : OpenSessionRequestSer (List (String × String)) where
  userId := a.userId
  roomId := a.roomId
  clientInfo := a.advance.clientInfo.map ClientInfo.toSer
  token := a.advance.token
  userExt := a.advance.userExt
  userTree := a.advance.userTree.map fun x => ⟨x.map UpdateTreeRequestSer.ofOwned⟩
  batch := a.advance.batch

/-- What a server gets to know of it. -/
def asked (a : JoinArgs) : OpenSessionRequest :=
  ⟨a.userId,a.roomId,a.advance.userExt,a.advance.userTree,a.advance.batch⟩

lemma openRequest_toOwned (a : JoinArgs) : a.openRequest.toOwned = a.asked := by
  have htree : UpdateTreeRequestSer.toOwned ∘ UpdateTreeRequestSer.ofOwned = id := rfl
  cases h : a.advance.userTree <;>
    simp [openRequest, OpenSessionRequestSer.toOwned, asked, h, htree]

/-- The configuration of the worker. -/
def config {Dtls Rtp : Type} (text : JsonText) (dtls : Codec Dtls) (rtp : Codec Rtp) (a : JoinArgs) :
    JoinConfig :=
  ⟨text.write (bodyJson deviceJson dtls rtp ⟨.opens a.openRequest⟩),a.advance.token,a.advance.connection⟩

end JoinArgs
end VvClient
