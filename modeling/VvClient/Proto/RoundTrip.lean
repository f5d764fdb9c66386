import VvClient.Lib.JsonText
import VvClient.Proto.V1Ser

/-! The texts of the protocol are read as what was written, the packets with the texts inside them
too. -/
namespace VvClient.V1

open Json

/-- `serde_json::from_str` -/
def fromStr {α : Type} (text : JsonText) (deserialize : Json → Option α) (json : String) : Option α :=
  (text.read json).bind deserialize

def PacketRef.fromJson (text : JsonText) (json : String) : Option PacketRef :=
  fromStr text PacketRef.deserialize json

/-- A value that is shown, and serialized as a string, by its JSON text. -/
structure JsonDisplay (T : Type) where
  value : T

namespace JsonDisplay
variable {T : Type} (text : JsonText) (value : T → Json)

def fmt (v : JsonDisplay T) : String := text.write (value v.value)

def serialize (v : JsonDisplay T) : Json := .str (v.fmt text value)

lemma reads : Reads toStr (serialize text value) (fmt text value) :=
  ⟨fun _ => rfl,fun _ => Json.noConfusion⟩

end JsonDisplay

theorem PacketSer.read {T : Type} (text : JsonText) (value : T → Json) (v : PacketSer (JsonDisplay T)) :
    PacketRef.deserialize (v.serialize (JsonDisplay.serialize text value)) =
      some ⟨v.typ,v.sn,v.body.map (JsonDisplay.fmt text value),v.ack⟩ := by
  simp [PacketRef.deserialize, serialize, (JsonDisplay.reads text value).skipped]

/-- Every message is read as what was written. -/
structure RoundTrips {Dtls Rtp : Type} (text : JsonText) (dtls : Codec Dtls) (rtp : Codec Rtp) : Prop where
  request : ∀ (Device : Type) (device : Device → Json)
    (v : ClientRequestSer (RequestTypeSer Device Dtls Rtp)),
    fromStr text (ClientMessage.deserialize dtls rtp)
      (text.write (v.serialize (RequestTypeSer.serialize device dtls rtp))) =
        some ⟨some v.typ.toOwned⟩
  push : ∀ v : ServerPushRef,
    fromStr text ServerPush.deserialize (text.write v.serialize) = some v.toOwned
  response : ∀ v : ResponseRef Dtls Rtp,
    fromStr text (Response.deserialize dtls rtp) (text.write (v.serialize dtls rtp)) = some v.toOwned
  packet : ∀ (T : Type) (value : T → Json) (v : PacketSer (JsonDisplay T)),
    PacketRef.fromJson text (text.write (v.serialize (JsonDisplay.serialize text value))) =
      some ⟨v.typ,v.sn,v.body.map (JsonDisplay.fmt text value),v.ack⟩

lemma fromStr_write {α : Type} {text : JsonText} (htext : text.Lawful)
    (deserialize : Json → Option α) (j : Json) :
    fromStr text deserialize (text.write j) = deserialize j := by
  rw [fromStr, htext, Option.bind_some]

/-- The wire format decodes to what was encoded. -/
theorem round_trips {Dtls Rtp : Type} {text : JsonText} (htext : text.Lawful) {dtls : Codec Dtls}
    (hdtls : dtls.Lawful) {rtp : Codec Rtp} (hrtp : rtp.Lawful) : RoundTrips text dtls rtp where
  request _ device v := by rw [fromStr_write htext, v.read device hdtls hrtp]
  push v := by rw [fromStr_write htext, v.read]
  response v := by rw [fromStr_write htext, v.read hdtls hrtp]
  packet _ value v := by rw [PacketRef.fromJson, fromStr_write htext, v.read text value]

/-- Parameters that are kept as the object they are written as. -/
def objectCodec : Codec Fields := ⟨.obj,toFields⟩

theorem round_trips_compact : RoundTrips JsonText.compact objectCodec objectCodec :=
  round_trips JsonText.compact_lawful ⟨fun _ => rfl,fun _ => Json.noConfusion⟩
    ⟨fun _ => rfl,fun _ => Json.noConfusion⟩

section Seen

def PacketRef.toPacket (v : PacketRef) : Packet :=
  ⟨v.typ.map Int32.toInt,v.sn.map Int64.toInt,v.body,v.ack.map Int64.toInt⟩

/-- What the client works with of a message it has read. -/
def Status.seen (v : Status) : VvClient.Status := ⟨v.code.toInt,v.reason⟩

def Stream.seen (v : Stream) : VvClient.Stream := ⟨v.seq.toInt,v.stype.toInt,v.producerId,v.muted⟩

def UserState.seen (v : UserState) : VvClient.UserState :=
  ⟨v.id,v.online,.ofEntries (v.streams.iter.map fun e => (e.1,e.2.seen)),v.ext,v.instId⟩

def TreeState.seen (v : TreeState) : VvClient.TreeState := ⟨v.path,v.value,v.id,v.prune⟩

def ServerPush.seen (v : ServerPush) : VvClient.ServerPush :=
  match v.typ with
  | .closed n => .closed (n.status.map Status.seen)
  | .chat n => .chat ⟨n.fromId,n.toId,n.body⟩
  | .uInit i => .uInit i.id
  | .uReady i => .uReady i.id
  | .uFull u => .uFull u.seen
  | .uTree t => .uTree t.seen
  | .rTree t => .rTree t.seen
  | .rReady i => .rReady i.id

variable {Dtls Rtp : Type} (text : JsonText) (dtls : Codec Dtls) (rtp : Codec Rtp)

/-- The media parameters are handed on as texts; the candidates carry their address as `ip`. -/
def ResponseType.seen : ResponseType Dtls Rtp → VvClient.ResponseType
  | .opened v => .opened v.sessionId v.connId
  | .reconn v => .reconn v.connId
  | .close _ => .close
  | .createX v => .createX v.xid (v.iceParam.map fun p => text.write p.serialize)
      (text.write (IterSer.serialize IceCandidateSer.serialize
        ⟨v.iceCandidates.map IceCandidateSer.ofOwned⟩))
      (v.dtls.map fun d => text.write (dtls.serialize d))
  | .connX _ => .connX
  | .pub v => .pub v.producerId
  | .uPub _ => .uPub
  | .sub v => .sub v.consumerId (v.rtp.map fun r => text.write (rtp.serialize r))
  | .uSub _ => .uSub
  | .mute _ => .mute
  | .layer _ => .layer
  | .ended v => .ended v.updated
  | .upExt _ => .upExt
  | .upUTree _ => .upUTree
  | .upRTree _ => .upRTree
  | .chat _ => .chat
  | .bEnd _ => .bEnd
  | .hb _ => .hb

def Response.seen (v : Response Dtls Rtp) : ServerResponse :=
  ⟨v.status.map Status.seen,v.typ.map (ResponseType.seen text dtls rtp)⟩

/-- The body of a request, as `into_body` makes it. -/
def requestBody (typ : RequestTypeSer Unit Dtls Rtp) : String :=
  text.write (ClientRequestSer.serialize (RequestTypeSer.serialize (fun _ => .null) dtls rtp) ⟨typ⟩)

/-- The reader and writer of the client over these texts. -/
def serde (duration : ℕ → String) : Serde where
  packet json := (PacketRef.fromJson text json).map PacketRef.toPacket
  serverRsp body := (fromStr text (Response.deserialize dtls rtp) body).map (Response.seen text dtls rtp)
  serverPush body := (fromStr text ServerPush.deserialize body).map ServerPush.seen
  reconnectRequest r := requestBody text dtls rtp (.reconn
    ⟨r.sessionId,r.token,.ofInt r.trySeq,.ofInt r.lastSuccessSeq,.ofInt r.magic⟩)
  heartbeatRequest := requestBody text dtls rtp (.hb ⟨⟩)
  duration := duration

variable {text dtls rtp} (htext : text.Lawful) (hdtls : dtls.Lawful) (hrtp : rtp.Lawful)
  (duration : ℕ → String)
include htext

theorem serde_packet {T : Type} (value : T → Json) (v : PacketSer (JsonDisplay T)) :
    (serde text dtls rtp duration).packet (text.write (v.serialize (JsonDisplay.serialize text value))) =
      some ⟨v.typ.map Int32.toInt,v.sn.map Int64.toInt,v.body.map (JsonDisplay.fmt text value),
        v.ack.map Int64.toInt⟩ := by
  simp only [serde, PacketRef.fromJson, fromStr_write htext, v.read text value, Option.map_some,
    PacketRef.toPacket]

theorem serde_serverPush (v : ServerPushRef) :
    (serde text dtls rtp duration).serverPush (text.write v.serialize) = some v.toOwned.seen := by
  simp only [serde, fromStr_write htext, v.read, Option.map_some]

include hdtls hrtp

theorem serde_serverRsp (v : ResponseRef Dtls Rtp) :
    (serde text dtls rtp duration).serverRsp (text.write (v.serialize dtls rtp)) =
      some (v.toOwned.seen text dtls rtp) := by
  simp only [serde, fromStr_write htext, v.read hdtls hrtp, Option.map_some]

/-- The server reads what the client asks for when it resumes a session. -/
theorem serde_reconnectRequest (r : VvClient.ReconnectRequest) :
    fromStr text (ClientMessage.deserialize dtls rtp)
      ((serde text dtls rtp duration).reconnectRequest r) =
        some ⟨some (.reconn ⟨r.sessionId,r.token,.ofInt r.trySeq,.ofInt r.lastSuccessSeq,.ofInt r.magic⟩)⟩ := by
  simp only [serde, requestBody, fromStr_write htext]
  exact ClientRequestSer.read _ hdtls hrtp _

end Seen

end VvClient.V1
