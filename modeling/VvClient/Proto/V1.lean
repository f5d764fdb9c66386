import VvClient.Lib.Json
import VvClient.Proto.Message

/-! The types of the protocol, with the serializers and deserializers that are derived for them. The
media parameters of a transport and of a stream are read and written by the codecs `dtls` and
`rtp`. -/
namespace VvClient

/-- A map with these entries, where a later entry replaces one with the same key. -/
def HashMap.ofEntries {κ ν : Type} [DecidableEq κ] (es : List (κ × ν)) : HashMap κ ν where
  entries := (List.dedupKeys (es.reverse.map fun e => ⟨e.1,e.2⟩)).reverse
  nodupKeys := by
    rw [List.NodupKeys, List.keys, List.map_reverse, List.nodup_reverse]
    exact List.nodupKeys_dedupKeys _

/-- The entries in the order of an iteration. -/
def HashMap.iter {κ ν : Type} (m : HashMap κ ν) : List (κ × ν) := m.entries.map fun e => (e.1,e.2)

lemma dedupKeys_of_nodupKeys {κ : Type} {β : κ → Type} [DecidableEq κ] {l : List (Sigma β)}
    (h : l.NodupKeys) : l.dedupKeys = l := by
  induction l with
  | nil => rfl
  | cons x l ih =>
    rw [List.nodupKeys_cons] at h
    rw [List.dedupKeys_cons, ih h.2, List.kinsert_def, List.kerase_of_notMem_keys h.1]

@[simp] theorem HashMap.ofEntries_iter {κ ν : Type} [DecidableEq κ] (m : HashMap κ ν) :
    ofEntries m.iter = m := by
  apply AList.ext
  have hentries : (m.iter.reverse.map fun e => (⟨e.1,e.2⟩ : Sigma fun _ : κ => ν)) = m.entries.reverse := by
    simp [iter, List.map_reverse, Function.comp_def]
  have hnodup : m.entries.reverse.NodupKeys := by
    rw [List.NodupKeys, List.keys, List.map_reverse, List.nodup_reverse]
    exact m.nodupKeys
  change (List.dedupKeys (m.iter.reverse.map fun e => ⟨e.1,e.2⟩)).reverse = m.entries
  rw [hentries, dedupKeys_of_nodupKeys hnodup, List.reverse_reverse]

namespace V1

open Json

/-- The names of the renamed fields. -/
@[simp] theorem camelCase_names :
    camelCase "room_id" = "roomId" ∧ camelCase "producer_id" = "producerId" ∧
    camelCase "stream_id" = "streamId" ∧ camelCase "consumer_id" = "consumerId" ∧
    camelCase "audio_type" = "audioType" ∧ camelCase "preferred_layers" = "preferredLayers" ∧
    camelCase "spatial_layer" = "spatialLayer" ∧ camelCase "temporal_layer" = "temporalLayer" ∧
    camelCase "username_fragment" = "usernameFragment" ∧ camelCase "ice_lite" = "iceLite" ∧
    camelCase "ice_param" = "iceParam" ∧ camelCase "ice_candidates" = "iceCandidates" ∧
    camelCase "tcp_type" = "tcpType" ∧ camelCase "password" = "password" ∧
    camelCase "muted" = "muted" ∧ camelCase "xid" = "xid" ∧ camelCase "dir" = "dir" ∧
    camelCase "kind" = "kind" ∧ camelCase "dtls" = "dtls" ∧ camelCase "stype" = "stype" ∧
    camelCase "rtp" = "rtp" ∧ camelCase "foundation" = "foundation" ∧
    camelCase "priority" = "priority" ∧ camelCase "address" = "address" ∧ camelCase "ip" = "ip" ∧
    camelCase "protocol" = "protocol" ∧ camelCase "port" = "port" ∧ camelCase "type" = "type" ∧
    camelCase "path" = "path" ∧ camelCase "value" = "value" ∧ camelCase "prune" = "prune" ∧
    camelCase "ext" = "ext" ∧ camelCase "to" = "to" ∧ camelCase "body" = "body" ∧
    camelCase "updated" = "updated" := by decide

/-- A struct without fields; it is read from any object. -/
structure NoFields where
  deriving DecidableEq

namespace NoFields

def serialize (_ : NoFields) : Json := .obj []

def deserialize (j : Json) : Option NoFields := (toFields j).map fun _ => ⟨⟩

theorem read (v : NoFields) : deserialize v.serialize = some v := rfl

end NoFields

structure PacketRef where
  typ : Option Int32
  sn : Option Int64
  body : Option String
  ack : Option Int64
  deriving DecidableEq

def PacketRef.deserialize (j : Json) : Option PacketRef := do
  let fs ← toFields j
  let typ ← Json.optional "typ" toInt32 fs
  let sn ← Json.optional "sn" toInt64 fs
  let body ← Json.optional "body" toStr fs
  let ack ← Json.optional "ack" toInt64 fs
  return ⟨typ,sn,body,ack⟩

structure Status where
  code : Int32
  reason : String
  deriving DecidableEq

namespace Status

def serialize (v : Status) : Json :=
  .obj (field "code" (ofInt32 v.code) ++ field "reason" (.str v.reason))

def deserialize (j : Json) : Option Status := do
  let fs ← toFields j
  let code ← required "code" toInt32 fs
  let reason ← required "reason" toStr fs
  return ⟨code,reason⟩

theorem reads : Reads deserialize serialize id :=
  ⟨fun v => by simp [deserialize, serialize],fun _ => Json.noConfusion⟩

end Status

section Push

structure IdRef where
  id : String

structure Id where
  id : String
  deriving DecidableEq

def IdRef.serialize (v : IdRef) : Json := .obj (field "id" (.str v.id))

def Id.deserialize (j : Json) : Option Id := do
  let fs ← toFields j
  let id ← required "id" toStr fs
  return ⟨id⟩

def IdRef.toOwned (v : IdRef) : Id := ⟨v.id⟩

theorem IdRef.read (v : IdRef) : Id.deserialize v.serialize = some v.toOwned := by
  simp [Id.deserialize, serialize, toOwned]

structure ClosedNoticeRef where
  status : Option Status

structure ClosedNotice where
  status : Option Status
  deriving DecidableEq

def ClosedNoticeRef.serialize (v : ClosedNoticeRef) : Json :=
  .obj (skipNone "status" Status.serialize v.status)

def ClosedNotice.deserialize (j : Json) : Option ClosedNotice := do
  let fs ← toFields j
  let status ← Json.optional "status" Status.deserialize fs
  return ⟨status⟩

def ClosedNoticeRef.toOwned (v : ClosedNoticeRef) : ClosedNotice := ⟨v.status⟩

theorem ClosedNoticeRef.read (v : ClosedNoticeRef) :
    ClosedNotice.deserialize v.serialize = some v.toOwned := by
  simp [ClosedNotice.deserialize, serialize, toOwned, Status.reads.skipped]

structure ChatNoticeRef where
  fromId : String
  toId : String
  body : String

structure ChatNotice where
  fromId : String
  toId : String
  body : String
  deriving DecidableEq

def ChatNoticeRef.serialize (v : ChatNoticeRef) : Json :=
  .obj (field "from" (.str v.fromId) ++ field "to" (.str v.toId) ++ field "body" (.str v.body))

def ChatNotice.deserialize (j : Json) : Option ChatNotice := do
  let fs ← toFields j
  let fromId ← required "from" toStr fs
  let toId ← required "to" toStr fs
  let body ← required "body" toStr fs
  return ⟨fromId,toId,body⟩

def ChatNoticeRef.toOwned (v : ChatNoticeRef) : ChatNotice := ⟨v.fromId,v.toId,v.body⟩

theorem ChatNoticeRef.read (v : ChatNoticeRef) :
    ChatNotice.deserialize v.serialize = some v.toOwned := by
  simp [ChatNotice.deserialize, serialize, toOwned]

structure TreeStateRef where
  path : String
  value : Option String
  id : Option String
  prune : Option Bool

structure TreeState where
  path : String
  value : Option String
  id : Option String
  prune : Option Bool
  deriving DecidableEq

def TreeStateRef.serialize (v : TreeStateRef) : Json :=
  .obj (field "path" (.str v.path) ++ skipNone "value" .str v.value ++ skipNone "id" .str v.id ++
    skipNone "prune" .bool v.prune)

def TreeState.deserialize (j : Json) : Option TreeState := do
  let fs ← toFields j
  let path ← required "path" toStr fs
  let value ← Json.optional "value" toStr fs
  let id ← Json.optional "id" toStr fs
  let prune ← Json.optional "prune" toBool fs
  return ⟨path,value,id,prune⟩

def TreeStateRef.toOwned (v : TreeStateRef) : TreeState := ⟨v.path,v.value,v.id,v.prune⟩

theorem TreeStateRef.read (v : TreeStateRef) :
    TreeState.deserialize v.serialize = some v.toOwned := by
  simp [TreeState.deserialize, serialize, toOwned]

structure Stream where
  seq : Int64
  stype : Int32
  producerId : String
  muted : Bool
  deriving DecidableEq

namespace Stream

def serialize (v : Stream) : Json :=
  .obj (field "seq" (ofInt64 v.seq) ++ field "stype" (ofInt32 v.stype) ++
    field "producer_id" (.str v.producerId) ++ field "muted" (.bool v.muted))

def deserialize (j : Json) : Option Stream := do
  let fs ← toFields j
  let seq ← required "seq" toInt64 fs
  let stype ← required "stype" toInt32 fs
  let producerId ← required "producer_id" toStr fs
  let muted ← required "muted" toBool fs
  return ⟨seq,stype,producerId,muted⟩

theorem reads : Reads deserialize serialize id :=
  ⟨fun v => by simp [deserialize, serialize],fun _ => Json.noConfusion⟩

end Stream

structure UserState where
  id : String
  online : Bool
  streams : HashMap String Stream
  ext : Option String
  instId : String

namespace UserState

def serialize (v : UserState) : Json :=
  .obj (field "id" (.str v.id) ++ field "online" (.bool v.online) ++
    field "streams" (ofMap Stream.serialize v.streams.iter) ++ skipNone "ext" .str v.ext ++
    field "inst_id" (.str v.instId))

def deserialize (j : Json) : Option UserState := do
  let fs ← toFields j
  let id ← required "id" toStr fs
  let online ← required "online" toBool fs
  let streams ← required "streams" (toEntries Stream.deserialize) fs
  let ext ← Json.optional "ext" toStr fs
  let instId ← required "inst_id" toStr fs
  return ⟨id,online,.ofEntries streams,ext,instId⟩

theorem read (v : UserState) : deserialize v.serialize = some v := by
  simp [deserialize, serialize, Stream.reads.ofMap.read]

end UserState

inductive ServerPushTypeRef
  | closed (v : ClosedNoticeRef)
  | chat (v : ChatNoticeRef)
  | uInit (v : IdRef)
  | uReady (v : IdRef)
  | uFull (v : UserState)
  | uTree (v : TreeStateRef)
  | rTree (v : TreeStateRef)
  | rReady (v : IdRef)

inductive ServerPushType
  | closed (v : ClosedNotice)
  | chat (v : ChatNotice)
  | uInit (v : Id)
  | uReady (v : Id)
  | uFull (v : UserState)
  | uTree (v : TreeState)
  | rTree (v : TreeState)
  | rReady (v : Id)

def ServerPushTypeRef.serialize : ServerPushTypeRef → Json
  | .closed v => tagged "Closed" v.serialize
  | .chat v => tagged "Chat" v.serialize
  | .uInit v => tagged "UInit" v.serialize
  | .uReady v => tagged "UReady" v.serialize
  | .uFull v => tagged "UFull" v.serialize
  | .uTree v => tagged "UTree" v.serialize
  | .rTree v => tagged "RTree" v.serialize
  | .rReady v => tagged "RReady" v.serialize

def ServerPushType.deserialize (j : Json) : Option ServerPushType := do
  let (tag,v) ← toVariant j
  match tag with
  | "Closed" => (ClosedNotice.deserialize v).map .closed
  | "Chat" => (ChatNotice.deserialize v).map .chat
  | "UInit" => (Id.deserialize v).map .uInit
  | "UReady" => (Id.deserialize v).map .uReady
  | "UFull" => (UserState.deserialize v).map .uFull
  | "UTree" => (TreeState.deserialize v).map .uTree
  | "RTree" => (TreeState.deserialize v).map .rTree
  | "RReady" => (Id.deserialize v).map .rReady
  | _ => none

def ServerPushTypeRef.toOwned : ServerPushTypeRef → ServerPushType
  | .closed v => .closed v.toOwned
  | .chat v => .chat v.toOwned
  | .uInit v => .uInit v.toOwned
  | .uReady v => .uReady v.toOwned
  | .uFull v => .uFull v
  | .uTree v => .uTree v.toOwned
  | .rTree v => .rTree v.toOwned
  | .rReady v => .rReady v.toOwned

theorem ServerPushTypeRef.read (v : ServerPushTypeRef) :
    ServerPushType.deserialize v.serialize = some v.toOwned := by
  cases v with
  | _ v => simp [ServerPushType.deserialize, serialize, toOwned, v.read]

structure ServerPushRef where
  typ : ServerPushTypeRef

structure ServerPush where
  typ : ServerPushType

def ServerPushRef.serialize (v : ServerPushRef) : Json := .obj (field "typ" v.typ.serialize)

def ServerPush.deserialize (j : Json) : Option ServerPush := do
  let fs ← toFields j
  let typ ← required "typ" ServerPushType.deserialize fs
  return ⟨typ⟩

def ServerPushRef.toOwned (v : ServerPushRef) : ServerPush := ⟨v.typ.toOwned⟩

theorem ServerPushRef.read (v : ServerPushRef) :
    ServerPush.deserialize v.serialize = some v.toOwned := by
  simp [ServerPush.deserialize, serialize, toOwned, v.typ.read]

end Push

end V1
end VvClient
