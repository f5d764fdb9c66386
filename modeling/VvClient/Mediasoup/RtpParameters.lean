import Mathlib.Data.String.Basic
import VvClient.Lib.SortedMap
import VvClient.Lib.Visitor
import VvClient.Mediasoup.MimeTypes
import VvClient.Mediasoup.ScalabilityModes

/-! The RTP parameters of a stream, with the serializers and deserializers that are derived for them
and the visitor of the feedback. -/
namespace VvClient.Mediasoup

open Json Radix

abbrev NonZeroU32 := NonZero 4294967296

section Numbers

/-- A `NonZero` type is written as the number that it holds. -/
def ofNonZero {size : ℕ} (hsize : size ≤ UInt64.size) (n : NonZero size) : Json :=
  .num ⟨n.val,Int.le_trans (by decide) (Int.natCast_nonneg _),
    Int.ofNat_lt.mpr (Nat.lt_of_lt_of_le n.lt hsize)⟩

def toNonZero (size : ℕ) (j : Json) : Option (NonZero size) :=
  j.toNat.bind fun n => if h : 0 < n ∧ n < size then some ⟨n,h.1,h.2⟩ else none

def ofNonZeroU8 : NonZeroU8 → Json := ofNonZero (by decide)
def ofNonZeroU32 : NonZeroU32 → Json := ofNonZero (by decide)

@[simp] theorem toNonZero_ofNonZero {size : ℕ} (hsize : size ≤ UInt64.size) (n : NonZero size) :
    toNonZero size (ofNonZero hsize n) = some n := by
  rw [toNonZero, ofNonZero, toNat_num, Option.bind_some, dif_pos ⟨n.pos,n.lt⟩]

@[simp] theorem toNonZero_ofNonZeroU8 (n : NonZeroU8) : toNonZero 256 (ofNonZeroU8 n) = some n :=
  toNonZero_ofNonZero _ n

@[simp] theorem toNonZero_ofNonZeroU32 (n : NonZeroU32) :
    toNonZero 4294967296 (ofNonZeroU32 n) = some n :=
  toNonZero_ofNonZero _ n

@[simp] theorem atMostOne_uint8 (a : Option UInt8) :
    atMostOne toUInt8 (a.toList.map ofUInt8) = some a := by
  have hreads : Reads toUInt8 ofUInt8 id := ⟨toUInt8_ofUInt8,fun _ => Json.noConfusion⟩
  simpa using hreads.skipped a

@[simp] theorem atMostOne_uint32 (a : Option UInt32) :
    atMostOne toUInt32 (a.toList.map ofUInt32) = some a := by
  have hreads : Reads toUInt32 ofUInt32 id := ⟨toUInt32_ofUInt32,fun _ => Json.noConfusion⟩
  simpa using hreads.skipped a

end Numbers

inductive RtpCodecParametersParametersValue
  | string (s : String)
  | number (n : UInt32)
  deriving DecidableEq

namespace RtpCodecParametersParametersValue

def serialize : RtpCodecParametersParametersValue → Json
  | string s => .str s
  | number n => ofUInt32 n

/-- The variants are tried in turn. -/
def deserialize (j : Json) : Option RtpCodecParametersParametersValue :=
  ((toStr j).map string).or ((toUInt32 j).map number)

theorem reads : Reads deserialize serialize id := by
  refine ⟨fun v => ?_,fun v => ?_⟩
  · cases v with
    | string s => rfl
    | number n =>
      have hstr : toStr (ofUInt32 n) = none := rfl
      simp [deserialize, serialize, hstr]
  · cases v <;> exact Json.noConfusion

end RtpCodecParametersParametersValue

abbrev RtpCodecParametersParameters := SortedMap String RtpCodecParametersParametersValue

namespace RtpCodecParametersParameters

def serialize (m : RtpCodecParametersParameters) : Json :=
  ofMap RtpCodecParametersParametersValue.serialize m.entries

def deserialize (j : Json) : Option RtpCodecParametersParameters :=
  (toEntries RtpCodecParametersParametersValue.deserialize j).map SortedMap.ofEntries

@[simp] theorem read (m : RtpCodecParametersParameters) : deserialize (serialize m) = some m := by
  simp [deserialize, serialize, RtpCodecParametersParametersValue.reads.ofMap.read]

end RtpCodecParametersParameters

inductive RtcpFeedback
  | nack
  | nackPli
  | ccmFir
  | googRemb
  | transportCc
  | unsupported
  deriving DecidableEq

namespace RtcpFeedback

def fromTypeParameter : String → String → Option RtcpFeedback
  | "nack","" => some nack
  | "nack","pli" => some nackPli
  | "ccm","fir" => some ccmFir
  | "goog-remb","" => some googRemb
  | "transport-cc","" => some transportCc
  | "unknown","" => some unsupported
  | _,_ => none

def asTypeParameter : RtcpFeedback → String × String
  | nack => ("nack","")
  | nackPli => ("nack","pli")
  | ccmFir => ("ccm","fir")
  | googRemb => ("goog-remb","")
  | transportCc => ("transport-cc","")
  | unsupported => ("unknown","")

def serialize (v : RtcpFeedback) : Json :=
  .obj (field "type" (.str v.asTypeParameter.1) ++ field "parameter" (.str v.asTypeParameter.2))

/-- The variable `type` of `visit_map`. -/
def typeSlot : Slot (Option String) := .once "type" nextStr

/-- The variable `parameter` of `visit_map`; the empty text leaves it free. -/
def parameterSlot : Slot String := ⟨"parameter","",nextStr⟩

lemma parameterSlot_settles {parameter : String} {js : List Json} :
    parameterSlot.Settles "" parameter js ↔ js = [] ∧ parameter = "" ∨
      ∃ n, js = List.replicate n (.str "") ++ [.str parameter] := by
  refine or_congr_right ?_
  constructor
  · rintro ⟨-,idle,last,rfl,hidle,hlast⟩
    obtain rfl := nextStr_eq_ok.mp hlast
    rw [List.eq_replicate_of_mem fun j hj => nextStr_eq_ok.mp (hidle j hj)]
    exact ⟨idle.length,rfl⟩
  · rintro ⟨n,rfl⟩
    exact ⟨rfl,List.replicate n (.str ""),.str parameter,rfl,
      fun j hj => by rw [List.eq_of_mem_replicate hj]; rfl,rfl⟩

def visitMap (fields : Fields) : Outcome DeError RtcpFeedback := do
  let s ← fields.foldlM (visitTwo true typeSlot parameterSlot) (none,"")
  let type ← Outcome.okOr (.missingField "type") s.1
  return (fromTypeParameter type s.2).getD unsupported

def deserialize (j : Json) : Outcome DeError RtcpFeedback := do
  let fields ← Outcome.okOr .invalidType (toFields j)
  visitMap fields

/-- Feedback is read from the objects that have its type once, and its parameter at most once behind
any number of empty ones; a pair that is not known is read as `Unsupported`. -/
theorem deserialize_eq_ok_iff {j : Json} {v : RtcpFeedback} : deserialize j = .ok v ↔
    ∃ fields type parameter, j = .obj fields ∧
      (∀ x ∈ fields, x.1 = "type" ∨ x.1 = "parameter") ∧ values "type" fields = [.str type] ∧
      (values "parameter" fields = [] ∧ parameter = "" ∨
        ∃ n, values "parameter" fields = List.replicate n (.str "") ++ [.str parameter]) ∧
      (fromTypeParameter type parameter).getD unsupported = v := by
  have hloop : ∀ (fields : Fields) (type parameter : String),
      fields.foldlM (visitTwo true typeSlot parameterSlot) (none,"") = .ok (some type,parameter) ↔
        (∀ x ∈ fields, x.1 = "type" ∨ x.1 = "parameter") ∧ values "type" fields = [.str type] ∧
        (values "parameter" fields = [] ∧ parameter = "" ∨
          ∃ n, values "parameter" fields = List.replicate n (.str "") ++ [.str parameter]) :=
    fun fields type parameter => by
      rw [foldlM_visitTwo (by decide), typeSlot, Slot.once_settles, parameterSlot_settles]
      simp [Slot.once, parameterSlot, nextStr_eq_ok]
  constructor
  · intro h
    obtain ⟨fields,hfields,hvisit⟩ := Outcome.bind_eq_ok.mp h
    obtain ⟨⟨t,parameter⟩,hs,hrest⟩ := Outcome.bind_eq_ok.mp hvisit
    obtain ⟨type,ht,hv⟩ := Outcome.bind_eq_ok.mp hrest
    obtain rfl : t = some type := Outcome.okOr_eq_ok.mp ht
    cases j with
    | obj fields' =>
      obtain rfl : fields' = fields := Option.some.inj (Outcome.okOr_eq_ok.mp hfields)
      obtain ⟨hnames,htype,hparameter⟩ := (hloop _ _ _).mp hs
      exact ⟨fields',type,parameter,rfl,hnames,htype,hparameter,Outcome.ok.inj hv⟩
    | _ => cases hfields
  · rintro ⟨fields,type,parameter,rfl,hnames,htype,hparameter,rfl⟩
    have hs := (hloop _ _ _).mpr ⟨hnames,htype,hparameter⟩
    simp [deserialize, visitMap, toFields, Outcome.okOr, hs]

@[simp] theorem read (v : RtcpFeedback) : deserialize v.serialize = .ok v := by
  cases v <;> rfl

end RtcpFeedback

inductive RtpHeaderExtensionUri
  | mid
  | rtpStreamId
  | repairRtpStreamId
  | dependencyDescriptor
  | audioLevel
  | videoOrientation
  | timeOffset
  | transportWideCcDraft01
  | absSendTime
  | absCaptureTime
  | playoutDelay
  | unsupported
  deriving DecidableEq

namespace RtpHeaderExtensionUri

def fromStr : String → Option RtpHeaderExtensionUri
  | "urn:ietf:params:rtp-hdrext:sdes:mid" => some mid
  | "urn:ietf:params:rtp-hdrext:sdes:rtp-stream-id" => some rtpStreamId
  | "urn:ietf:params:rtp-hdrext:sdes:repaired-rtp-stream-id" => some repairRtpStreamId
  | "urn:ietf:params:rtp-hdrext:ssrc-audio-level" => some audioLevel
  | "https://aomediacodec.github.io/av1-rtp-spec/#dependency-descriptor-rtp-header-extension" =>
    some dependencyDescriptor
  | "urn:3gpp:video-orientation" => some videoOrientation
  | "urn:ietf:params:rtp-hdrext:toffset" => some timeOffset
  | "http://www.ietf.org/id/draft-holmer-rmcat-transport-wide-cc-extensions-01" =>
    some transportWideCcDraft01
  | "http://www.webrtc.org/experiments/rtp-hdrext/abs-send-time" => some absSendTime
  | "http://www.webrtc.org/experiments/rtp-hdrext/abs-capture-time" => some absCaptureTime
  | "http://www.webrtc.org/experiments/rtp-hdrext/playout-delay" => some playoutDelay
  | _ => none

def asStr : RtpHeaderExtensionUri → String
  | mid => "urn:ietf:params:rtp-hdrext:sdes:mid"
  | rtpStreamId => "urn:ietf:params:rtp-hdrext:sdes:rtp-stream-id"
  | repairRtpStreamId => "urn:ietf:params:rtp-hdrext:sdes:repaired-rtp-stream-id"
  | dependencyDescriptor =>
    "https://aomediacodec.github.io/av1-rtp-spec/#dependency-descriptor-rtp-header-extension"
  | audioLevel => "urn:ietf:params:rtp-hdrext:ssrc-audio-level"
  | videoOrientation => "urn:3gpp:video-orientation"
  | timeOffset => "urn:ietf:params:rtp-hdrext:toffset"
  | transportWideCcDraft01 =>
    "http://www.ietf.org/id/draft-holmer-rmcat-transport-wide-cc-extensions-01"
  | absSendTime => "http://www.webrtc.org/experiments/rtp-hdrext/abs-send-time"
  | absCaptureTime => "http://www.webrtc.org/experiments/rtp-hdrext/abs-capture-time"
  | playoutDelay => "http://www.webrtc.org/experiments/rtp-hdrext/playout-delay"
  | unsupported => "unsupported"

/-- The variants are renamed to the texts of `as_str`. -/
def serialize (v : RtpHeaderExtensionUri) : Json := .str v.asStr

/-- A variant of another name is `Unsupported`. -/
def deserialize (j : Json) : Option RtpHeaderExtensionUri :=
  (toUnitVariant j).map fun tag => (fromStr tag).getD unsupported

@[simp] theorem read (v : RtpHeaderExtensionUri) : deserialize v.serialize = some v := by
  cases v <;> rfl

end RtpHeaderExtensionUri

structure RtpHeaderExtensionParameters where
  uri : RtpHeaderExtensionUri
  id : UInt16
  encrypt : Bool
  deriving DecidableEq

namespace RtpHeaderExtensionParameters

def serialize (v : RtpHeaderExtensionParameters) : Json :=
  .obj (field "uri" v.uri.serialize ++ field "id" (ofUInt16 v.id) ++ field "encrypt" (.bool v.encrypt))

def ofFields (fs : Fields) : Option RtpHeaderExtensionParameters := do
  let uri ← required "uri" RtpHeaderExtensionUri.deserialize fs
  let id ← required "id" toUInt16 fs
  let encrypt ← required "encrypt" toBool fs
  return ⟨uri,id,encrypt⟩

def ofItems : List Json → Option RtpHeaderExtensionParameters
  | [uri,id,encrypt] => do
    let uri ← RtpHeaderExtensionUri.deserialize uri
    let id ← toUInt16 id
    let encrypt ← toBool encrypt
    return ⟨uri,id,encrypt⟩
  | _ => none

def deserialize : Json → Option RtpHeaderExtensionParameters := toStruct ofFields ofItems

theorem reads : Reads deserialize serialize fun v => v :=
  ⟨fun v => by simp [deserialize, ofFields, serialize],fun _ => Json.noConfusion⟩

end RtpHeaderExtensionParameters

structure RtpEncodingParametersRtx where
  ssrc : UInt32
  deriving DecidableEq

namespace RtpEncodingParametersRtx

def serialize (v : RtpEncodingParametersRtx) : Json := .obj (field "ssrc" (ofUInt32 v.ssrc))

def ofFields (fs : Fields) : Option RtpEncodingParametersRtx := do
  let ssrc ← required "ssrc" toUInt32 fs
  return ⟨ssrc⟩

def ofItems : List Json → Option RtpEncodingParametersRtx
  | [ssrc] => do
    let ssrc ← toUInt32 ssrc
    return ⟨ssrc⟩
  | _ => none

def deserialize : Json → Option RtpEncodingParametersRtx := toStruct ofFields ofItems

theorem reads : Reads deserialize serialize id :=
  ⟨fun v => by simp [deserialize, ofFields, serialize],fun _ => Json.noConfusion⟩

end RtpEncodingParametersRtx

structure RtcpParameters where
  cname : Option String
  reducedSize : Bool
  deriving DecidableEq

namespace RtcpParameters

def serialize (v : RtcpParameters) : Json :=
  .obj (skipNone "cname" .str v.cname ++ field "reducedSize" (.bool v.reducedSize))

def ofFields (fs : Fields) : Option RtcpParameters := do
  let cname ← Json.optional "cname" toStr fs
  let reducedSize ← required "reducedSize" toBool fs
  return ⟨cname,reducedSize⟩

def ofItems : List Json → Option RtcpParameters
  | [cname,reducedSize] => do
    let cname ← toOption toStr cname
    let reducedSize ← toBool reducedSize
    return ⟨cname,reducedSize⟩
  | _ => none

def deserialize : Json → Option RtcpParameters := toStruct ofFields ofItems

theorem reads : Reads deserialize serialize id :=
  ⟨fun v => by simp [deserialize, ofFields, serialize],fun _ => Json.noConfusion⟩

end RtcpParameters

inductive RtpCodecParameters
  | audio (mimeType : MimeTypeAudio) (payloadType : UInt8) (clockRate : NonZeroU32)
    (channels : NonZeroU8) (parameters : RtpCodecParametersParameters)
    (rtcpFeedback : List RtcpFeedback)
  | video (mimeType : MimeTypeVideo) (payloadType : UInt8) (clockRate : NonZeroU32)
    (parameters : RtpCodecParametersParameters) (rtcpFeedback : List RtcpFeedback)
  deriving DecidableEq

namespace RtpCodecParameters

def serialize : RtpCodecParameters → Json
  | audio mimeType payloadType clockRate channels parameters rtcpFeedback =>
    .obj (field "mimeType" mimeType.serialize ++ field "payloadType" (ofUInt8 payloadType) ++
      field "clockRate" (ofNonZeroU32 clockRate) ++ field "channels" (ofNonZeroU8 channels) ++
      field "parameters" (RtpCodecParametersParameters.serialize parameters) ++
      field "rtcpFeedback" (ofList RtcpFeedback.serialize rtcpFeedback))
  | video mimeType payloadType clockRate parameters rtcpFeedback =>
    .obj (field "mimeType" mimeType.serialize ++ field "payloadType" (ofUInt8 payloadType) ++
      field "clockRate" (ofNonZeroU32 clockRate) ++
      field "parameters" (RtpCodecParametersParameters.serialize parameters) ++
      field "rtcpFeedback" (ofList RtcpFeedback.serialize rtcpFeedback))

def deserializeFeedback : Json → Option (List RtcpFeedback) :=
  toList fun j => (RtcpFeedback.deserialize j).value

def ofAudio (fs : Fields) : Option RtpCodecParameters := do
  let mimeType ← required "mimeType" MimeTypeAudio.deserialize fs
  let payloadType ← required "payloadType" toUInt8 fs
  let clockRate ← required "clockRate" (toNonZero 4294967296) fs
  let channels ← required "channels" (toNonZero 256) fs
  let parameters ← defaulted "parameters" RtpCodecParametersParameters.deserialize .empty fs
  let rtcpFeedback ← defaulted "rtcpFeedback" deserializeFeedback [] fs
  return audio mimeType payloadType clockRate channels parameters rtcpFeedback

def ofVideo (fs : Fields) : Option RtpCodecParameters := do
  let mimeType ← required "mimeType" MimeTypeVideo.deserialize fs
  let payloadType ← required "payloadType" toUInt8 fs
  let clockRate ← required "clockRate" (toNonZero 4294967296) fs
  let parameters ← defaulted "parameters" RtpCodecParametersParameters.deserialize .empty fs
  let rtcpFeedback ← defaulted "rtcpFeedback" deserializeFeedback [] fs
  return video mimeType payloadType clockRate parameters rtcpFeedback

/-- The variants are tried in turn; they are read from objects only. -/
def deserialize (j : Json) : Option RtpCodecParameters := do
  let fs ← toFields j
  (ofAudio fs).or (ofVideo fs)

/-- No object is read as both variants. -/
lemma ofVideo_of_ofAudio {fs : Fields} {v : RtpCodecParameters} (h : ofAudio fs = some v) :
    ofVideo fs = none := by
  obtain ⟨mimeType,hmime,-⟩ := Option.bind_eq_some_iff.mp h
  obtain ⟨j,hj,haudio⟩ := single_eq_some.mp hmime
  have hvideo : required "mimeType" MimeTypeVideo.deserialize fs = none := by
    rw [required, hj, single_singleton, MimeTypeVideo.deserialize_of_audio haudio]
  rw [ofVideo, hvideo]
  rfl

/-- It says nothing which variant is tried first. -/
theorem deserialize_eq_video_or (j : Json) :
    deserialize j = (toFields j).bind fun fs => (ofVideo fs).or (ofAudio fs) := by
  refine Option.bind_congr fun fs _ => ?_
  cases ha : ofAudio fs with
  | some v => rw [ofVideo_of_ofAudio ha, Option.some_or, Option.none_or]
  | none => rw [Option.none_or, Option.or_none]

lemma feedback_reads : Reads deserializeFeedback (ofList RtcpFeedback.serialize) id := by
  have hread : Reads (fun j => (RtcpFeedback.deserialize j).value) RtcpFeedback.serialize id :=
    ⟨fun v => Outcome.value_eq_some.mpr v.read,fun _ => Json.noConfusion⟩
  rw [← List.map_id_fun]
  exact hread.ofList

theorem reads : Reads deserialize serialize id := by
  refine ⟨fun v => ?_,fun v => ?_⟩
  · cases v with
    | audio mimeType payloadType clockRate channels parameters rtcpFeedback =>
      simp [deserialize, serialize, ofAudio, feedback_reads.read]
    | video mimeType payloadType clockRate parameters rtcpFeedback =>
      simp [deserialize, serialize, ofAudio, ofVideo, feedback_reads.read]
  · cases v <;> exact Json.noConfusion

end RtpCodecParameters

structure RtpEncodingParameters where
  ssrc : Option UInt32
  rid : Option String
  codecPayloadType : Option UInt8
  rtx : Option RtpEncodingParametersRtx
  dtx : Option Bool
  scalabilityMode : ScalabilityMode
  maxBitrate : Option UInt32
  deriving DecidableEq

namespace RtpEncodingParameters

def serialize (v : RtpEncodingParameters) : Json :=
  .obj (skipNone "ssrc" ofUInt32 v.ssrc ++ skipNone "rid" .str v.rid ++
    skipNone "codecPayloadType" ofUInt8 v.codecPayloadType ++
    skipNone "rtx" RtpEncodingParametersRtx.serialize v.rtx ++ skipNone "dtx" .bool v.dtx ++
    (if v.scalabilityMode.isNone then [] else field "scalabilityMode" v.scalabilityMode.serialize) ++
    skipNone "maxBitrate" ofUInt32 v.maxBitrate)

def ofFields (fs : Fields) : Option RtpEncodingParameters := do
  let ssrc ← Json.optional "ssrc" toUInt32 fs
  let rid ← Json.optional "rid" toStr fs
  let codecPayloadType ← Json.optional "codecPayloadType" toUInt8 fs
  let rtx ← Json.optional "rtx" RtpEncodingParametersRtx.deserialize fs
  let dtx ← Json.optional "dtx" toBool fs
  let scalabilityMode ← defaulted "scalabilityMode" ScalabilityMode.deserialize .none fs
  let maxBitrate ← Json.optional "maxBitrate" toUInt32 fs
  return ⟨ssrc,rid,codecPayloadType,rtx,dtx,scalabilityMode,maxBitrate⟩

def ofItems : List Json → Option RtpEncodingParameters
  | [ssrc,rid,codecPayloadType,rtx,dtx,scalabilityMode,maxBitrate] => do
    let ssrc ← toOption toUInt32 ssrc
    let rid ← toOption toStr rid
    let codecPayloadType ← toOption toUInt8 codecPayloadType
    let rtx ← toOption RtpEncodingParametersRtx.deserialize rtx
    let dtx ← toOption toBool dtx
    let scalabilityMode ← ScalabilityMode.deserialize scalabilityMode
    let maxBitrate ← toOption toUInt32 maxBitrate
    return ⟨ssrc,rid,codecPayloadType,rtx,dtx,scalabilityMode,maxBitrate⟩
  | _ => none

def deserialize : Json → Option RtpEncodingParameters := toStruct ofFields ofItems

/-- What is read again of what was written: the mode of that name, and all else as it was. -/
lemma deserialize_serialize (v : RtpEncodingParameters) :
    deserialize v.serialize = (orDefault ScalabilityMode.deserialize .none
      (if v.scalabilityMode.isNone then [] else [v.scalabilityMode.serialize])).map
        fun m => { v with scalabilityMode := m } := by
  cases hnone : v.scalabilityMode.isNone with
  | true => simp [deserialize, ofFields, serialize, hnone, RtpEncodingParametersRtx.reads.skipped]
  | false =>
    simp [deserialize, ofFields, serialize, hnone, RtpEncodingParametersRtx.reads.skipped,
      Option.map_eq_bind]

lemma canonical_none : ScalabilityMode.none.Canonical := by rw [ScalabilityMode.Canonical]; rfl

lemma canonical_of_orDefault {js : List Json} {m : ScalabilityMode}
    (h : orDefault ScalabilityMode.deserialize .none js = some m) : m.Canonical := by
  unfold orDefault at h
  split at h
  · rw [← Option.some.inj h]
    exact canonical_none
  · exact ScalabilityMode.canonical_of_deserialize h
  · cases h

/-- Parameters are read as they were written just if their mode is the one of its name. -/
lemma deserialize_serialize_iff {v : RtpEncodingParameters} :
    deserialize v.serialize = some v ↔ v.scalabilityMode.Canonical := by
  rw [deserialize_serialize]
  constructor
  · intro h
    obtain ⟨m,hm,hv⟩ := Option.map_eq_some_iff.mp h
    rw [← congrArg scalabilityMode hv]
    exact canonical_of_orDefault hm
  · intro h
    cases hnone : v.scalabilityMode.isNone with
    | true =>
      have hmode : v.scalabilityMode = .none := by
        cases hm : v.scalabilityMode <;> simp_all [ScalabilityMode.isNone]
      simp [← hmode]
    | false => simp [ScalabilityMode.deserialize_serialize_iff.mpr h]

/-- Whatever is read has the mode of its name. -/
lemma canonical_of_deserialize {j : Json} {v : RtpEncodingParameters} (h : deserialize j = some v) :
    v.scalabilityMode.Canonical := by
  cases j with
  | obj fs =>
    simp only [deserialize, toStruct_obj, ofFields, Option.bind_eq_bind, Option.bind_eq_some_iff,
      Option.pure_def, Option.some.injEq] at h
    obtain ⟨_,-,_,-,_,-,_,-,_,-,m,hm,_,-,rfl⟩ := h
    exact canonical_of_orDefault hm
  | arr items =>
    change ofItems items = some v at h
    unfold ofItems at h
    split at h
    · simp only [Option.bind_eq_bind, Option.bind_eq_some_iff, Option.pure_def, Option.some.injEq] at h
      obtain ⟨_,-,_,-,_,-,_,-,_,-,m,hm,_,-,rfl⟩ := h
      exact ScalabilityMode.canonical_of_deserialize hm
    · cases h
  | _ => cases h

end RtpEncodingParameters

structure RtpParameters where
  mid : Option String
  codecs : List RtpCodecParameters
  headerExtensions : List RtpHeaderExtensionParameters
  encodings : List RtpEncodingParameters
  rtcp : RtcpParameters
  deriving DecidableEq

namespace RtpParameters

def serialize (v : RtpParameters) : Json :=
  .obj (skipNone "mid" .str v.mid ++ field "codecs" (ofList RtpCodecParameters.serialize v.codecs) ++
    field "headerExtensions" (ofList RtpHeaderExtensionParameters.serialize v.headerExtensions) ++
    field "encodings" (ofList RtpEncodingParameters.serialize v.encodings) ++
    field "rtcp" v.rtcp.serialize)

def ofFields (fs : Fields) : Option RtpParameters := do
  let mid ← Json.optional "mid" toStr fs
  let codecs ← required "codecs" (toList RtpCodecParameters.deserialize) fs
  let headerExtensions ← required "headerExtensions" (toList RtpHeaderExtensionParameters.deserialize) fs
  let encodings ← required "encodings" (toList RtpEncodingParameters.deserialize) fs
  let rtcp ← required "rtcp" RtcpParameters.deserialize fs
  return ⟨mid,codecs,headerExtensions,encodings,rtcp⟩

def ofItems : List Json → Option RtpParameters
  | [mid,codecs,headerExtensions,encodings,rtcp] => do
    let mid ← toOption toStr mid
    let codecs ← toList RtpCodecParameters.deserialize codecs
    let headerExtensions ← toList RtpHeaderExtensionParameters.deserialize headerExtensions
    let encodings ← toList RtpEncodingParameters.deserialize encodings
    let rtcp ← RtcpParameters.deserialize rtcp
    return ⟨mid,codecs,headerExtensions,encodings,rtcp⟩
  | _ => none

def deserialize : Json → Option RtpParameters := toStruct ofFields ofItems

/-- The modes of the encodings are those of their names. -/
def Canonical (v : RtpParameters) : Prop := ∀ e ∈ v.encodings, e.scalabilityMode.Canonical

lemma deserialize_serialize (v : RtpParameters) : deserialize v.serialize =
    (toList RtpEncodingParameters.deserialize (ofList RtpEncodingParameters.serialize v.encodings)).map
      fun es => { v with encodings := es } := by
  simp [deserialize, ofFields, serialize, RtpCodecParameters.reads.ofList.read,
    RtpHeaderExtensionParameters.reads.ofList.read, RtcpParameters.reads.read, Option.map_eq_bind]

lemma toList_ofList_iff {α : Type} {dec : Json → Option α} {enc : α → Json} {as : List α} :
    toList dec (ofList enc as) = some as ↔ ∀ a ∈ as, dec (enc a) = some a := by
  change (as.map enc).mapM dec = some as ↔ _
  induction as with
  | nil => simp
  | cons a as ih =>
    rw [List.map_cons, List.mapM_cons, List.forall_mem_cons, ← ih]
    simp only [Option.bind_eq_bind, Option.bind_eq_some_iff, Option.pure_def, Option.some.injEq,
      List.cons.injEq]
    constructor
    · rintro ⟨_,ha,_,has,rfl,rfl⟩
      exact ⟨ha,has⟩
    · rintro ⟨ha,has⟩
      exact ⟨a,ha,as,has,rfl,rfl⟩

/-- Parameters are read as they were written just if every mode is the one of its name. -/
lemma deserialize_serialize_iff {v : RtpParameters} :
    deserialize v.serialize = some v ↔ v.Canonical := by
  have hmap : ∀ o : Option (List RtpEncodingParameters),
      (o.map fun es => { v with encodings := es }) = some v ↔ o = some v.encodings := fun o => by
    cases o with
    | none => simp
    | some es =>
      simp only [Option.map_some, Option.some.injEq]
      exact ⟨fun h => congrArg encodings h,fun h => by rw [h]⟩
  rw [deserialize_serialize, hmap, toList_ofList_iff]
  exact forall₂_congr fun e _ => RtpEncodingParameters.deserialize_serialize_iff

lemma toList_mem {α : Type} {dec : Json → Option α} {j : Json} {as : List α} (h : toList dec j = some as)
    {a : α} (ha : a ∈ as) : ∃ i, dec i = some a := by
  cases j with
  | arr items =>
    change items.mapM dec = some as at h
    induction items generalizing as with
    | nil =>
      obtain rfl : [] = as := by simpa using h
      cases ha
    | cons i items ih =>
      rw [List.mapM_cons] at h
      obtain ⟨b,hb,h⟩ := Option.bind_eq_some_iff.mp h
      obtain ⟨bs,hbs,h⟩ := Option.bind_eq_some_iff.mp h
      obtain rfl : b::bs = as := Option.some.inj h
      rcases List.mem_cons.mp ha with rfl | ha
      · exact ⟨i,hb⟩
      · exact ih ha hbs
  | _ => cases h

lemma canonical_of_deserialize {j : Json} {v : RtpParameters} (h : deserialize j = some v) :
    v.Canonical := by
  have hlist : ∀ i, toList RtpEncodingParameters.deserialize i = some v.encodings → v.Canonical :=
    fun i hi e he => by
      obtain ⟨k,hk⟩ := toList_mem hi he
      exact RtpEncodingParameters.canonical_of_deserialize hk
  cases j with
  | obj fs =>
    simp only [deserialize, toStruct_obj, ofFields, Option.bind_eq_bind, Option.bind_eq_some_iff,
      Option.pure_def, Option.some.injEq] at h
    obtain ⟨_,-,_,-,_,-,es,hes,_,-,rfl⟩ := h
    obtain ⟨i,-,hi⟩ := single_eq_some.mp hes
    exact hlist i hi
  | arr items =>
    change ofItems items = some v at h
    unfold ofItems at h
    split at h
    · simp only [Option.bind_eq_bind, Option.bind_eq_some_iff, Option.pure_def, Option.some.injEq] at h
      obtain ⟨_,-,_,-,_,-,es,hes,_,-,rfl⟩ := h
      exact hlist _ hes
    · cases h
  | _ => cases h

/-- The parameters that are read as they were written are those with modes of their names, and all
that are read from anything are of this kind. -/
theorem read_back :
    (∀ v : RtpParameters, deserialize v.serialize = some v ↔ v.Canonical) ∧
    ∀ j v, deserialize j = some v → deserialize v.serialize = some v :=
  ⟨fun _ => deserialize_serialize_iff,fun _ _ h => deserialize_serialize_iff.mpr (canonical_of_deserialize h)⟩

/-- The parameters that the client can have read. -/
abbrev Read := { v : RtpParameters // v.Canonical }

def codec : Codec Read where
  serialize v := v.val.serialize
  deserialize j :=
    match h : deserialize j with
    | some v => some ⟨v,canonical_of_deserialize h⟩
    | none => none

theorem codec_lawful : codec.Lawful := by
  refine ⟨fun v => ?_,fun _ => Json.noConfusion⟩
  have hread := deserialize_serialize_iff.mpr v.property
  change (match h : deserialize v.val.serialize with
    | some w => some ⟨w,canonical_of_deserialize h⟩
    | none => none) = some v
  split
  · next w hw => exact congrArg some (Subtype.ext (Option.some.inj (hw.symm.trans hread)))
  · next hw => rw [hw] at hread; cases hread

end RtpParameters
end VvClient.Mediasoup
