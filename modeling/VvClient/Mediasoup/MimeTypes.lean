import VvClient.Lib.Json
import VvClient.Lib.Text

/-! The known MIME types of audio and video. A text is compared with them without case. -/
namespace VvClient.Mediasoup

open Json Text

inductive ParseMimeTypeError
  | invalidInput
  | unknownMimeType (s : String)
  deriving DecidableEq

section Tables

variable {α : Type}

/-- The first name of the table that the text is, but for case. -/
def lookupName (names : List (String × α)) (s : List Char) : Option α :=
  (names.find? fun n => eqIgnoreAsciiCase s n.1.toList).map Prod.snd

/-- A kind, a slash and a name. -/
def parseMimeType (kind : String) (fromName : List Char → Option α) (s : String) :
    Except ParseMimeTypeError α :=
  match splitOnce '/' s.toList with
  | some (mtype,name) =>
    if eqIgnoreAsciiCase mtype kind.toList then
      match fromName name with
      | some m => .ok m
      | none => .error (.unknownMimeType s)
    else .error .invalidInput
  | none => .error .invalidInput

lemma lookupName_eq_some {names : List (String × α)}
    (hnames : names.Pairwise fun a b => ¬eqIgnoreAsciiCase a.1.toList b.1.toList) {s : List Char} {m : α} :
    lookupName names s = some m ↔ ∃ n, (n,m) ∈ names ∧ eqIgnoreAsciiCase s n.toList := by
  induction names with
  | nil => simp [lookupName]
  | cons a names ih =>
    obtain ⟨hne,hrest⟩ := List.pairwise_cons.mp hnames
    have ih := ih hrest
    rw [lookupName] at ih ⊢
    by_cases ha : eqIgnoreAsciiCase s a.1.toList
    · rw [List.find?_cons_of_pos (p := fun n : String × α => eqIgnoreAsciiCase s n.1.toList) ha]
      constructor
      · intro h
        exact ⟨a.1,by simp [← Option.some.inj h],ha⟩
      · rintro ⟨n,hn,hs⟩
        rcases List.mem_cons.mp hn with rfl | hn
        · rfl
        · refine absurd ?_ (hne _ hn)
          rw [eqIgnoreAsciiCase_iff] at ha hs ⊢
          exact ha.symm.trans hs
    · rw [List.find?_cons_of_neg (p := fun n : String × α => eqIgnoreAsciiCase s n.1.toList) ha, ih]
      constructor
      · rintro ⟨n,hn,hs⟩
        exact ⟨n,List.mem_cons_of_mem a hn,hs⟩
      · rintro ⟨n,hn,hs⟩
        rcases List.mem_cons.mp hn with rfl | hn
        · exact absurd hs ha
        · exact ⟨n,hn,hs⟩

lemma toLower_eq_slash {c : Char} : c.toLower = '/' ↔ c = '/' := by
  constructor
  · intro h
    unfold Char.toLower at h
    split at h
    · next hc =>
      have hval : (c.val + ('a'.val - 'A'.val)).toNat = 47 := congrArg Char.toNat h
      have hlow : 65 ≤ c.val.toNat := UInt32.le_iff_toNat_le.mp hc.1
      have hhigh : c.val.toNat ≤ 90 := UInt32.le_iff_toNat_le.mp hc.2
      rw [UInt32.toNat_add] at hval
      have hdist : ('a'.val - 'A'.val).toNat = 32 := rfl
      omega
    · exact h
  · rintro rfl
    rfl

lemma slash_not_mem {kind mtype : List Char} (hkind : '/' ∉ kind)
    (h : mtype.map Char.toLower = kind.map Char.toLower) : '/' ∉ mtype := by
  intro hslash
  have hmem : '/' ∈ kind.map Char.toLower := h ▸ List.mem_map.mpr ⟨'/',hslash,rfl⟩
  obtain ⟨c,hc,hlower⟩ := List.mem_map.mp hmem
  exact hkind (toLower_eq_slash.mp hlower ▸ hc)

lemma map_toLower_eq_slash {s kind name : List Char} :
    s.map Char.toLower = (kind ++ '/'::name).map Char.toLower ↔
      ∃ a b, s = a ++ '/'::b ∧ a.map Char.toLower = kind.map Char.toLower ∧
        b.map Char.toLower = name.map Char.toLower := by
  rw [List.map_append, List.map_cons]
  constructor
  · intro h
    obtain ⟨a,rest,rfl,ha,hrest⟩ := List.map_eq_append_iff.mp h
    obtain ⟨c,b,rfl,hc,hb⟩ := List.map_eq_cons_iff.mp hrest
    rw [toLower_eq_slash.mp hc]
    exact ⟨a,b,rfl,ha,hb⟩
  · rintro ⟨a,b,rfl,ha,hb⟩
    rw [List.map_append, List.map_cons, ha, hb]

/-- A text is parsed just if it is the kind, a slash and a name of the table, but for case. -/
theorem parseMimeType_eq_ok {kind : String} (hkind : '/' ∉ kind.toList) {names : List (String × α)}
    (hnames : names.Pairwise fun a b => ¬eqIgnoreAsciiCase a.1.toList b.1.toList) {s : String} {m : α} :
    parseMimeType kind (lookupName names) s = .ok m ↔
      ∃ n, (n,m) ∈ names ∧ eqIgnoreAsciiCase s.toList (kind.toList ++ '/'::n.toList) := by
  simp only [eqIgnoreAsciiCase_iff, map_toLower_eq_slash]
  constructor
  · intro h
    rw [parseMimeType] at h
    split at h
    · next mtype name hsplit =>
      split at h
      · next hmtype =>
        split at h
        · next m' hm =>
          obtain rfl : m' = m := Except.ok.inj h
          obtain ⟨n,hn,hname⟩ := (lookupName_eq_some hnames).mp hm
          exact ⟨n,hn,mtype,name,(splitOnce_eq_some.mp hsplit).1,eqIgnoreAsciiCase_iff.mp hmtype,
            eqIgnoreAsciiCase_iff.mp hname⟩
        · cases h
      · cases h
    · cases h
  · rintro ⟨n,hn,mtype,name,hs,hmtype,hname⟩
    have hslash : '/' ∉ mtype := slash_not_mem hkind hmtype
    have hfind := (lookupName_eq_some hnames).mpr ⟨n,hn,eqIgnoreAsciiCase_iff.mpr hname⟩
    rw [parseMimeType, splitOnce_eq_some.mpr ⟨hs,hslash⟩]
    simp [hmtype, hfind]

/-- Where the names are those of the texts, a type is parsed just from its own text, but for case. -/
theorem parseMimeType_iff {kind : String} (hkind : '/' ∉ kind.toList) {names : List (String × α)}
    (hnames : names.Pairwise fun a b => ¬eqIgnoreAsciiCase a.1.toList b.1.toList) {asStr : α → String}
    (htext : ∀ e ∈ names, (asStr e.2).toList.map Char.toLower =
      (kind.toList ++ '/'::e.1.toList).map Char.toLower)
    {m : α} (hm : ∃ e ∈ names, e.2 = m) {s : String} :
    parseMimeType kind (lookupName names) s = .ok m ↔ eqIgnoreAsciiCase s.toList (asStr m).toList := by
  rw [parseMimeType_eq_ok hkind hnames, eqIgnoreAsciiCase_iff]
  constructor
  · rintro ⟨n,hn,hs⟩
    rw [htext (n,m) hn, eqIgnoreAsciiCase_iff.mp hs]
  · intro hs
    obtain ⟨e,he,rfl⟩ := hm
    exact ⟨e.1,he,eqIgnoreAsciiCase_iff.mpr (hs.trans (htext e he))⟩

/-- A text of another kind is invalid. -/
lemma parseMimeType_invalid {kind : String} (hkind : '/' ∉ kind.toList) {fromName : List Char → Option α}
    {s : String} : parseMimeType kind fromName s = .error .invalidInput ↔
      ¬ ∃ name, eqIgnoreAsciiCase s.toList (kind.toList ++ '/'::name) := by
  simp only [eqIgnoreAsciiCase_iff, map_toLower_eq_slash]
  constructor
  · rintro h ⟨name,mtype,rest,hs,hmtype,-⟩
    have hslash : '/' ∉ mtype := slash_not_mem hkind hmtype
    rw [parseMimeType, splitOnce_eq_some.mpr ⟨hs,hslash⟩] at h
    cases hname : fromName rest <;> simp [hmtype, hname] at h
  · intro h
    rw [parseMimeType]
    split
    · next mtype name hsplit =>
      rw [if_neg]
      intro hmtype
      exact h ⟨name,mtype,name,(splitOnce_eq_some.mp hsplit).1,eqIgnoreAsciiCase_iff.mp hmtype,rfl⟩
    · rfl

/-- The error of an unknown type keeps the text. -/
lemma eq_of_unknownMimeType {kind : String} {fromName : List Char → Option α} {s t : String}
    (h : parseMimeType kind fromName s = .error (.unknownMimeType t)) : t = s := by
  rw [parseMimeType] at h
  split at h
  · split at h
    · split at h
      · cases h
      · exact (ParseMimeTypeError.unknownMimeType.inj (Except.error.inj h)).symm
    · cases h
  · cases h

/-- How `from_str` parses a text: a type is parsed just from its own text, but for case. The other
texts of this kind are unknown types, and those of another kind are invalid. -/
def ParsedExactly (kind : String) (fromStr : String → Except ParseMimeTypeError α) (asStr : α → String)
    (s : String) : Prop :=
  (∀ m, fromStr s = .ok m ↔ eqIgnoreAsciiCase s.toList (asStr m).toList) ∧
  (∀ t, fromStr s = .error (.unknownMimeType t) ↔ t = s ∧
    (∃ name, eqIgnoreAsciiCase s.toList (kind.toList ++ '/'::name)) ∧
    ∀ m, ¬eqIgnoreAsciiCase s.toList (asStr m).toList) ∧
  (fromStr s = .error .invalidInput ↔ ¬ ∃ name, eqIgnoreAsciiCase s.toList (kind.toList ++ '/'::name))

lemma parsedExactly_of_ok {kind : String} (hkind : '/' ∉ kind.toList) {fromName : List Char → Option α}
    {asStr : α → String} {s : String}
    (hok : ∀ m, parseMimeType kind fromName s = .ok m ↔ eqIgnoreAsciiCase s.toList (asStr m).toList) :
    ParsedExactly kind (parseMimeType kind fromName) asStr s := by
  have hinvalid : parseMimeType kind fromName s = .error .invalidInput ↔ _ := parseMimeType_invalid hkind
  refine ⟨hok,fun t => ⟨fun h => ⟨eq_of_unknownMimeType h,?_,fun m hm => ?_⟩,?_⟩,hinvalid⟩
  · by_contra hname
    rw [hinvalid.mpr hname] at h
    cases h
  · rw [(hok m).mpr hm] at h
    cases h
  · rintro ⟨rfl,hname,hnone⟩
    cases hparse : parseMimeType kind fromName t with
    | ok m => exact absurd ((hok m).mp hparse) (hnone m)
    | error e =>
      cases e with
      | invalidInput => exact absurd hname (hinvalid.mp hparse)
      | unknownMimeType t' => rw [eq_of_unknownMimeType hparse]

lemma toOption_eq_some {x : Except ParseMimeTypeError α} {a : α} : x.toOption = some a ↔ x = .ok a := by
  cases x <;> simp [Except.toOption]

end Tables

inductive MimeTypeAudio
  | opus
  | multiChannelOpus
  | pcmu
  | pcma
  | isac
  | g722
  | ilbc
  | silk
  | cn
  | telephoneEvent
  | rtx
  | red
  deriving DecidableEq

namespace MimeTypeAudio

def names : List (String × MimeTypeAudio) :=
  [("opus",opus),("multiopus",multiChannelOpus),("pcmu",pcmu),("pcma",pcma),("isac",isac),("g722",g722),
    ("ilbc",ilbc),("silk",silk),("cn",cn),("telephone-event",telephoneEvent),("rtx",rtx),("red",red)]

def fromName (s : List Char) : Option MimeTypeAudio := lookupName names s

def fromStr (s : String) : Except ParseMimeTypeError MimeTypeAudio := parseMimeType "audio" fromName s

def asStr : MimeTypeAudio → String
  | opus => "audio/opus"
  | multiChannelOpus => "audio/multiopus"
  | pcmu => "audio/PCMU"
  | pcma => "audio/PCMA"
  | isac => "audio/ISAC"
  | g722 => "audio/G722"
  | ilbc => "audio/iLBC"
  | silk => "audio/SILK"
  | cn => "audio/CN"
  | telephoneEvent => "audio/telephone-event"
  | rtx => "audio/rtx"
  | red => "audio/red"

/-- The variants are renamed to the texts of `as_str`. -/
def serialize (m : MimeTypeAudio) : Json := .str m.asStr

def deserialize (j : Json) : Option MimeTypeAudio := (toStr j).bind fun s => (fromStr s).toOption

lemma fromStr_eq_ok {s : String} {m : MimeTypeAudio} :
    fromStr s = .ok m ↔ eqIgnoreAsciiCase s.toList m.asStr.toList :=
  parseMimeType_iff (by decide) (by decide) (by decide) (by cases m <;> decide)

@[simp] theorem read (m : MimeTypeAudio) : deserialize m.serialize = some m := by
  simp [deserialize, serialize, fromStr_eq_ok.mpr (eqIgnoreAsciiCase_iff.mpr rfl), Except.toOption]

end MimeTypeAudio

inductive MimeTypeVideo
  | vp8
  | vp9
  | h264
  | av1
  | rtx
  | red
  | ulpfec
  deriving DecidableEq

namespace MimeTypeVideo

def names : List (String × MimeTypeVideo) :=
  [("vp8",vp8),("vp9",vp9),("h264",h264),("av1",av1),("rtx",rtx),("red",red),("ulpfec",ulpfec)]

def fromName (s : List Char) : Option MimeTypeVideo := lookupName names s

def fromStr (s : String) : Except ParseMimeTypeError MimeTypeVideo := parseMimeType "video" fromName s

def asStr : MimeTypeVideo → String
  | vp8 => "video/VP8"
  | vp9 => "video/VP9"
  | h264 => "video/H264"
  | av1 => "video/AV1"
  | rtx => "video/rtx"
  | red => "video/red"
  | ulpfec => "video/ulpfec"

def serialize (m : MimeTypeVideo) : Json := .str m.asStr

def deserialize (j : Json) : Option MimeTypeVideo := (toStr j).bind fun s => (fromStr s).toOption

lemma fromStr_eq_ok {s : String} {m : MimeTypeVideo} :
    fromStr s = .ok m ↔ eqIgnoreAsciiCase s.toList m.asStr.toList :=
  parseMimeType_iff (by decide) (by decide) (by decide) (by cases m <;> decide)

@[simp] theorem read (m : MimeTypeVideo) : deserialize m.serialize = some m := by
  simp [deserialize, serialize, fromStr_eq_ok.mpr (eqIgnoreAsciiCase_iff.mpr rfl), Except.toOption]

end MimeTypeVideo

/-- No text is read as both kinds. -/
theorem MimeTypeVideo.deserialize_of_audio {j : Json} {a : MimeTypeAudio}
    (h : MimeTypeAudio.deserialize j = some a) : MimeTypeVideo.deserialize j = none := by
  rw [Option.eq_none_iff_forall_ne_some]
  intro v hv
  obtain ⟨s,hs,ha⟩ := Option.bind_eq_some_iff.mp h
  obtain ⟨s',hs',hv⟩ := Option.bind_eq_some_iff.mp hv
  obtain rfl : s = s' := Option.some.inj (hs.symm.trans hs')
  have haudio : (a.asStr.toList.map Char.toLower).head? = some 'a' := by cases a <;> rfl
  have hvideo : (v.asStr.toList.map Char.toLower).head? = some 'v' := by cases v <;> rfl
  have hlower : a.asStr.toList.map Char.toLower = v.asStr.toList.map Char.toLower := by
    rw [← eqIgnoreAsciiCase_iff.mp (MimeTypeAudio.fromStr_eq_ok.mp (toOption_eq_some.mp ha)),
      eqIgnoreAsciiCase_iff.mp (MimeTypeVideo.fromStr_eq_ok.mp (toOption_eq_some.mp hv))]
  rw [hlower, hvideo] at haudio
  exact absurd haudio (by decide)

inductive MimeType
  | audio (m : MimeTypeAudio)
  | video (m : MimeTypeVideo)
  deriving DecidableEq

namespace MimeType

/-- Here the kind is compared with case. -/
def fromStr (s : String) : Except ParseMimeTypeError MimeType :=
  if "audio/".toList <+: s.toList then audio <$> MimeTypeAudio.fromStr s
  else if "video/".toList <+: s.toList then video <$> MimeTypeVideo.fromStr s
  else .error .invalidInput

def asStr : MimeType → String
  | audio m => m.asStr
  | video m => m.asStr

/-- The variants are tried in turn. -/
def deserialize (j : Json) : Option MimeType :=
  ((MimeTypeAudio.deserialize j).map audio).or ((MimeTypeVideo.deserialize j).map video)

/-- How a text of this type starts. -/
def start : MimeType → List Char
  | audio _ => "audio/".toList
  | video _ => "video/".toList

lemma map_eq_ok {α β : Type} {f : α → β} {x : Except ParseMimeTypeError α} {b : β} :
    f <$> x = .ok b ↔ ∃ a, x = .ok a ∧ f a = b := by
  cases x <;> simp

lemma fromStr_eq_ok {s : String} {m : MimeType} : fromStr s = .ok m ↔
    eqIgnoreAsciiCase s.toList m.asStr.toList ∧ m.start <+: s.toList := by
  have happart : "video/".toList <+: s.toList → ¬ "audio/".toList <+: s.toList := fun hv ha => by
    have h : "audio/".toList <+: "video/".toList := List.prefix_of_prefix_length_le ha hv (by decide)
    revert h
    decide
  by_cases ha : "audio/".toList <+: s.toList
  · rw [fromStr, if_pos ha, map_eq_ok]
    cases m with
    | audio m =>
      simp only [audio.injEq, exists_eq_right, MimeTypeAudio.fromStr_eq_ok, asStr, start, ha, and_true]
    | video m =>
      have hv : ¬ "video/".toList <+: s.toList := fun hv => happart hv ha
      simp only [reduceCtorEq, and_false, exists_false, start, hv]
  · rw [fromStr, if_neg ha]
    by_cases hv : "video/".toList <+: s.toList
    · rw [if_pos hv, map_eq_ok]
      cases m with
      | audio m => simp only [reduceCtorEq, and_false, exists_false, start, ha]
      | video m =>
        simp only [video.injEq, exists_eq_right, MimeTypeVideo.fromStr_eq_ok, asStr, start, hv, and_true]
    · rw [if_neg hv]
      cases m with
      | audio m => simp only [reduceCtorEq, start, ha, and_false]
      | video m => simp only [reduceCtorEq, start, hv, and_false]

lemma deserialize_eq_some {s : String} {m : MimeType} :
    deserialize (.str s) = some m ↔ eqIgnoreAsciiCase s.toList m.asStr.toList := by
  have haudio : ∀ m, MimeTypeAudio.deserialize (.str s) = some m ↔ _ := fun m =>
    toOption_eq_some.trans MimeTypeAudio.fromStr_eq_ok
  have hvideo : ∀ m, MimeTypeVideo.deserialize (.str s) = some m ↔ _ := fun m =>
    toOption_eq_some.trans MimeTypeVideo.fromStr_eq_ok
  cases ha : MimeTypeAudio.deserialize (.str s) with
  | some a =>
    have hnone := MimeTypeVideo.deserialize_of_audio ha
    cases m with
    | audio m => simp [deserialize, ha, asStr, ← haudio]
    | video m => simp [deserialize, ha, asStr, ← hvideo, hnone]
  | none =>
    cases m with
    | audio m => simp [deserialize, ha, asStr, ← haudio]
    | video m => simp [deserialize, ha, asStr, ← hvideo]

end MimeType

/-- Each kind parses its own texts, but for case. So does `serde` for both of them, but `from_str` of
`MimeType` wants the kind in small letters. -/
theorem mimeType_fromStr_exact (s : String) :
    ParsedExactly "audio" MimeTypeAudio.fromStr MimeTypeAudio.asStr s ∧
    ParsedExactly "video" MimeTypeVideo.fromStr MimeTypeVideo.asStr s ∧
    (∀ m, MimeType.deserialize (.str s) = some m ↔ eqIgnoreAsciiCase s.toList m.asStr.toList) ∧
    ∀ m, MimeType.fromStr s = .ok m ↔
      eqIgnoreAsciiCase s.toList m.asStr.toList ∧ m.start <+: s.toList :=
  ⟨parsedExactly_of_ok (by decide) fun _ => MimeTypeAudio.fromStr_eq_ok,
    parsedExactly_of_ok (by decide) fun _ => MimeTypeVideo.fromStr_eq_ok,
    fun _ => MimeType.deserialize_eq_some,fun _ => MimeType.fromStr_eq_ok⟩

end VvClient.Mediasoup
