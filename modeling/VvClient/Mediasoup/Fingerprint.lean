import Mathlib.Data.Vector.Defs
import VvClient.Lib.Radix
import VvClient.Lib.Text
import VvClient.Lib.Visitor

/-! The fingerprint of a certificate: it is written as pairs of hexadecimal digits, and read by a
visitor that slices the text. -/
namespace VvClient.Mediasoup

open Json Radix

/-- The bytes of an array of this length. -/
abbrev Bytes (n : ℕ) := List.Vector UInt8 n

inductive DtlsFingerprint
  | sha1 (value : Bytes 20)
  | sha224 (value : Bytes 28)
  | sha256 (value : Bytes 32)
  | sha384 (value : Bytes 48)
  | sha512 (value : Bytes 64)
  deriving DecidableEq

namespace DtlsFingerprint

def bytes : DtlsFingerprint → List UInt8
  | sha1 value => value.toList
  | sha224 value => value.toList
  | sha256 value => value.toList
  | sha384 value => value.toList
  | sha512 value => value.toList

/-- The pairs of digits with colons between them. -/
def hexText : List UInt8 → List Char
  | [] => []
  | [b] => upperHex b
  | b::c::bs => upperHex b ++ ':' :: hexText (c::bs)

def valueString (f : DtlsFingerprint) : String := String.ofList (hexText f.bytes)

def algorithmStr : DtlsFingerprint → String
  | sha1 _ => "sha-1"
  | sha224 _ => "sha-224"
  | sha256 _ => "sha-256"
  | sha384 _ => "sha-384"
  | sha512 _ => "sha-512"

def serialize (f : DtlsFingerprint) : Json :=
  .obj (field "algorithm" (.str f.algorithmStr) ++ field "value" (.str f.valueString))

/-- One turn of the loop of `parse_as_bytes`. -/
def parseByte (input : List Char) (i : ℕ) : Outcome String UInt8 := do
  let pair ← Outcome.unwrap (Text.slice (i*3) (i*3+2) input)
  match fromStrRadix 16 256 pair with
  | .ok v => .ok (UInt8.ofNat v)
  | .error error => .err ("Failed to parse value " ++ String.ofList input ++
      " as series of hex bytes: " ++ error.description)

/-- `parse_as_bytes` from byte `i` of the output on, with the number of bytes that are left. -/
def parseAsBytes (input : List Char) : ℕ → ℕ → Outcome String (List UInt8)
  | _,0 => .ok []
  | i,n+1 => do
    let v ← parseByte input i
    let vs ← parseAsBytes input (i+1) n
    return v::vs

lemma length_of_parseAsBytes {input : List Char} {i n : ℕ} {vs : List UInt8}
    (h : parseAsBytes input i n = .ok vs) : vs.length = n := by
  induction n generalizing i vs with
  | zero => rw [← Outcome.ok.inj h]; rfl
  | succ n ih =>
    obtain ⟨v,-,hrest⟩ := Outcome.bind_eq_ok.mp h
    obtain ⟨ws,hws,hvs⟩ := Outcome.bind_eq_ok.mp hrest
    rw [← Outcome.ok.inj hvs, List.length_cons, ih hws]

/-- The arm of an algorithm: a value of `n` bytes, and the name in the error. -/
def readValue (n : ℕ) (name : String) (value : String) : Outcome DeError (Bytes n) :=
  if Text.byteLen value.toList = n*3-1 then
    match h : parseAsBytes value.toList 0 n with
    | .ok vs => .ok ⟨vs,length_of_parseAsBytes h⟩
    | .err text => .err (.custom text)
    | .panicked => .panicked
  else .err (.custom ("Value doesn't have correct length for " ++ name))

def readSha1 (value : String) : Outcome DeError DtlsFingerprint := sha1 <$> readValue 20 "SHA-1" value
def readSha224 (value : String) : Outcome DeError DtlsFingerprint :=
  sha224 <$> readValue 28 "SHA-224" value
def readSha256 (value : String) : Outcome DeError DtlsFingerprint :=
  sha256 <$> readValue 32 "SHA-256" value
def readSha384 (value : String) : Outcome DeError DtlsFingerprint :=
  sha384 <$> readValue 48 "SHA-384" value
def readSha512 (value : String) : Outcome DeError DtlsFingerprint :=
  sha512 <$> readValue 64 "SHA-512" value

/-- The match on the algorithm. -/
def fromAlgorithm (algorithm value : String) : Outcome DeError DtlsFingerprint :=
  match algorithm with
  | "sha-1" => readSha1 value
  | "sha-224" => readSha224 value
  | "sha-256" => readSha256 value
  | "sha-384" => readSha384 value
  | "sha-512" => readSha512 value
  | other => .err (.unknownVariant other)

/-- The variable `algorithm` of `visit_map`. -/
def algorithmSlot : Slot (Option String) := .once "algorithm" nextStr

/-- The variable `value` of `visit_map`; a `null` leaves it free. -/
def valueSlot : Slot (Option String) := ⟨"value",none,nextOptionStr⟩

def visitMap (fields : Fields) : Outcome DeError DtlsFingerprint := do
  let s ← fields.foldlM (visitTwo true algorithmSlot valueSlot) (none,none)
  let algorithm ← Outcome.okOr (.missingField "algorithm") s.1
  let value ← Outcome.okOr (.missingField "value") s.2
  fromAlgorithm algorithm value

def deserialize (j : Json) : Outcome DeError DtlsFingerprint := do
  let fields ← Outcome.okOr .invalidType (toFields j)
  visitMap fields

section Spelled

/-- A pair that is read as a byte is two digits, of either case, or a plus sign with a digit. -/
def HexPair (p : List Char) (b : UInt8) : Prop :=
  ∃ x y h l, p = [x,y] ∧ (toDigit 16 x = some h ∨ x = '+' ∧ h = 0) ∧ toDigit 16 y = some l ∧
    16*h+l = b.toNat

/-- The texts that are read as these bytes: a pair for each, and any character of one byte behind all
but the last. -/
inductive Spelled : List Char → List UInt8 → Prop
  | last {p b} (h : HexPair p b) : Spelled p [b]
  | cons {p b sep t bs} (h : HexPair p b) (hsep : sep.utf8Size = 1) (ht : Spelled t bs) :
      Spelled (p ++ sep::t) (b::bs)

lemma utf8Size_of_toNat_lt {c : Char} (h : c.toNat < 128) : c.utf8Size = 1 := by
  have hle : c.val ≤ 0x7f := UInt32.le_iff_toNat_le.mpr (Nat.le_of_lt_succ h)
  simp [Char.utf8Size, hle]

lemma utf8Size_of_toDigit {c : Char} {d : ℕ} (h : toDigit 16 c = some d) : c.utf8Size = 1 := by
  apply utf8Size_of_toNat_lt
  simp only [toDigit, Option.ite_none_right_eq_some] at h
  have hlt := h.1
  split at hlt
  · next hrange => exact Nat.lt_of_le_of_lt hrange.2 (by decide)
  · split at hlt
    · next hrange => exact Nat.lt_of_le_of_lt hrange.2 (by decide)
    · split at hlt
      · next hrange => exact Nat.lt_of_le_of_lt hrange.2 (by decide)
      · omega

/-- Two bytes of a text that are read as a byte are such a pair. -/
lemma hexPair_iff {p : List Char} {b : UInt8} : HexPair p b ↔
    Text.byteLen p = 2 ∧ fromStrRadix 16 256 p = .ok b.toNat := by
  symm
  constructor
  · rintro ⟨hlen,hread⟩
    match p with
    | [] => cases hlen
    | [x] =>
      have hx : toDigit 16 x = some b.toNat := by
        rw [← readDigits_single]
        rw [fromStrRadix.eq_def] at hread
        split at hread
        · cases hread
        · cases hread
        · cases hread
        · rename_i hplus heq
          exact absurd (List.cons.inj heq).2.symm hplus
        · exact hread
      have hsize := utf8Size_of_toDigit hx
      simp only [Text.byteLen_cons, Text.byteLen_nil] at hlen
      omega
    | [x,y] =>
      obtain ⟨h,l,hx,hy,heq⟩ := (fromStrRadix_pair x y).mp hread
      exact ⟨x,y,h,l,rfl,hx,hy,heq⟩
    | x::y::z::rest =>
      have hx := x.utf8Size_pos
      have hy := y.utf8Size_pos
      have hz := z.utf8Size_pos
      simp only [Text.byteLen_cons] at hlen
      omega
  · rintro ⟨x,y,h,l,rfl,hx,hy,heq⟩
    have hxsize : x.utf8Size = 1 := by
      rcases hx with hx | ⟨rfl,-⟩
      · exact utf8Size_of_toDigit hx
      · decide
    refine ⟨?_,(fromStrRadix_pair x y).mpr ⟨h,l,hx,hy,heq⟩⟩
    simp [hxsize, utf8Size_of_toDigit hy]

lemma HexPair.byteLen {p : List Char} {b : UInt8} (h : HexPair p b) : Text.byteLen p = 2 :=
  (hexPair_iff.mp h).1

lemma parseByte_eq_ok {u t : List Char} {i : ℕ} (hu : Text.byteLen u = i*3) {b : UInt8} :
    parseByte (u ++ t) i = .ok b ↔ ∃ p rest, t = p ++ rest ∧ HexPair p b := by
  rw [parseByte, Text.slice_append hu]
  constructor
  · intro h
    obtain ⟨p,hp,hread⟩ := Outcome.bind_eq_ok.mp h
    obtain ⟨⟨rest,rfl⟩,hlen⟩ := Text.takeBytes_eq_some.mp (Outcome.unwrap_eq_ok.mp hp)
    refine ⟨p,rest,rfl,hexPair_iff.mpr ⟨hlen,?_⟩⟩
    split at hread
    · next v hv =>
      rw [hv, ← Outcome.ok.inj hread, UInt8.toNat_ofNat_of_lt' (fromStrRadix_lt hv)]
    · cases hread
  · rintro ⟨p,rest,rfl,hp⟩
    obtain ⟨hlen,hread⟩ := hexPair_iff.mp hp
    have htake : Text.takeBytes 2 (p ++ rest) = some p :=
      Text.takeBytes_eq_some.mpr ⟨List.prefix_append p rest,hlen⟩
    simp [htake, Outcome.unwrap, hread]

/-- A value of the right length is read just if it is spelled so. -/
theorem parseAsBytes_iff {u t : List Char} {i n : ℕ} (hu : Text.byteLen u = i*3) {bs : List UInt8} :
    parseAsBytes (u ++ t) i (n+1) = .ok bs ∧ Text.byteLen t = (n+1)*3-1 ↔
      Spelled t bs ∧ bs.length = n+1 := by
  induction n generalizing u t i bs with
  | zero =>
    constructor
    · rintro ⟨hparse,hlen⟩
      obtain ⟨b,hb,hrest⟩ := Outcome.bind_eq_ok.mp hparse
      obtain rfl : [b] = bs := Outcome.ok.inj hrest
      obtain ⟨p,rest,rfl,hp⟩ := (parseByte_eq_ok hu).mp hb
      have hnil : rest = [] := by
        apply Text.byteLen_eq_zero
        rw [Text.byteLen_append, hp.byteLen] at hlen
        omega
      rw [hnil, List.append_nil]
      exact ⟨.last hp,rfl⟩
    · rintro ⟨hspelled,hlength⟩
      cases hspelled with
      | @last p b h =>
        refine ⟨?_,h.byteLen⟩
        rw [parseAsBytes, (parseByte_eq_ok hu).mpr ⟨t,[],by simp,h⟩]
        rfl
      | cons h hsep ht => cases ht <;> simp at hlength
  | succ n ih =>
    constructor
    · rintro ⟨hparse,hlen⟩
      obtain ⟨b,hb,hrest⟩ := Outcome.bind_eq_ok.mp hparse
      obtain ⟨cs,hcs,hbs⟩ := Outcome.bind_eq_ok.mp hrest
      obtain rfl : b::cs = bs := Outcome.ok.inj hbs
      obtain ⟨p,rest,rfl,hp⟩ := (parseByte_eq_ok hu).mp hb
      rw [Text.byteLen_append, hp.byteLen] at hlen
      obtain ⟨sep,t,hsep,rfl⟩ : ∃ sep t, sep.utf8Size = 1 ∧ rest = sep::t := by
        obtain ⟨c,hc,-⟩ := Outcome.bind_eq_ok.mp hcs
        obtain ⟨pair,hpair,-⟩ := Outcome.bind_eq_ok.mp hc
        obtain ⟨t,ht,-⟩ := Option.bind_eq_some_iff.mp (Outcome.unwrap_eq_ok.mp hpair)
        obtain ⟨s,hs,hslen⟩ := Text.dropBytes_eq_some.mp ht
        rw [← List.append_assoc] at hs
        have hle : Text.byteLen (u ++ p) ≤ Text.byteLen s := by
          rw [Text.byteLen_append, hu, hp.byteLen, hslen]
          omega
        obtain ⟨w,rfl,hrest⟩ := Text.append_of_byteLen_le hs hle
        have hw : Text.byteLen w = 1 := by
          simp only [Text.byteLen_append, hu, hp.byteLen] at hslen
          omega
        obtain ⟨sep,rfl,hsep⟩ := Text.eq_singleton_of_byteLen hw
        exact ⟨sep,t,hsep,hrest⟩
      have hu' : Text.byteLen (u ++ (p ++ [sep])) = (i+1)*3 := by
        simp [hu, hp.byteLen, hsep]
        omega
      have hsplit : u ++ (p ++ sep::t) = u ++ (p ++ [sep]) ++ t := by simp
      rw [hsplit] at hcs
      rw [Text.byteLen_cons, hsep] at hlen
      obtain ⟨hspelled,hlength⟩ := (ih hu').mp ⟨hcs,by omega⟩
      exact ⟨.cons hp hsep hspelled,by rw [List.length_cons, hlength]⟩
    · rintro ⟨hspelled,hlength⟩
      cases hspelled with
      | last h => simp at hlength
      | @cons p b sep t bs h hsep ht =>
        have hu' : Text.byteLen (u ++ (p ++ [sep])) = (i+1)*3 := by
          simp [hu, h.byteLen, hsep]
          omega
        obtain ⟨hparse,hlen⟩ := (ih hu').mpr ⟨ht,by simpa using hlength⟩
        have hsplit : u ++ (p ++ [sep]) ++ t = u ++ (p ++ sep::t) := by simp
        rw [hsplit] at hparse
        refine ⟨?_,?_⟩
        · rw [parseAsBytes, (parseByte_eq_ok hu).mpr ⟨p,sep::t,rfl,h⟩]
          simp [hparse]
        · rw [Text.byteLen_append, Text.byteLen_cons, h.byteLen, hsep, hlen]
          omega

/-- What is written is spelled with colons. -/
lemma spelled_hexText {bs : List UInt8} (h : bs ≠ []) : Spelled (hexText bs) bs := by
  have hpair : ∀ b, HexPair (upperHex b) b := fun b => by
    refine hexPair_iff.mpr ⟨?_,upperHex_read b⟩
    have hall : ∀ d < 16, (upperDigit d).utf8Size = 1 := by decide
    have hb : b.toNat < 256 := b.toNat_lt_size
    simp [upperHex, hall (b.toNat/16) (by omega), hall (b.toNat%16) (by omega)]
  induction bs with
  | nil => exact absurd rfl h
  | cons b bs ih =>
    cases bs with
    | nil => exact .last (hpair b)
    | cons c bs => exact .cons (hpair b) (by decide) (ih (List.cons_ne_nil c bs))

/-- Every slice of a text of one byte characters is there. -/
lemma slice_of_ascii {cs : List Char} (hcs : ∀ c ∈ cs, c.utf8Size = 1) {a n : ℕ}
    (h : a+n ≤ Text.byteLen cs) : ∃ t, Text.slice a (a+n) cs = some t := by
  have hlen : ∀ l : List Char, (∀ c ∈ l, c.utf8Size = 1) → Text.byteLen l = l.length := by
    intro l hl
    induction l with
    | nil => rfl
    | cons c l ih =>
      rw [List.forall_mem_cons] at hl
      rw [Text.byteLen_cons, hl.1, ih hl.2, List.length_cons, Nat.add_comm]
  have htake : Text.byteLen (cs.take a) = a := by
    rw [hlen _ fun c hc => hcs c (List.mem_of_mem_take hc), List.length_take]
    rw [hlen cs hcs] at h
    omega
  have hdrop : Text.byteLen ((cs.drop a).take n) = n := by
    rw [hlen _ fun c hc => hcs c (List.mem_of_mem_drop (List.mem_of_mem_take hc)), List.length_take,
      List.length_drop]
    rw [hlen cs hcs] at h
    omega
  refine ⟨(cs.drop a).take n,?_⟩
  conv_lhs => rw [← List.take_append_drop a cs]
  rw [Text.slice_append htake, Text.takeBytes_eq_some]
  exact ⟨List.take_prefix n _,hdrop⟩

lemma parseAsBytes_of_ascii {cs : List Char} (hcs : ∀ c ∈ cs, c.utf8Size = 1) {i n : ℕ}
    (h : (i+n)*3 ≤ Text.byteLen cs+1) : parseAsBytes cs i n ≠ .panicked := by
  induction n generalizing i with
  | zero => simp [parseAsBytes]
  | succ n ih =>
    intro hpanic
    rcases Outcome.bind_eq_panicked.mp hpanic with hbyte | ⟨v,-,hrest⟩
    · obtain ⟨p,hp⟩ := slice_of_ascii hcs (show i*3+2 ≤ Text.byteLen cs by omega)
      rw [parseByte, hp] at hbyte
      simp only [Outcome.unwrap, Outcome.ok_bind] at hbyte
      split at hbyte <;> cases hbyte
    · rcases Outcome.bind_eq_panicked.mp hrest with hpanic | ⟨vs,-,hvs⟩
      · exact ih (by omega) hpanic
      · cases hvs

end Spelled

section Algorithms

theorem readValue_eq_ok {n : ℕ} {name value : String} {v : Bytes (n+1)} :
    readValue (n+1) name value = .ok v ↔ Spelled value.toList v.toList := by
  have hiff : parseAsBytes ([] ++ value.toList) 0 (n+1) = .ok v.toList ∧ _ ↔ _ :=
    parseAsBytes_iff rfl
  rw [List.nil_append, List.Vector.toList_length, and_iff_left rfl] at hiff
  rw [← hiff, readValue]
  by_cases hlen : Text.byteLen value.toList = (n+1)*3-1
  · rw [if_pos hlen, and_iff_left hlen]
    split
    · next vs hvs =>
      constructor
      · intro h
        rw [hvs, ← Outcome.ok.inj h]
        rfl
      · intro h
        have hvs' : vs = v.toList := Outcome.ok.inj (hvs.symm.trans h)
        exact congrArg Outcome.ok (Subtype.ext hvs')
    · next h => simp [h]
    · next h => simp [h]
  · simp [hlen]

/-- A fingerprint is read just from the name of its algorithm and a text that spells its bytes. -/
theorem fromAlgorithm_eq_ok_iff {algorithm value : String} {f : DtlsFingerprint} :
    fromAlgorithm algorithm value = .ok f ↔
      algorithm = f.algorithmStr ∧ Spelled value.toList f.bytes := by
  constructor
  · intro h
    unfold fromAlgorithm at h
    split at h
    case h_6 => cases h
    all_goals
      obtain ⟨v,hv,rfl⟩ := Outcome.map_eq_ok.mp h
      exact ⟨rfl,readValue_eq_ok.mp hv⟩
  · rintro ⟨rfl,h⟩
    cases f with
    | _ v => exact Outcome.map_eq_ok.mpr ⟨v,readValue_eq_ok.mpr h,rfl⟩

lemma bytes_ne_nil (f : DtlsFingerprint) : f.bytes ≠ [] := by
  have hlength : 0 < f.bytes.length := by cases f <;> simp [bytes]
  exact List.ne_nil_of_length_pos hlength

end Algorithms

section Visiting

lemma valueSlot_settles {value : String} {js : List Json} :
    valueSlot.Settles none (some value) js ↔
      ∃ n, js = List.replicate n .null ++ [.str value] := by
  constructor
  · rintro (⟨-,hnone⟩ | ⟨-,idle,last,rfl,hidle,hlast⟩)
    · cases hnone
    · have hnull : ∀ j ∈ idle, j = .null := fun j hj => by
        rcases nextOptionStr_eq_ok.mp (hidle j hj) with ⟨rfl,-⟩ | ⟨t,-,ht⟩
        · rfl
        · cases ht
      obtain ⟨-,hnone⟩ | ⟨t,rfl,ht⟩ := nextOptionStr_eq_ok.mp hlast
      · cases hnone
      · rw [Option.some.inj ht, List.eq_replicate_of_mem hnull]
        exact ⟨idle.length,rfl⟩
  · rintro ⟨n,rfl⟩
    exact .inr ⟨rfl,List.replicate n .null,.str value,rfl,
      fun j hj => by rw [List.eq_of_mem_replicate hj]; rfl,rfl⟩

/-- The loop of `visit_map` leaves both variables set. -/
lemma foldlM_visitTwo_eq_some {fields : Fields} {algorithm value : String} :
    fields.foldlM (visitTwo true algorithmSlot valueSlot) (none,none) =
        .ok (some algorithm,some value) ↔
      (∀ f ∈ fields, f.1 = "algorithm" ∨ f.1 = "value") ∧
      values "algorithm" fields = [.str algorithm] ∧
      ∃ n, values "value" fields = List.replicate n .null ++ [.str value] := by
  rw [foldlM_visitTwo (by decide), algorithmSlot, Slot.once_settles, valueSlot_settles]
  simp [Slot.once, valueSlot, nextStr_eq_ok]

lemma deserialize_eq_ok {j : Json} {f : DtlsFingerprint} : deserialize j = .ok f ↔
    ∃ fields n value, j = .obj fields ∧ (∀ x ∈ fields, x.1 = "algorithm" ∨ x.1 = "value") ∧
      values "algorithm" fields = [.str f.algorithmStr] ∧
      values "value" fields = List.replicate n .null ++ [.str value] ∧
      Spelled value.toList f.bytes := by
  constructor
  · intro h
    obtain ⟨fields,hfields,hvisit⟩ := Outcome.bind_eq_ok.mp h
    obtain ⟨⟨a,v⟩,hs,hrest⟩ := Outcome.bind_eq_ok.mp hvisit
    obtain ⟨algorithm,ha,hrest⟩ := Outcome.bind_eq_ok.mp hrest
    obtain ⟨value,hv,hread⟩ := Outcome.bind_eq_ok.mp hrest
    rw [Outcome.okOr_eq_ok] at hfields ha hv
    obtain rfl : a = some algorithm := ha
    obtain rfl : v = some value := hv
    obtain ⟨hnames,halgorithm,n,hvalue⟩ := foldlM_visitTwo_eq_some.mp hs
    obtain ⟨rfl,hspelled⟩ := fromAlgorithm_eq_ok_iff.mp hread
    cases j with
    | obj fields' =>
      obtain rfl : fields' = fields := Option.some.inj hfields
      exact ⟨fields',n,value,rfl,hnames,halgorithm,hvalue,hspelled⟩
    | _ => cases hfields
  · rintro ⟨fields,n,value,rfl,hnames,ha,hv,hspelled⟩
    have hloop := foldlM_visitTwo_eq_some.mpr ⟨hnames,ha,n,hv⟩
    have hread := fromAlgorithm_eq_ok_iff.mpr ⟨rfl,hspelled⟩
    simpa [deserialize, visitMap, toFields, Outcome.okOr, hloop] using hread

theorem deserialize_serialize (f : DtlsFingerprint) : deserialize f.serialize = .ok f := by
  have hspelled : Spelled f.valueString.toList f.bytes := by
    rw [valueString, String.toList_ofList]
    exact spelled_hexText f.bytes_ne_nil
  refine deserialize_eq_ok.mpr ⟨_,0,f.valueString,rfl,?_,?_,?_,hspelled⟩
  · simp [field]
  · simp
  · simp

lemma readValue_of_ascii {value : String} (h : ∀ c ∈ value.toList, c.utf8Size = 1) (n : ℕ)
    (name : String) : readValue n name value ≠ .panicked := by
  intro hpanic
  rw [readValue] at hpanic
  split at hpanic
  · next hlen =>
    split at hpanic
    · cases hpanic
    · cases hpanic
    · next hparse => exact parseAsBytes_of_ascii h (by omega) hparse
  · cases hpanic

lemma not_ascii_of_panicked {j : Json} (h : deserialize j = .panicked) :
    ∃ fields value, j = .obj fields ∧ .str value ∈ values "value" fields ∧
      ∃ c ∈ value.toList, c.utf8Size ≠ 1 := by
  cases j with
  | obj fields =>
    rcases Outcome.bind_eq_panicked.mp h with h | ⟨_,hfields,h⟩
    · simp at h
    obtain rfl : fields = _ := Option.some.inj (Outcome.okOr_eq_ok.mp hfields)
    rcases Outcome.bind_eq_panicked.mp h with h | ⟨⟨a,v⟩,hs,h⟩
    · obtain ⟨x,-,hx | hx⟩ := foldlM_visitTwo_panicked h
      · simp [algorithmSlot, Slot.once, nextStr, Outcome.map_eq_panicked] at hx
      · simp [valueSlot, nextOptionStr] at hx
    rcases Outcome.bind_eq_panicked.mp h with h | ⟨algorithm,ha,h⟩
    · simp at h
    rcases Outcome.bind_eq_panicked.mp h with h | ⟨value,hv,h⟩
    · simp at h
    obtain rfl : a = some algorithm := Outcome.okOr_eq_ok.mp ha
    obtain rfl : v = some value := Outcome.okOr_eq_ok.mp hv
    refine ⟨fields,value,rfl,?_,?_⟩
    · obtain ⟨-,-,n,hvalues⟩ := foldlM_visitTwo_eq_some.mp hs
      rw [hvalues]
      simp
    · by_contra hascii
      push Not at hascii
      unfold fromAlgorithm at h
      split at h
      case h_6 => cases h
      all_goals exact readValue_of_ascii hascii _ _ (Outcome.map_eq_panicked.mp h)
  | _ => cases h

/-- A fingerprint is read from the objects that have its algorithm once, and a text that spells its
bytes once, behind any number of `null`; there are no other fields. Reading one panics only over a
value with a character of more than one byte. -/
theorem deserialize_outcome (j : Json) :
    (∀ f : DtlsFingerprint, deserialize j = .ok f ↔
      ∃ fields n value, j = .obj fields ∧ (∀ x ∈ fields, x.1 = "algorithm" ∨ x.1 = "value") ∧
        values "algorithm" fields = [.str f.algorithmStr] ∧
        values "value" fields = List.replicate n .null ++ [.str value] ∧
        Spelled value.toList f.bytes) ∧
    (deserialize j = .panicked → ∃ fields value, j = .obj fields ∧ .str value ∈ values "value" fields ∧
      ∃ c ∈ value.toList, c.utf8Size ≠ 1) :=
  ⟨fun _ => deserialize_eq_ok,not_ascii_of_panicked⟩

/-- A character that a slice cuts in two. -/
example : deserialize (.obj [("algorithm",.str "sha-1"),
    ("value",.str (String.ofList ('0' :: '\u00e9' :: List.replicate 56 '0')))]) = .panicked := by decide +kernel

end Visiting

end DtlsFingerprint

end VvClient.Mediasoup
