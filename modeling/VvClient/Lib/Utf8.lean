import Mathlib.Data.List.Basic

/-! UTF-8 as a prefix code. A text may be cut anywhere: what is left of a cut character is shorter
than the character, and nothing that begins with it is decoded before the rest arrives. -/
namespace VvClient.Utf8

/-- The bytes of a text. -/
def encode (cs : List Char) : List UInt8 := cs.flatMap String.utf8EncodeChar

/-- The character that a sequence of bytes begins with. -/
def first (bs : List UInt8) : Option Char := bs.toByteArray.utf8DecodeChar? 0

/-- The characters that a sequence begins with, and the bytes that are left. -/
def scan : ℕ → List UInt8 → List Char × List UInt8
  | 0,bs => ([],bs)
  | n+1,bs =>
    match first bs with
    | some c => (c::(scan n (bs.drop c.utf8Size)).1,(scan n (bs.drop c.utf8Size)).2)
    | none => ([],bs)

/-- The characters of a text. -/
def decode (bs : List UInt8) : List Char := (scan bs.length bs).1

/-- What is left behind the longest prefix that is a text. -/
def rest (bs : List UInt8) : List UInt8 := (scan bs.length bs).2

/-- `std::str::from_utf8`. The error is the length of the longest prefix that is a text. -/
def fromUtf8 (bs : List UInt8) : Except ℕ (List UInt8) :=
  if rest bs = [] then .ok bs else .error (bs.length - (rest bs).length)

def Valid (bs : List UInt8) : Prop := ∃ cs, encode cs = bs

@[simp] lemma encode_nil : encode [] = [] := rfl

@[simp] lemma encode_cons (c : Char) (cs : List Char) :
    encode (c::cs) = String.utf8EncodeChar c ++ encode cs := rfl

lemma encode_append (cs ds : List Char) : encode (cs ++ ds) = encode cs ++ encode ds :=
  List.flatMap_append

lemma first_encodeChar (c : Char) (bs : List UInt8) : first (String.utf8EncodeChar c ++ bs) = some c := by
  rw [first, List.toByteArray_append, ByteArray.utf8DecodeChar?_utf8EncodeChar_append]

lemma first_nil : first [] = none := by decide

/-- What is decoded is at the front. -/
lemma eq_of_first {c : Char} {bs : List UInt8} (h : first bs = some c) :
    bs = String.utf8EncodeChar c ++ bs.drop c.utf8Size := by
  obtain ⟨l,hl⟩ := ByteArray.exists_of_utf8DecodeChar?_eq_some h
  have hback : l.data.toList.toByteArray = l :=
    ByteArray.ext (List.data_toByteArray.trans Array.toArray_toList)
  have hbs : bs = String.utf8EncodeChar c ++ l.data.toList := by
    rw [← List.toByteArray_inj, List.toByteArray_append, hl, hback]
  rw [hbs, ← String.length_utf8EncodeChar c, List.drop_left]

/-- Two texts that begin alike begin with the same characters. -/
lemma Valid.of_append {as bs : List UInt8} (ha : Valid as) (h : Valid (as ++ bs)) : Valid bs := by
  obtain ⟨cs,rfl⟩ := ha
  obtain ⟨ds,hd⟩ := h
  induction cs generalizing ds with
  | nil => exact ⟨ds,hd⟩
  | cons c cs ih =>
    rw [encode_cons, List.append_assoc] at hd
    cases ds with
    | nil =>
      have hnil := (List.append_eq_nil_iff.mp hd.symm).1
      exact absurd hnil String.utf8EncodeChar_ne_nil
    | cons d ds =>
      have hfirst := congrArg first hd
      rw [encode_cons, first_encodeChar, first_encodeChar, Option.some_inj] at hfirst
      subst hfirst
      exact ih ds (List.append_cancel_left hd)

lemma Valid.append {as bs : List UInt8} (ha : Valid as) (hb : Valid bs) : Valid (as ++ bs) := by
  obtain ⟨cs,rfl⟩ := ha
  obtain ⟨ds,rfl⟩ := hb
  exact ⟨cs ++ ds,encode_append cs ds⟩

lemma valid_flatten {ss : List (List UInt8)} (h : ∀ s ∈ ss, Valid s) : Valid ss.flatten := by
  induction ss with
  | nil => exact ⟨[],rfl⟩
  | cons s ss ih =>
    obtain ⟨hs,hss⟩ := List.forall_mem_cons.mp h
    exact hs.append (ih hss)

/-- A text that no character can be read from is empty. -/
lemma Valid.eq_nil {r : List UInt8} (h : Valid r) (hr : first r = none) : r = [] := by
  obtain ⟨cs,rfl⟩ := h
  cases cs with
  | nil => rfl
  | cons c cs =>
    rw [encode_cons, first_encodeChar] at hr
    cases hr

/-- The beginning of a text that no character can be read from is shorter than a character. -/
lemma length_of_first_none {r tail : List UInt8} (h : Valid (r ++ tail)) (hr : first r = none) :
    r.length ≤ 3 := by
  obtain ⟨ds,hd⟩ := h
  cases ds with
  | nil =>
    rw [(List.append_eq_nil_iff.mp hd.symm).1]
    exact Nat.zero_le _
  | cons d ds =>
    by_contra hlong
    have hsize := d.utf8Size_le_four
    have hlen := String.length_utf8EncodeChar d
    rw [encode_cons] at hd
    obtain ⟨l,hl⟩ := List.prefix_of_prefix_length_le ⟨encode ds,rfl⟩ ⟨tail,hd.symm⟩ (by omega)
    rw [← hl, first_encodeChar] at hr
    cases hr

lemma scan_spec (n : ℕ) (bs : List UInt8) (hn : bs.length ≤ n) :
    encode (scan n bs).1 ++ (scan n bs).2 = bs ∧ first (scan n bs).2 = none := by
  induction n generalizing bs with
  | zero =>
    rw [List.length_eq_zero_iff.mp (Nat.le_zero.mp hn)]
    exact ⟨rfl,first_nil⟩
  | succ n ih =>
    rw [scan]
    cases hf : first bs with
    | none => exact ⟨rfl,hf⟩
    | some c =>
      have hpos := c.utf8Size_pos
      have hbs := eq_of_first hf
      have hlen : (bs.drop c.utf8Size).length ≤ n := by
        rw [List.length_drop]
        omega
      obtain ⟨heq,hnone⟩ := ih (bs.drop c.utf8Size) hlen
      refine ⟨?_,hnone⟩
      dsimp only
      rw [encode_cons, List.append_assoc, heq, ← hbs]

lemma encode_decode (bs : List UInt8) : encode (decode bs) ++ rest bs = bs :=
  (scan_spec bs.length bs (Nat.le_refl _)).1

lemma first_rest (bs : List UInt8) : first (rest bs) = none :=
  (scan_spec bs.length bs (Nat.le_refl _)).2

lemma encode_eq_nil {cs : List Char} (h : encode cs = []) : cs = [] := by
  cases cs with
  | nil => rfl
  | cons c cs => exact absurd (List.append_eq_nil_iff.mp h).1 String.utf8EncodeChar_ne_nil

/-- Where no character can be read, nothing is decoded. -/
lemma rest_of_first_none {r : List UInt8} (h : first r = none) : rest r = r := by
  cases r with
  | nil => rfl
  | cons b bs => simp only [rest, List.length_cons, scan, h]

lemma length_decode (bs : List UInt8) : (encode (decode bs)).length = bs.length - (rest bs).length := by
  have hlen := congrArg List.length (encode_decode bs)
  rw [List.length_append] at hlen
  omega

lemma length_rest_le (bs : List UInt8) : (rest bs).length ≤ bs.length := by
  have hlen := congrArg List.length (encode_decode bs)
  rw [List.length_append] at hlen
  omega

/-- The longest text, and what is left behind it, by their places. -/
lemma take_decode (bs : List UInt8) :
    bs.take (bs.length - (rest bs).length) = encode (decode bs) ∧
    bs.drop (bs.length - (rest bs).length) = rest bs := by
  have heq := encode_decode bs
  rw [← length_decode]
  generalize encode (decode bs) = text at heq ⊢
  generalize rest bs = r at heq ⊢
  subst heq
  exact ⟨List.take_left,List.drop_left⟩

lemma encode_injective : Function.Injective encode := by
  intro cs ds h
  induction cs generalizing ds with
  | nil => exact (encode_eq_nil h.symm).symm
  | cons c cs ih =>
    cases ds with
    | nil => exact encode_eq_nil h
    | cons d ds =>
      have hfirst := congrArg first h
      rw [encode_cons, encode_cons, first_encodeChar, first_encodeChar, Option.some_inj] at hfirst
      subst hfirst
      rw [ih (List.append_cancel_left h)]

lemma Valid.encode_decode {bs : List UInt8} (h : Valid bs) : encode (decode bs) = bs := by
  have heq := Utf8.encode_decode bs
  have htext : Valid (encode (decode bs)) := ⟨_,rfl⟩
  have hrest : Valid (rest bs) := htext.of_append (heq.symm ▸ h)
  rwa [hrest.eq_nil (first_rest bs), List.append_nil] at heq

/-- Texts may be decoded one by one. -/
lemma decode_flatten {ss : List (List UInt8)} (h : ∀ s ∈ ss, Valid s) :
    decode ss.flatten = (ss.map decode).flatten := by
  refine encode_injective ?_
  rw [(valid_flatten h).encode_decode]
  induction ss with
  | nil => rfl
  | cons s ss ih =>
    obtain ⟨hs,hss⟩ := List.forall_mem_cons.mp h
    rw [List.flatten_cons, List.map_cons, List.flatten_cons, encode_append, hs.encode_decode, ← ih hss]

end VvClient.Utf8
