import Mathlib.Data.Nat.Digits.Defs
import VvClient.Lib.Json

/-! Texts of JSON values. A pair of a writer and a reader is lawful when the reader returns what was
written; the compact writer with its reader is one. -/
namespace VvClient

structure JsonText where
  write : Json → String
  read : String → Option Json

def JsonText.Lawful (t : JsonText) : Prop := ∀ j, t.read (t.write j) = some j

namespace Compact

def quote : Char := '\x22'
def backslash : Char := '\x5c'

def digitChar (d : ℕ) : Char := Char.ofNat (48+d)

def hexChar (d : ℕ) : Char := if d < 10 then Char.ofNat (48+d) else Char.ofNat (87+d)

def hexValue (c : Char) : ℕ := if c.toNat < 87 then c.toNat-48 else c.toNat-87

/-- The characters with an escape of two characters, and the second of these. -/
def escapes : List (Char × Char) :=
  [(quote,quote),(backslash,backslash),('\x08','b'),('\x09','t'),('\x0a','n'),('\x0c','f'),
    ('\x0d','r')]

def escape (c : Char) : List Char :=
  match escapes.lookup c with
  | some e => [backslash,e]
  | none =>
    if c.toNat < 32 then [backslash,'u','0','0',hexChar (c.toNat/16),hexChar (c.toNat%16)] else [c]

def writeStr (s : List Char) : List Char := quote::(s.flatMap escape ++ [quote])

def writeNat (n : ℕ) : List Char :=
  if n = 0 then ['0'] else (Nat.digits 10 n).reverse.map digitChar

def writeInt (n : ℤ) : List Char := if n < 0 then '-' :: writeNat n.natAbs else writeNat n.natAbs

mutual

def write : Json → List Char
  | .null => ['n','u','l','l']
  | .bool b => if b then ['t','r','u','e'] else ['f','a','l','s','e']
  | .num n => writeInt n.val
  | .str s => writeStr s.toList
  | .arr items => '[' :: writeItems true items
  | .obj fields => '\x7b' :: writeFields true fields

/-- The items that are left of an array, with its end. -/
def writeItems : Bool → List Json → List Char
  | _,[] => [']']
  | first,j::js => (if first then [] else [',']) ++ write j ++ writeItems false js

def writeFields : Bool → List (String × Json) → List Char
  | _,[] => ['\x7d']
  | first,(name,j)::fs =>
    (if first then [] else [',']) ++ writeStr name.toList ++ ':' :: write j ++ writeFields false fs

end

/-- The rest of a text that begins with `c`. -/
def expect (c : Char) : List Char → Option (List Char)
  | [] => none
  | d::cs => if d = c then some cs else none

/-- A string after its opening quote. -/
def readStr : List Char → Option (List Char × List Char)
  | [] => none
  | c::cs =>
    if c = quote then some ([],cs)
    else if c = backslash then
      match cs with
      | 'u' :: '0' :: '0' :: h::l::rest =>
        (readStr rest).map fun r => (Char.ofNat (16*hexValue h+hexValue l)::r.1,r.2)
      | e::rest =>
        ((escapes.map Prod.swap).lookup e).bind fun d => (readStr rest).map fun r => (d::r.1,r.2)
      | [] => none
    else (readStr cs).map fun r => (c::r.1,r.2)

def isDigit (c : Char) : Bool := 48 ≤ c.toNat ∧ c.toNat ≤ 57

def readNat (cs : List Char) : Option (ℕ × List Char) :=
  match cs.takeWhile isDigit with
  | [] => none
  | ds => some (Nat.ofDigits 10 (ds.map fun c => c.toNat-48).reverse,cs.dropWhile isDigit)

def readInt : List Char → Option (ℤ × List Char)
  | [] => none
  | c::cs =>
    if c = '-' then (readNat cs).map fun r => (-(r.1 : ℤ),r.2)
    else (readNat (c::cs)).map fun r => ((r.1 : ℤ),r.2)

def readNum (cs : List Char) : Option (Json × List Char) :=
  (readInt cs).bind fun r =>
    if h : Int64.minValue.toInt ≤ r.1 ∧ r.1 < UInt64.size then some (.num ⟨r.1,h.1,h.2⟩,r.2)
    else none

mutual

def readValue : ℕ → List Char → Option (Json × List Char)
  | 0,_ => none
  | n+1,cs =>
    match cs with
    | 'n' :: 'u' :: 'l' :: 'l' :: rest => some (.null,rest)
    | 't' :: 'r' :: 'u' :: 'e' :: rest => some (.bool true,rest)
    | 'f' :: 'a' :: 'l' :: 's' :: 'e' :: rest => some (.bool false,rest)
    | '[' :: rest => (readItems n true rest).map fun r => (.arr r.1,r.2)
    | '\x7b' :: rest => (readFields n true rest).map fun r => (.obj r.1,r.2)
    | '\x22' :: rest => (readStr rest).map fun r => (.str (String.ofList r.1),r.2)
    | _ => readNum cs

def readItems : ℕ → Bool → List Char → Option (List Json × List Char)
  | 0,_,_ => none
  | n+1,first,cs =>
    match expect ']' cs with
    | some rest => some ([],rest)
    | none => do
      let cs ← if first then some cs else expect ',' cs
      let (j,cs) ← readValue n cs
      let (js,cs) ← readItems n false cs
      return (j::js,cs)

def readFields : ℕ → Bool → List Char → Option (List (String × Json) × List Char)
  | 0,_,_ => none
  | n+1,first,cs =>
    match expect '\x7d' cs with
    | some rest => some ([],rest)
    | none => do
      let cs ← if first then some cs else expect ',' cs
      let cs ← expect quote cs
      let (name,cs) ← readStr cs
      let cs ← expect ':' cs
      let (j,cs) ← readValue n cs
      let (fs,cs) ← readFields n false cs
      return ((String.ofList name,j)::fs,cs)

end

section RoundTrip

lemma hexValue_hexChar {d : ℕ} (h : d < 16) : hexValue (hexChar d) = d := by
  have hall : ∀ d < 16, hexValue (hexChar d) = d := by decide
  exact hall d h

lemma escapes_back : ∀ p ∈ escapes,
    p.2 ≠ 'u' ∧ (escapes.map Prod.swap).lookup p.2 = some p.1 := by decide

lemma escapes_lookup {c e : Char} (h : escapes.lookup c = some e) :
    e ≠ 'u' ∧ (escapes.map Prod.swap).lookup e = some c := by
  obtain ⟨l₁,l₂,hsplit,-⟩ := List.lookup_eq_some_iff.mp h
  exact escapes_back (c,e) (by rw [hsplit]; simp)

/-- A character that is written as it is does not look like a quote or an escape. -/
lemma plain_of_lookup {c : Char} (h : escapes.lookup c = none) : c ≠ quote ∧ c ≠ backslash := by
  constructor
  · rintro rfl
    exact absurd h (by decide)
  · rintro rfl
    exact absurd h (by decide)

lemma readStr_plain {c : Char} (hq : c ≠ quote) (hb : c ≠ backslash) (cs : List Char) :
    readStr (c::cs) = (readStr cs).map fun r => (c::r.1,r.2) := by
  rw [readStr.eq_def]
  simp only [if_neg hq, if_neg hb]

lemma readStr_short {c e : Char} (hu : e ≠ 'u') (h : (escapes.map Prod.swap).lookup e = some c)
    (cs : List Char) :
    readStr (backslash::e::cs) = (readStr cs).map fun r => (c::r.1,r.2) := by
  rw [readStr.eq_def]
  simp only [show backslash ≠ quote by decide, if_false, if_true]
  split
  · rename_i heq
    exact absurd (List.cons.inj heq).1 hu
  · rename_i heq
    obtain ⟨rfl,rfl⟩ := List.cons.inj heq
    rw [h, Option.bind_some]
  · rename_i heq
    cases heq

lemma readStr_hex (h l : Char) (cs : List Char) :
    readStr (backslash :: 'u' :: '0' :: '0' :: h::l::cs) =
      (readStr cs).map fun r => (Char.ofNat (16*hexValue h+hexValue l)::r.1,r.2) := by
  rw [readStr.eq_def]
  simp only [show backslash ≠ quote by decide, if_false, if_true]

lemma readStr_escape (c : Char) (cs : List Char) :
    readStr (escape c ++ cs) = (readStr cs).map fun r => (c::r.1,r.2) := by
  rw [escape]
  cases he : escapes.lookup c with
  | some e =>
    obtain ⟨hu,hback⟩ := escapes_lookup he
    exact readStr_short hu hback cs
  | none =>
    obtain ⟨hq,hb⟩ := plain_of_lookup he
    by_cases hc : c.toNat < 32
    · simp only [if_pos hc]
      have hvalue : 16*hexValue (hexChar (c.toNat/16))+hexValue (hexChar (c.toNat%16)) = c.toNat := by
        rw [hexValue_hexChar (by omega), hexValue_hexChar (by omega)]
        omega
      have hread := readStr_hex (hexChar (c.toNat/16)) (hexChar (c.toNat%16)) cs
      rw [hvalue, Char.ofNat_toNat] at hread
      exact hread
    · simp only [if_neg hc]
      exact readStr_plain hq hb cs

lemma readStr_flatMap (s rest : List Char) :
    readStr (s.flatMap escape ++ quote::rest) = some (s,rest) := by
  induction s with
  | nil =>
    rw [List.flatMap_nil, List.nil_append, readStr.eq_def]
    simp only [if_true]
  | cons c s ih => rw [List.flatMap_cons, List.append_assoc, readStr_escape, ih]; rfl

lemma digitChar_toNat {d : ℕ} (h : d < 10) : (digitChar d).toNat = 48+d := by
  have hall : ∀ d < 10, (digitChar d).toNat = 48+d := by decide
  exact hall d h

/-- The rest of a text does not go on with a digit. -/
def Stops (cs : List Char) : Prop := ∀ c ∈ cs.head?, isDigit c = false

lemma takeWhile_digits {ds rest : List Char} (hd : ∀ c ∈ ds, isDigit c = true) (hs : Stops rest) :
    (ds ++ rest).takeWhile isDigit = ds ∧ (ds ++ rest).dropWhile isDigit = rest := by
  rw [List.takeWhile_append_of_pos hd, List.dropWhile_append_of_pos hd]
  cases rest with
  | nil => simp
  | cons c cs =>
    have hc : isDigit c = false := hs c rfl
    simp [hc]

lemma writeNat_digits (n : ℕ) : writeNat n ≠ [] ∧ (∀ c ∈ writeNat n, isDigit c = true) ∧
    Nat.ofDigits 10 ((writeNat n).map fun c => c.toNat-48).reverse = n := by
  rw [writeNat]
  by_cases hn : n = 0
  · subst hn
    exact ⟨by simp,by simp [isDigit],by simp⟩
  rw [if_neg hn]
  have hlt : ∀ d ∈ Nat.digits 10 n, d < 10 := fun d hd => Nat.digits_lt_base (by decide) hd
  refine ⟨by simpa [Nat.digits_eq_nil_iff_eq_zero] using hn,?_,?_⟩
  · intro c hc
    obtain ⟨d,hd,rfl⟩ := List.mem_map.mp hc
    have hd10 := hlt d (List.mem_reverse.mp hd)
    simp [isDigit, digitChar_toNat hd10]
    omega
  · have hback : (Nat.digits 10 n).map (fun d => (digitChar d).toNat-48) = Nat.digits 10 n := by
      conv_rhs => rw [← List.map_id (Nat.digits 10 n)]
      apply List.map_congr_left
      intro d hd
      rw [digitChar_toNat (hlt d hd)]
      simp
    rw [List.map_map, ← List.map_reverse, List.reverse_reverse]
    change Nat.ofDigits 10 ((Nat.digits 10 n).map fun d => (digitChar d).toNat-48) = n
    rw [hback, Nat.ofDigits_digits]

lemma readNat_writeNat (n : ℕ) {rest : List Char} (hs : Stops rest) :
    readNat (writeNat n ++ rest) = some (n,rest) := by
  obtain ⟨hne,hd,hn⟩ := writeNat_digits n
  obtain ⟨htake,hdrop⟩ := takeWhile_digits hd hs
  rw [readNat, htake, hdrop]
  cases hw : writeNat n with
  | nil => exact absurd hw hne
  | cons c cs =>
    rw [hw] at hn
    simp only [hn]

/-- What an integer begins with. -/
lemma writeInt_head (n : ℤ) : ∃ c cs, writeInt n = c::cs ∧ (c = '-' ∨ isDigit c = true) := by
  obtain ⟨hne,hd,-⟩ := writeNat_digits n.natAbs
  rw [writeInt]
  by_cases hn : n < 0
  · rw [if_pos hn]
    exact ⟨_,_,rfl,Or.inl rfl⟩
  · rw [if_neg hn]
    cases hw : writeNat n.natAbs with
    | nil => exact absurd hw hne
    | cons c cs => exact ⟨c,cs,rfl,Or.inr (hd c (by rw [hw]; simp))⟩

lemma readInt_writeInt (n : ℤ) {rest : List Char} (hs : Stops rest) :
    readInt (writeInt n ++ rest) = some (n,rest) := by
  have hread := readNat_writeNat n.natAbs hs
  by_cases hn : n < 0
  · rw [writeInt, if_pos hn, List.cons_append, readInt, if_pos rfl, hread]
    simp only [Option.map_some, Option.some.injEq, Prod.mk.injEq, and_true]
    omega
  · obtain ⟨hne,hd,-⟩ := writeNat_digits n.natAbs
    rw [writeInt, if_neg hn]
    cases hw : writeNat n.natAbs with
    | nil => exact absurd hw hne
    | cons c cs =>
      have hminus : c ≠ '-' := by
        rintro rfl
        have hdigit := hd '-' (by rw [hw]; simp)
        exact absurd hdigit (by decide)
      rw [hw] at hread
      rw [List.cons_append, readInt, if_neg hminus, ← List.cons_append, hread]
      simp only [Option.map_some, Option.some.injEq, Prod.mk.injEq, and_true]
      omega

lemma readNum_writeInt (n : JsonInt) {rest : List Char} (hs : Stops rest) :
    readNum (writeInt n.val ++ rest) = some (.num n,rest) := by
  rw [readNum, readInt_writeInt n.val hs, Option.bind_some, dif_pos ⟨n.low,n.high⟩]

lemma readValue_num {n : ℕ} {c : Char} {cs : List Char} (h : c = '-' ∨ isDigit c = true) :
    readValue (n+1) (c::cs) = readNum (c::cs) := by
  have hne : ∀ d : Char, d ≠ '-' → isDigit d = false → c ≠ d := by
    rintro d hd hdigit rfl
    rcases h with h | h
    · exact hd h
    · simp [hdigit] at h
  rw [readValue.eq_def]
  dsimp only
  split
  · rename_i heq
    exact absurd (List.cons.inj heq).1 (hne 'n' (by decide) (by decide))
  · rename_i heq
    exact absurd (List.cons.inj heq).1 (hne 't' (by decide) (by decide))
  · rename_i heq
    exact absurd (List.cons.inj heq).1 (hne 'f' (by decide) (by decide))
  · rename_i heq
    exact absurd (List.cons.inj heq).1 (hne '[' (by decide) (by decide))
  · rename_i heq
    exact absurd (List.cons.inj heq).1 (hne '\x7b' (by decide) (by decide))
  · rename_i heq
    exact absurd (List.cons.inj heq).1 (hne '\x22' (by decide) (by decide))
  · rfl

/-- What a value begins with. -/
lemma write_head (j : Json) : ∃ c cs, write j = c::cs ∧ c ≠ ']' := by
  cases j with
  | null => exact ⟨_,_,rfl,by decide⟩
  | bool b => cases b <;> exact ⟨_,_,rfl,by decide⟩
  | num n =>
    obtain ⟨c,cs,hw,hc⟩ := writeInt_head n.val
    refine ⟨c,cs,hw,?_⟩
    rintro rfl
    rcases hc with hc | hc
    · exact absurd hc (by decide)
    · exact absurd hc (by decide)
  | str s => exact ⟨_,_,rfl,by decide⟩
  | arr items => exact ⟨_,_,rfl,by decide⟩
  | obj fields => exact ⟨_,_,rfl,by decide⟩

lemma writeItems_head (js : List Json) :
    ∃ c cs, writeItems false js = c::cs ∧ isDigit c = false := by
  cases js with
  | nil => exact ⟨_,_,rfl,by decide⟩
  | cons j js => exact ⟨_,_,rfl,by decide⟩

lemma writeFields_head (fs : Fields) :
    ∃ c cs, writeFields false fs = c::cs ∧ isDigit c = false := by
  cases fs with
  | nil => exact ⟨_,_,rfl,by decide⟩
  | cons f fs => exact ⟨_,_,rfl,by decide⟩

lemma stops_of_head {c : Char} {cs ds rest : List Char} (h : ds = c::cs) (hc : isDigit c = false) :
    Stops (ds ++ rest) := by
  subst h
  rintro d ⟨⟩
  exact hc

lemma expect_eq (c : Char) (cs : List Char) : expect c (c::cs) = some cs := by rw [expect, if_pos rfl]

lemma expect_ne {c d : Char} (h : d ≠ c) (cs : List Char) : expect c (d::cs) = none := by
  rw [expect, if_neg h]

/-- The three readers read what the writers write, given as much fuel as there are characters. -/
structure ReadsBack (n : ℕ) : Prop where
  value : ∀ j rest, (write j).length ≤ n → Stops rest → readValue n (write j ++ rest) = some (j,rest)
  items : ∀ first js rest, (writeItems first js).length ≤ n →
    readItems n first (writeItems first js ++ rest) = some (js,rest)
  fields : ∀ first fs rest, (writeFields first fs).length ≤ n →
    readFields n first (writeFields first fs ++ rest) = some (fs,rest)

lemma write_length (j : Json) : 0 < (write j).length := by
  obtain ⟨c,cs,hw,-⟩ := write_head j
  simp [hw]

lemma writeItems_length (first : Bool) (js : List Json) : 0 < (writeItems first js).length := by
  cases js with
  | nil => simp [writeItems]
  | cons j js =>
    have hj := write_length j
    simp only [writeItems, List.length_append]
    omega

lemma writeFields_length (first : Bool) (fs : Fields) : 0 < (writeFields first fs).length := by
  cases fs with
  | nil => simp [writeFields]
  | cons f fs =>
    simp only [writeFields, List.length_append, List.length_cons]
    omega

lemma readsBack_zero : ReadsBack 0 := by
  refine ⟨fun j rest h => ?_,fun first js rest h => ?_,fun first fs rest h => ?_⟩
  · exact absurd (write_length j) (by omega)
  · exact absurd (writeItems_length first js) (by omega)
  · exact absurd (writeFields_length first fs) (by omega)

lemma readsBack_value {n : ℕ} (ih : ReadsBack n) (j : Json) (rest : List Char)
    (h : (write j).length ≤ n+1) (hs : Stops rest) :
    readValue (n+1) (write j ++ rest) = some (j,rest) := by
  cases j with
  | null => rfl
  | bool b => cases b <;> rfl
  | num k =>
    obtain ⟨c,cs,hw,hc⟩ := writeInt_head k.val
    have hread := readNum_writeInt k hs
    rw [hw] at hread
    rw [write, hw, List.cons_append, readValue_num hc]
    exact hread
  | str s =>
    have hread := readStr_flatMap s.toList rest
    rw [write, writeStr, List.cons_append, List.append_assoc]
    change (readStr (s.toList.flatMap escape ++ quote::rest)).map _ = _
    rw [hread]
    simp
  | arr items =>
    rw [write, List.length_cons] at h
    have hread := ih.items true items rest (by omega)
    rw [write, List.cons_append]
    change (readItems n true _).map _ = _
    rw [hread]
    rfl
  | obj fields =>
    rw [write, List.length_cons] at h
    have hread := ih.fields true fields rest (by omega)
    rw [write, List.cons_append]
    change (readFields n true _).map _ = _
    rw [hread]
    rfl

lemma readsBack_items {n : ℕ} (ih : ReadsBack n) (first : Bool) (js : List Json) (rest : List Char)
    (h : (writeItems first js).length ≤ n+1) :
    readItems (n+1) first (writeItems first js ++ rest) = some (js,rest) := by
  cases js with
  | nil => rw [writeItems, List.cons_append, readItems, expect_eq]; rfl
  | cons j js =>
    obtain ⟨c,cs,hw,hc⟩ := write_head j
    obtain ⟨d,ds,htail,hd⟩ := writeItems_head js
    have hlength := writeItems_length false js
    have hj := write_length j
    simp only [writeItems, List.length_append] at h
    have hvalue := ih.value j (writeItems false js ++ rest) (by omega) (stops_of_head htail hd)
    have hitems := ih.items false js rest (by omega)
    cases first with
    | true =>
      have hclose : expect ']' (write j ++ (writeItems false js ++ rest)) = none := by
        rw [hw, List.cons_append, expect_ne hc]
      rw [writeItems, if_pos rfl, List.nil_append, List.append_assoc, readItems, hclose]
      simp [hvalue, hitems]
    | false =>
      have hclose : expect ']' (',' :: (write j ++ (writeItems false js ++ rest))) = none :=
        expect_ne (by decide) _
      rw [writeItems, if_neg (by decide), List.append_assoc, List.append_assoc, List.cons_append,
        List.nil_append, readItems, hclose]
      simp [expect_eq, hvalue, hitems]

lemma readsBack_fields {n : ℕ} (ih : ReadsBack n) (first : Bool) (fs : Fields) (rest : List Char)
    (h : (writeFields first fs).length ≤ n+1) :
    readFields (n+1) first (writeFields first fs ++ rest) = some (fs,rest) := by
  cases fs with
  | nil => rw [writeFields, List.cons_append, readFields, expect_eq]; rfl
  | cons f fs =>
    obtain ⟨name,j⟩ := f
    obtain ⟨d,ds,htail,hd⟩ := writeFields_head fs
    have hlength := writeFields_length false fs
    simp only [writeFields, writeStr, List.length_append, List.length_cons] at h
    have hvalue := ih.value j (writeFields false fs ++ rest) (by omega) (stops_of_head htail hd)
    have hfields := ih.fields false fs rest (by omega)
    have hname := readStr_flatMap name.toList (':' :: (write j ++ (writeFields false fs ++ rest)))
    have hopen : expect '\x7d' (quote::(name.toList.flatMap escape ++
        quote :: ':' :: (write j ++ (writeFields false fs ++ rest)))) = none := expect_ne (by decide) _
    cases first with
    | true =>
      have hwrite : writeFields true ((name,j)::fs) ++ rest = quote::(name.toList.flatMap escape ++
          quote :: ':' :: (write j ++ (writeFields false fs ++ rest))) := by
        simp [writeFields, writeStr]
      rw [hwrite, readFields, hopen]
      simp [expect_eq, hname, hvalue, hfields]
    | false =>
      have hwrite : writeFields false ((name,j)::fs) ++ rest =
          ',' :: quote::(name.toList.flatMap escape ++
            quote :: ':' :: (write j ++ (writeFields false fs ++ rest))) := by
        simp [writeFields, writeStr]
      rw [hwrite, readFields, expect_ne (by decide)]
      simp [expect_eq, hname, hvalue, hfields]

theorem readsBack (n : ℕ) : ReadsBack n := by
  induction n with
  | zero => exact readsBack_zero
  | succ n ih => exact ⟨readsBack_value ih,readsBack_items ih,readsBack_fields ih⟩

end RoundTrip

end Compact

/-- JSON without white space. -/
def JsonText.compact : JsonText where
  write j := String.ofList (Compact.write j)
  read s := match Compact.readValue s.toList.length s.toList with
    | some (j,[]) => some j
    | _ => none

theorem JsonText.compact_lawful : compact.Lawful := by
  intro j
  have hread := (Compact.readsBack (Compact.write j).length).value j [] (le_refl _) (by rintro c ⟨⟩)
  rw [List.append_nil] at hread
  simp only [compact, String.toList_ofList, hread]

end VvClient
