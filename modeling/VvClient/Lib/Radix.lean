import Mathlib.Data.List.Basic
import Mathlib.Algebra.Order.Ring.Nat

/-! Unsigned integers as digits: how a text is read in a radix, and how a byte is written in
hexadecimal. -/
namespace VvClient.Radix

inductive IntErrorKind
  | empty
  | invalidDigit
  | posOverflow
  | zero
  deriving DecidableEq, Repr

/-- The text of a `ParseIntError`. -/
def IntErrorKind.description : IntErrorKind → String
  | .empty => "cannot parse integer from empty string"
  | .invalidDigit => "invalid digit found in string"
  | .posOverflow => "number too large to fit in target type"
  | .zero => "number would be zero for non-zero type"

/-- `char::to_digit` -/
def toDigit (radix : ℕ) (c : Char) : Option ℕ :=
  let d :=
    if '0' ≤ c ∧ c ≤ '9' then c.toNat-48
    else if 'a' ≤ c ∧ c ≤ 'z' then c.toNat-87
    else if 'A' ≤ c ∧ c ≤ 'Z' then c.toNat-55
    else radix
  if d < radix then some d else none

/-- The digits behind a sign, where `size` is the first number that is too large. -/
def readDigits (radix size : ℕ) : ℕ → List Char → Except IntErrorKind ℕ
  | acc,[] => .ok acc
  | acc,c::cs =>
    match toDigit radix c with
    | none => .error .invalidDigit
    | some d => if acc*radix+d < size then readDigits radix size (acc*radix+d) cs else .error .posOverflow

/-- `from_str_radix` of an unsigned type -/
def fromStrRadix (radix size : ℕ) : List Char → Except IntErrorKind ℕ
  | [] => .error .empty
  | ['+'] => .error .invalidDigit
  | ['-'] => .error .invalidDigit
  | '+' :: cs => readDigits radix size 0 cs
  | cs => readDigits radix size 0 cs

lemma readDigits_lt {radix size acc n : ℕ} {cs : List Char} (hcs : cs ≠ [])
    (h : readDigits radix size acc cs = .ok n) : n < size := by
  induction cs generalizing acc with
  | nil => exact absurd rfl hcs
  | cons c cs ih =>
    rw [readDigits] at h
    split at h
    · cases h
    · split at h
      · next hlt =>
        cases cs with
        | nil => rwa [← Except.ok.inj h]
        | cons d ds => exact ih (List.cons_ne_nil d ds) h
      · cases h

lemma fromStrRadix_lt {radix size n : ℕ} {cs : List Char} (h : fromStrRadix radix size cs = .ok n) :
    n < size := by
  unfold fromStrRadix at h
  split at h
  · cases h
  · cases h
  · cases h
  · next hplus => exact readDigits_lt (fun hnil => hplus (by rw [hnil])) h
  · next hnil _ _ _ => exact readDigits_lt (fun heq => hnil heq) h

/-- A number that is not zero, below `size`. -/
@[ext] structure NonZero (size : ℕ) where
  val : ℕ
  pos : 0 < val
  lt : val < size
  deriving DecidableEq

/-- `str::parse` of a `NonZero` type -/
def parseNonZero (size : ℕ) (cs : List Char) : Except IntErrorKind (NonZero size) :=
  match h : fromStrRadix 10 size cs with
  | .error e => .error e
  | .ok n => if hpos : 0 < n then .ok ⟨n,hpos,fromStrRadix_lt h⟩ else .error .zero

/-- The number that digits stand for, the first the most significant. -/
def ofDigits (radix : ℕ) (acc : ℕ) (ds : List ℕ) : ℕ := ds.foldl (fun acc d => acc*radix+d) acc

lemma toDigit_lt {radix d : ℕ} {c : Char} (h : toDigit radix c = some d) : d < radix := by
  simp only [toDigit, Option.ite_none_right_eq_some] at h
  rw [← Option.some.inj h.2]
  exact h.1

lemma le_ofDigits {radix : ℕ} (hradix : 0 < radix) (acc : ℕ) (ds : List ℕ) :
    acc ≤ ofDigits radix acc ds := by
  induction ds generalizing acc with
  | nil => exact Nat.le_refl acc
  | cons d ds ih =>
    calc acc ≤ acc*radix := Nat.le_mul_of_pos_right acc hradix
      _ ≤ acc*radix+d := Nat.le_add_right _ d
      _ ≤ ofDigits radix acc (d::ds) := ih _

/-- Digits are read just if each of them is one and their number fits. -/
theorem readDigits_eq_ok {radix size acc n : ℕ} (hradix : 0 < radix) (hacc : acc < size)
    (cs : List Char) :
    readDigits radix size acc cs = .ok n ↔
      n < size ∧ ∃ ds, cs.mapM (toDigit radix) = some ds ∧ ofDigits radix acc ds = n := by
  induction cs generalizing acc with
  | nil =>
    simp only [readDigits, Except.ok.injEq, List.mapM_nil, Option.pure_def, Option.some.injEq,
      exists_eq_left', ofDigits, List.foldl_nil]
    constructor
    · rintro rfl
      exact ⟨hacc,rfl⟩
    · exact fun h => h.2
  | cons c cs ih =>
    simp only [readDigits, List.mapM_cons]
    cases hc : toDigit radix c with
    | none => simp
    | some d =>
      dsimp only
      by_cases hlt : acc*radix+d < size
      · rw [if_pos hlt, ih hlt]
        apply and_congr_right
        intro _
        constructor
        · rintro ⟨ds,hds,hn⟩
          exact ⟨d::ds,by simp [hds],hn⟩
        · rintro ⟨ds,hds,hn⟩
          simp only [Option.bind_eq_bind, Option.bind_some, Option.pure_def, Option.bind_eq_some_iff,
            Option.some.injEq] at hds
          obtain ⟨es,hes,rfl⟩ := hds
          exact ⟨es,hes,hn⟩
      · simp only [if_neg hlt, reduceCtorEq, false_iff]
        rintro ⟨hn,ds,hds,rfl⟩
        simp only [Option.bind_eq_bind, Option.bind_some, Option.pure_def, Option.bind_eq_some_iff,
          Option.some.injEq] at hds
        obtain ⟨es,-,rfl⟩ := hds
        exact hlt (Nat.lt_of_le_of_lt (le_ofDigits hradix _ es) hn)

section Hex

/-- An upper case hexadecimal digit. -/
def upperDigit (d : ℕ) : Char := if d < 10 then Char.ofNat (48+d) else Char.ofNat (55+d)

/-- The format `:02X` -/
def upperHex (b : UInt8) : List Char := [upperDigit (b.toNat/16),upperDigit (b.toNat%16)]

lemma toDigit_upperDigit {d : ℕ} (h : d < 16) : toDigit 16 (upperDigit d) = some d := by
  have hall : ∀ d < 16, toDigit 16 (upperDigit d) = some d := by decide
  exact hall d h

lemma readDigits_pair {n : ℕ} (a b : Char) :
    readDigits 16 256 0 [a,b] = .ok n ↔
      ∃ h l, toDigit 16 a = some h ∧ toDigit 16 b = some l ∧ 16*h+l = n := by
  rw [readDigits_eq_ok (by decide) (by decide)]
  constructor
  · rintro ⟨-,ds,hds,rfl⟩
    simp only [List.mapM_cons, List.mapM_nil, Option.bind_eq_bind, Option.pure_def,
      Option.bind_eq_some_iff, Option.some.injEq] at hds
    obtain ⟨h,hh,_,⟨l,hl,_,rfl,rfl⟩,rfl⟩ := hds
    refine ⟨h,l,hh,hl,?_⟩
    simp [ofDigits, Nat.mul_comm]
  · rintro ⟨h,l,hh,hl,rfl⟩
    have hh16 := toDigit_lt hh
    have hl16 := toDigit_lt hl
    exact ⟨by omega,[h,l],by simp [hh, hl],by simp [ofDigits, Nat.mul_comm]⟩

lemma readDigits_single {n : ℕ} (b : Char) :
    readDigits 16 256 0 [b] = .ok n ↔ toDigit 16 b = some n := by
  rw [readDigits_eq_ok (by decide) (by decide)]
  constructor
  · rintro ⟨-,ds,hds,rfl⟩
    simp only [List.mapM_cons, List.mapM_nil, Option.bind_eq_bind, Option.pure_def,
      Option.bind_eq_some_iff, Option.some.injEq] at hds
    obtain ⟨l,hl,_,rfl,rfl⟩ := hds
    simpa [ofDigits] using hl
  · intro hb
    have hn := toDigit_lt hb
    exact ⟨by omega,[n],by simp [hb],by simp [ofDigits]⟩

/-- Two characters are read as a byte just if both are digits, or a digit follows a plus sign. -/
theorem fromStrRadix_pair {n : ℕ} (a b : Char) :
    fromStrRadix 16 256 [a,b] = .ok n ↔
      ∃ h l, (toDigit 16 a = some h ∨ a = '+' ∧ h = 0) ∧ toDigit 16 b = some l ∧ 16*h+l = n := by
  by_cases ha : a = '+'
  · subst ha
    have hplus : toDigit 16 '+' = none := by decide
    change readDigits 16 256 0 [b] = .ok n ↔ _
    rw [readDigits_single]
    simp [hplus]
  · have hsplit : fromStrRadix 16 256 [a,b] = readDigits 16 256 0 [a,b] := by
      rw [fromStrRadix.eq_def]
      split
      · cases ‹_›
      · cases ‹_›
      · cases ‹_›
      · rename_i heq
        exact absurd (List.cons.inj heq).1 ha
      · rfl
    rw [hsplit, readDigits_pair]
    simp [ha]

lemma upperHex_read (b : UInt8) : fromStrRadix 16 256 (upperHex b) = .ok b.toNat := by
  have hb : b.toNat < 256 := b.toNat_lt_size
  rw [upperHex, fromStrRadix_pair]
  exact ⟨b.toNat/16,b.toNat%16,.inl (toDigit_upperDigit (by omega)),toDigit_upperDigit (by omega),
    by omega⟩

end Hex
end VvClient.Radix
