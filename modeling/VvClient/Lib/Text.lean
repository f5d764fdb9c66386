import Mathlib.Data.List.Basic
import Mathlib.Algebra.Order.Ring.Nat

/-! Texts as lists of characters: slices between byte positions, and comparisons that ignore the case
of ASCII letters. -/
namespace VvClient.Text

/-- The number of bytes of a text. -/
def byteLen : List Char → ℕ
  | [] => 0
  | c::cs => c.utf8Size+byteLen cs

/-- The text behind the first `n` bytes, unless a character lies across that position. -/
def dropBytes : ℕ → List Char → Option (List Char)
  | 0,cs => some cs
  | _+1,[] => none
  | n+1,c::cs => if c.utf8Size ≤ n+1 then dropBytes (n+1-c.utf8Size) cs else none
termination_by structural _ cs => cs

/-- The first `n` bytes of a text, unless a character lies across their end. -/
def takeBytes : ℕ → List Char → Option (List Char)
  | 0,_ => some []
  | _+1,[] => none
  | n+1,c::cs =>
    if c.utf8Size ≤ n+1 then (takeBytes (n+1-c.utf8Size) cs).map (c :: ·) else none
termination_by structural _ cs => cs

/-- The slice from byte `a` to byte `b`; there is none where the source panics. -/
def slice (a b : ℕ) (cs : List Char) : Option (List Char) :=
  (dropBytes a cs).bind (takeBytes (b-a))

/-- `eq_ignore_ascii_case` -/
def eqIgnoreAsciiCase (s t : List Char) : Bool := s.map Char.toLower = t.map Char.toLower

/-- `split_once` -/
def splitOnce (sep : Char) : List Char → Option (List Char × List Char)
  | [] => none
  | c::cs => if c = sep then some ([],cs) else (splitOnce sep cs).map fun r => (c::r.1,r.2)

section Bytes

@[simp] lemma byteLen_nil : byteLen [] = 0 := rfl

@[simp] lemma byteLen_cons (c : Char) (cs : List Char) : byteLen (c::cs) = c.utf8Size+byteLen cs := rfl

@[simp] lemma byteLen_append (s t : List Char) : byteLen (s ++ t) = byteLen s+byteLen t := by
  induction s with
  | nil => simp
  | cons c s ih => simp [ih, Nat.add_assoc]

lemma byteLen_eq_zero {s : List Char} (h : byteLen s = 0) : s = [] := by
  cases s with
  | nil => rfl
  | cons c s =>
    have hpos := c.utf8Size_pos
    rw [byteLen_cons] at h
    omega

lemma eq_singleton_of_byteLen {s : List Char} (h : byteLen s = 1) : ∃ c, s = [c] ∧ c.utf8Size = 1 := by
  match s with
  | [] => cases h
  | [c] => exact ⟨c,rfl,by simpa using h⟩
  | c::d::s =>
    have hc := c.utf8Size_pos
    have hd := d.utf8Size_pos
    rw [byteLen_cons, byteLen_cons] at h
    omega

/-- Of two prefixes of a text the one with more bytes is the longer one. -/
lemma append_of_byteLen_le {s t u v : List Char} (h : s ++ t = u ++ v) (hlen : byteLen s ≤ byteLen u) :
    ∃ w, u = s ++ w ∧ t = w ++ v := by
  rcases List.append_eq_append_iff.mp h with ⟨w,hu,ht⟩ | ⟨w,hs,hv⟩
  · exact ⟨w,hu,ht⟩
  · have hw : w = [] := by
      apply byteLen_eq_zero
      rw [hs, byteLen_append] at hlen
      omega
    subst hw
    exact ⟨[],by simpa using hs.symm,by simpa using hv.symm⟩

lemma dropBytes_append (s t : List Char) : dropBytes (byteLen s) (s ++ t) = some t := by
  induction s with
  | nil =>
    cases t with
    | nil => rfl
    | cons c t => rfl
  | cons c s ih =>
    have hpos := c.utf8Size_pos
    obtain ⟨n,hn⟩ : ∃ n, byteLen (c::s) = n+1 := ⟨byteLen (c::s)-1,by rw [byteLen_cons]; omega⟩
    have hrest : n+1-c.utf8Size = byteLen s := by rw [← hn, byteLen_cons]; omega
    rw [hn, List.cons_append, dropBytes, if_pos (by rw [← hn, byteLen_cons]; omega), hrest, ih]

theorem dropBytes_eq_some {n : ℕ} {cs t : List Char} :
    dropBytes n cs = some t ↔ ∃ s, cs = s ++ t ∧ byteLen s = n := by
  constructor
  · intro h
    induction cs generalizing n with
    | nil =>
      cases n with
      | zero => exact ⟨[],by simpa [dropBytes] using h,rfl⟩
      | succ n => cases h
    | cons c cs ih =>
      cases n with
      | zero => exact ⟨[],by simpa [dropBytes] using h,rfl⟩
      | succ n =>
        simp only [dropBytes, Option.ite_none_right_eq_some] at h
        obtain ⟨s,rfl,hs⟩ := ih h.2
        exact ⟨c::s,rfl,by rw [byteLen_cons, hs]; omega⟩
  · rintro ⟨s,rfl,rfl⟩
    exact dropBytes_append s t

theorem takeBytes_eq_some {n : ℕ} {cs s : List Char} :
    takeBytes n cs = some s ↔ s <+: cs ∧ byteLen s = n := by
  induction cs generalizing n s with
  | nil =>
    cases n with
    | zero =>
      simp only [takeBytes, Option.some.injEq, List.prefix_nil]
      constructor
      · rintro rfl
        exact ⟨rfl,rfl⟩
      · rintro ⟨rfl,-⟩
        rfl
    | succ n =>
      simp only [takeBytes, reduceCtorEq, List.prefix_nil, false_iff, not_and]
      rintro rfl
      simp
  | cons c cs ih =>
    cases n with
    | zero =>
      constructor
      · intro h
        obtain rfl : s = [] := by simpa [takeBytes, eq_comm] using h
        exact ⟨List.nil_prefix,rfl⟩
      · rintro ⟨-,h⟩
        rw [byteLen_eq_zero h, takeBytes]
    | succ n =>
      simp only [takeBytes, Option.ite_none_right_eq_some, Option.map_eq_some_iff, ih]
      constructor
      · rintro ⟨hle,t,⟨ht,hlen⟩,rfl⟩
        exact ⟨(List.cons_prefix_cons.mpr ⟨rfl,ht⟩),by rw [byteLen_cons, hlen]; omega⟩
      · rintro ⟨hpre,hlen⟩
        cases s with
        | nil => cases hlen
        | cons d t =>
          obtain ⟨rfl,ht⟩ := List.cons_prefix_cons.mp hpre
          rw [byteLen_cons] at hlen
          exact ⟨by omega,t,⟨ht,by omega⟩,rfl⟩

/-- A slice behind a prefix. -/
theorem slice_append {a n : ℕ} {s t : List Char} (hs : byteLen s = a) :
    slice a (a+n) (s ++ t) = takeBytes n t := by
  rw [slice, ← hs, dropBytes_append, Option.bind_some, Nat.add_sub_cancel_left]

end Bytes

section Case

@[simp] theorem eqIgnoreAsciiCase_iff {s t : List Char} :
    eqIgnoreAsciiCase s t = true ↔ s.map Char.toLower = t.map Char.toLower := by
  rw [eqIgnoreAsciiCase, decide_eq_true_iff]

theorem splitOnce_eq_some {sep : Char} {cs s t : List Char} :
    splitOnce sep cs = some (s,t) ↔ cs = s ++ sep::t ∧ sep ∉ s := by
  induction cs generalizing s with
  | nil => simp [splitOnce]
  | cons c cs ih =>
    rw [splitOnce]
    by_cases hc : c = sep
    · subst hc
      cases s with
      | nil => simp [eq_comm]
      | cons d s =>
        simp only [↓reduceIte, Option.some.injEq, Prod.mk.injEq, List.nil_eq, reduceCtorEq, false_and,
          List.cons_append, List.cons.injEq, List.mem_cons, not_or, false_iff]
        rintro ⟨⟨rfl,-⟩,hne,-⟩
        exact hne rfl
    · cases s with
      | nil => simp [hc]
      | cons d s =>
        simp only [if_neg hc, Option.map_eq_some_iff, Prod.mk.injEq, List.cons_append, List.cons.injEq,
          List.mem_cons, not_or, Prod.exists]
        constructor
        · rintro ⟨a,b,h,⟨rfl,rfl⟩,rfl⟩
          obtain ⟨hcs,hnot⟩ := ih.mp h
          exact ⟨⟨rfl,hcs⟩,fun h => hc h.symm,hnot⟩
        · rintro ⟨⟨rfl,hcs⟩,-,hnot⟩
          exact ⟨s,t,ih.mpr ⟨hcs,hnot⟩,⟨rfl,rfl⟩,rfl⟩

end Case
end VvClient.Text
