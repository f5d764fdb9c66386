import Mathlib.Data.List.Basic

/-! Regular expressions without repetition, matched at the start of a text. The matches come in the
order in which they are preferred: an optional part is taken where that is possible. -/
namespace VvClient

inductive Pattern
  /-- one character of one of these ranges -/
  | oneOf (ranges : List (Char × Char))
  | text (cs : List Char)
  | seq (p q : Pattern)
  | opt (p : Pattern)
  /-- a group with its number -/
  | group (index : ℕ) (p : Pattern)

namespace Pattern

/-- The groups that took part in a match, with what each of them matched. -/
abbrev Groups := List (ℕ × List Char)

def inRanges (ranges : List (Char × Char)) (c : Char) : Bool :=
  ranges.any fun r => r.1 ≤ c ∧ c ≤ r.2

/-- The matches at the start of a text, with what is left behind them. -/
def runs : Pattern → List Char → List (Groups × List Char)
  | oneOf _,[] => []
  | oneOf ranges,c::cs => if inRanges ranges c then [([],cs)] else []
  | text t,cs => if t <+: cs then [([],cs.drop t.length)] else []
  | seq p q,cs => (p.runs cs).flatMap fun r => (q.runs r.2).map fun s => (r.1 ++ s.1,s.2)
  | opt p,cs => p.runs cs ++ [([],cs)]
  | group index p,cs =>
    (p.runs cs).map fun r => ((index,cs.take (cs.length-r.2.length))::r.1,r.2)

/-- The match that is preferred. -/
def first (p : Pattern) (cs : List Char) : Option (Groups × List Char) := (p.runs cs).head?

/-- `Regex::captures` of a pattern behind `^` -/
def captures (p : Pattern) (cs : List Char) : Option Groups := (p.first cs).map Prod.fst

/-- `Captures::get` -/
def get (index : ℕ) (groups : Groups) : Option (List Char) := groups.lookup index

/-- What the pattern stands for: the texts, with the groups in them. -/
inductive Matches : Pattern → List Char → Groups → Prop
  | oneOf {ranges c} (h : inRanges ranges c) : Matches (oneOf ranges) [c] []
  | text (t) : Matches (text t) t []
  | seq {p q t u g h} (hp : Matches p t g) (hq : Matches q u h) : Matches (seq p q) (t ++ u) (g ++ h)
  | absent (p) : Matches (opt p) [] []
  | present {p t g} (h : Matches p t g) : Matches (opt p) t g
  | group {index p t g} (h : Matches p t g) : Matches (group index p) t ((index,t)::g)

/-- Matching finds what the pattern stands for, at the start of the text. -/
theorem mem_runs {p : Pattern} {cs rest : List Char} {g : Groups} :
    (g,rest) ∈ p.runs cs ↔ ∃ t, Matches p t g ∧ cs = t ++ rest := by
  induction p generalizing cs rest g with
  | oneOf ranges =>
    constructor
    · intro h
      cases cs with
      | nil => cases h
      | cons c cs =>
        simp only [runs, List.mem_ite_nil_right, List.mem_singleton, Prod.mk.injEq] at h
        obtain ⟨hc,rfl,rfl⟩ := h
        exact ⟨[c],.oneOf hc,rfl⟩
    · rintro ⟨t,ht,rfl⟩
      cases ht with
      | oneOf h => simp [runs, h]
  | text t =>
    constructor
    · intro h
      simp only [runs, List.mem_ite_nil_right, List.mem_singleton, Prod.mk.injEq] at h
      obtain ⟨⟨r,rfl⟩,rfl,rfl⟩ := h
      exact ⟨t,.text t,by rw [List.drop_left]⟩
    · rintro ⟨u,hu,rfl⟩
      cases hu
      simp [runs]
  | seq p q ihp ihq =>
    simp only [runs, List.mem_flatMap, List.mem_map, Prod.mk.injEq, Prod.exists]
    constructor
    · rintro ⟨g₁,r₁,h₁,g₂,r₂,h₂,rfl,rfl⟩
      obtain ⟨t,ht,rfl⟩ := ihp.mp h₁
      obtain ⟨u,hu,rfl⟩ := ihq.mp h₂
      exact ⟨t ++ u,.seq ht hu,by rw [List.append_assoc]⟩
    · rintro ⟨v,hv,rfl⟩
      cases hv with
      | @seq _ _ t u g h ht hu =>
        exact ⟨g,u ++ rest,ihp.mpr ⟨t,ht,by rw [List.append_assoc]⟩,h,rest,ihq.mpr ⟨u,hu,rfl⟩,rfl,rfl⟩
  | opt p ih =>
    simp only [runs, List.mem_append, List.mem_singleton, Prod.mk.injEq]
    constructor
    · rintro (h | ⟨rfl,rfl⟩)
      · obtain ⟨t,ht,hcs⟩ := ih.mp h
        exact ⟨t,.present ht,hcs⟩
      · exact ⟨[],.absent p,rfl⟩
    · rintro ⟨t,ht,rfl⟩
      cases ht with
      | absent => exact .inr ⟨rfl,rfl⟩
      | present h => exact .inl (ih.mpr ⟨t,h,rfl⟩)
  | group index p ih =>
    simp only [runs, List.mem_map, Prod.mk.injEq, Prod.exists]
    constructor
    · rintro ⟨g,r,h,rfl,rfl⟩
      obtain ⟨t,ht,rfl⟩ := ih.mp h
      have htake : (t ++ r).take ((t ++ r).length-r.length) = t := by
        rw [List.length_append, Nat.add_sub_cancel, List.take_left]
      exact ⟨t,by rw [htake]; exact .group ht,rfl⟩
    · rintro ⟨t,ht,rfl⟩
      cases ht with
      | @group _ _ _ g h =>
        refine ⟨g,rest,ih.mpr ⟨t,h,rfl⟩,?_,rfl⟩
        rw [List.length_append, Nat.add_sub_cancel, List.take_left]

section First
variable {p q : Pattern} {cs rest : List Char} {r : Groups × List Char}

lemma first_oneOf {ranges : List (Char × Char)} {c : Char} (h : inRanges ranges c) :
    (oneOf ranges).first (c::cs) = some ([],cs) := by simp [first, runs, h]

lemma first_text (t : List Char) : (text t).first (t ++ rest) = some ([],rest) := by
  simp [first, runs]

lemma first_seq {s : Groups × List Char} (hp : p.first cs = some r) (hq : q.first r.2 = some s) :
    (seq p q).first cs = some (r.1 ++ s.1,s.2) := by
  obtain ⟨more,hruns⟩ := List.head?_eq_some_iff.mp hp
  obtain ⟨others,hruns'⟩ := List.head?_eq_some_iff.mp hq
  simp [first, runs, hruns, hruns']

lemma first_opt (hp : p.first cs = some r) : (opt p).first cs = some r := by
  obtain ⟨more,hruns⟩ := List.head?_eq_some_iff.mp hp
  simp [first, runs, hruns]

lemma first_opt_absent (hp : p.first cs = none) : (opt p).first cs = some ([],cs) := by
  have hruns : p.runs cs = [] := List.head?_eq_none_iff.mp hp
  simp [first, runs, hruns]

lemma first_group {t : List Char} {g : Groups} (index : ℕ) (hp : p.first (t ++ rest) = some (g,rest)) :
    (group index p).first (t ++ rest) = some ((index,t)::g,rest) := by
  obtain ⟨more,hruns⟩ := List.head?_eq_some_iff.mp hp
  have htake : (t ++ rest).take ((t ++ rest).length-rest.length) = t := by
    rw [List.length_append, Nat.add_sub_cancel, List.take_left]
  simp only [first, runs, hruns, List.map_cons, List.head?_cons, htake]

lemma first_eq_none : p.first cs = none ↔ ∀ t g, Matches p t g → ¬ t <+: cs := by
  rw [first, List.head?_eq_none_iff, List.eq_nil_iff_forall_not_mem]
  constructor
  · rintro h t g ht ⟨rest,rfl⟩
    exact h (g,rest) (mem_runs.mpr ⟨t,ht,rfl⟩)
  · rintro h ⟨g,rest⟩ hmem
    obtain ⟨t,ht,rfl⟩ := mem_runs.mp hmem
    exact h t g ht (List.prefix_append t rest)

end First

theorem matches_of_captures {p : Pattern} {cs : List Char} {g : Groups} (h : p.captures cs = some g) :
    ∃ t rest, Matches p t g ∧ cs = t ++ rest := by
  simp only [captures, first, Option.map_eq_some_iff, Prod.exists, exists_and_right,
    exists_eq_right] at h
  obtain ⟨rest,hhead⟩ := h
  obtain ⟨t,ht,hcs⟩ := mem_runs.mp (List.mem_of_mem_head? hhead)
  exact ⟨t,rest,ht,hcs⟩

end Pattern
end VvClient
