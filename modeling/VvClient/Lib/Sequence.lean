import Mathlib.Data.List.Perm.Subperm
import Mathlib.Algebra.Order.Ring.Int
import Mathlib.Data.List.Dedup
import Mathlib.Data.List.Range
import Mathlib.Data.List.TakeWhile
import Mathlib.Data.Nat.Find
import Mathlib.Tactic.Common

/-! Consecutive sequence numbers, and what a receiver that may miss and repeat some of them
knows: the first receptions, and how far it has everything. -/
namespace VvClient

/-- The `n` numbers after `b`. -/
def numbers (b n : ℕ) : List ℤ := (List.range n).map fun k => ((b+k+1 : ℕ) : ℤ)

/-- The first occurrences of a list, in order. -/
def firsts (l : List ℤ) : List ℤ := l.reverse.dedup.reverse

/-- The highest `n` such that all of `1,..,n` are in the list. -/
def contiguous (l : List ℤ) : ℕ := Nat.findGreatest (fun n => ∀ z ∈ numbers 0 n, z ∈ l) l.length

@[simp] theorem length_numbers (b n : ℕ) : (numbers b n).length = n := by simp [numbers]

@[simp] theorem numbers_zero (b : ℕ) : numbers b 0 = [] := rfl

theorem mem_numbers {b n : ℕ} {z : ℤ} : z ∈ numbers b n ↔ (b : ℤ) < z ∧ z ≤ b + n := by
  simp only [numbers, List.mem_map, List.mem_range]
  constructor
  · rintro ⟨k,hk,rfl⟩
    omega
  · rintro ⟨hb,hn⟩
    exact ⟨(z-b-1).toNat,by omega,by omega⟩

theorem numbers_add (b m n : ℕ) : numbers b (m+n) = numbers b m ++ numbers (b+m) n := by
  simp only [numbers, List.range_add, List.map_append, List.map_map]
  congr 1
  apply List.map_congr_left
  intro k _
  simp only [Function.comp_apply]
  omega

theorem numbers_succ (b n : ℕ) : numbers b (n+1) = numbers b n ++ [((b+n+1 : ℕ) : ℤ)] := by
  rw [numbers_add]
  rfl

theorem numbers_pairwise (b n : ℕ) : (numbers b n).Pairwise (· < ·) := by
  rw [numbers, List.pairwise_map]
  exact List.pairwise_lt_range.imp fun h => by omega

theorem numbers_nodup (b n : ℕ) : (numbers b n).Nodup :=
  (numbers_pairwise b n).imp fun h => Int.ne_of_lt h

theorem numbers_take {b m n : ℕ} (h : m ≤ n) : (numbers b n).take m = numbers b m := by
  obtain ⟨k,rfl⟩ := Nat.exists_eq_add_of_le h
  rw [numbers_add, List.take_left' (length_numbers b m)]

theorem numbers_drop {b m n : ℕ} (h : m ≤ n) : (numbers b n).drop m = numbers (b+m) (n-m) := by
  obtain ⟨k,rfl⟩ := Nat.exists_eq_add_of_le h
  rw [numbers_add, List.drop_left' (length_numbers b m), Nat.add_sub_cancel_left]

theorem takeWhile_numbers {b m n : ℕ} (h : m ≤ n) :
    ((numbers b n).takeWhile fun z => z ≤ ((b+m : ℕ) : ℤ)) = numbers b m := by
  obtain ⟨k,rfl⟩ := Nat.exists_eq_add_of_le h
  have hpos : ∀ z ∈ numbers b m, decide (z ≤ ((b+m : ℕ) : ℤ)) = true := by
    intro z hz
    have := mem_numbers.mp hz
    exact decide_eq_true (by omega)
  have hneg : ((numbers (b+m) k).takeWhile fun z => z ≤ ((b+m : ℕ) : ℤ)) = [] := by
    rw [List.takeWhile_eq_nil_iff]
    intro hl
    have := mem_numbers.mp (List.get_mem (numbers (b+m) k) ⟨0,hl⟩)
    rw [decide_eq_true_eq]
    omega
  rw [numbers_add, List.takeWhile_append_of_pos hpos, hneg, List.append_nil]

theorem prefix_numbers {l : List ℤ} {b n : ℕ} (h : l <+: numbers b n) :
    l = numbers b l.length ∧ l.length ≤ n := by
  have hl : l.length ≤ n := by simpa using h.length_le
  refine ⟨?_,hl⟩
  rw [← numbers_take hl]
  exact List.prefix_iff_eq_take.mp h

theorem firsts_of_nodup {l : List ℤ} (h : l.Nodup) : firsts l = l := by
  rw [firsts, (List.nodup_reverse.mpr h).dedup, List.reverse_reverse]

@[simp] theorem firsts_numbers (b n : ℕ) : firsts (numbers b n) = numbers b n :=
  firsts_of_nodup (numbers_nodup b n)

theorem mem_of_le_contiguous {l : List ℤ} {z : ℤ} (hz : 0 < z) (h : z ≤ contiguous l) : z ∈ l := by
  have hall : ∀ z ∈ numbers 0 (contiguous l), z ∈ l :=
    Nat.findGreatest_spec (P := fun n => ∀ z ∈ numbers 0 n, z ∈ l) (Nat.zero_le _) (by simp)
  exact hall z (mem_numbers.mpr (by omega))

/-- The next number is missing, since a list has no room for more numbers than its length. -/
theorem contiguous_succ_not_mem (l : List ℤ) : (contiguous l + 1 : ℤ) ∉ l := by
  intro hmem
  have hsub : ∀ z ∈ numbers 0 (contiguous l + 1), z ∈ l := by
    intro z hz
    obtain ⟨h0,h1⟩ := mem_numbers.mp hz
    rcases eq_or_lt_of_le h1 with rfl | hlt
    · simpa using hmem
    · exact mem_of_le_contiguous (by simpa using h0) (by omega)
  have hlen := ((numbers_nodup 0 _).subperm hsub).length_le
  rw [length_numbers] at hlen
  exact Nat.findGreatest_is_greatest (Nat.lt_succ_self _) hlen hsub

theorem contiguous_numbers (n : ℕ) : contiguous (numbers 0 n) = n := by
  apply Nat.le_antisymm
  · by_contra h
    have hmem : (n+1 : ℤ) ∈ numbers 0 n := mem_of_le_contiguous (by omega) (by omega)
    have := mem_numbers.mp hmem
    omega
  · by_contra h
    apply contiguous_succ_not_mem (numbers 0 n)
    exact mem_numbers.mpr (by omega)

end VvClient
