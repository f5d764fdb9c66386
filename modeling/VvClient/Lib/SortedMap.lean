import Mathlib.Order.Lattice
import Mathlib.Data.List.Basic

/-! Maps whose entries stand in the order of their keys. -/
namespace VvClient

structure SortedMap (κ ν : Type*) [LinearOrder κ] where
  entries : List (κ × ν)
  sorted : entries.Pairwise fun a b => a.1 < b.1

namespace SortedMap

variable {κ ν : Type*} [LinearOrder κ]

@[ext] theorem ext {m n : SortedMap κ ν} (h : m.entries = n.entries) : m = n := by
  cases m
  cases n
  congr

instance [DecidableEq ν] : DecidableEq (SortedMap κ ν) := fun m n =>
  decidable_of_iff (m.entries = n.entries) ⟨ext,congrArg entries⟩

def empty : SortedMap κ ν := ⟨[],List.Pairwise.nil⟩

/-- Put an entry where it belongs. The one that was there is replaced. -/
def place (k : κ) (v : ν) : List (κ × ν) → List (κ × ν)
  | [] => [(k,v)]
  | e::es => if k < e.1 then (k,v)::e::es else if k = e.1 then (k,v)::es else e::place k v es

lemma mem_place {k : κ} {v : ν} {es : List (κ × ν)} {x : κ × ν} (h : x ∈ place k v es) :
    x = (k,v) ∨ x ∈ es := by
  induction es with
  | nil => exact .inl (by simpa [place] using h)
  | cons e es ih =>
    simp only [place] at h
    split at h
    · rcases List.mem_cons.mp h with rfl | h
      · exact .inl rfl
      · exact .inr h
    · split at h
      · rcases List.mem_cons.mp h with rfl | h
        · exact .inl rfl
        · exact .inr (List.mem_cons_of_mem e h)
      · rcases List.mem_cons.mp h with rfl | h
        · exact .inr List.mem_cons_self
        · exact (ih h).imp id (List.mem_cons_of_mem e)

lemma place_sorted {k : κ} {v : ν} {es : List (κ × ν)} (h : es.Pairwise fun a b => a.1 < b.1) :
    (place k v es).Pairwise fun a b => a.1 < b.1 := by
  induction es with
  | nil => exact List.pairwise_singleton _ _
  | cons e es ih =>
    obtain ⟨hlt,hes⟩ := List.pairwise_cons.mp h
    simp only [place]
    split
    · next hk =>
      refine List.pairwise_cons.mpr ⟨fun x hx => ?_,h⟩
      rcases List.mem_cons.mp hx with rfl | hx
      · exact hk
      · exact lt_trans hk (hlt x hx)
    · split
      · next heq => exact List.pairwise_cons.mpr ⟨fun x hx => heq ▸ hlt x hx,hes⟩
      · next hk hne =>
        refine List.pairwise_cons.mpr ⟨fun x hx => ?_,ih hes⟩
        rcases mem_place hx with rfl | hx
        · exact lt_of_le_of_ne (not_lt.mp hk) (Ne.symm hne)
        · exact hlt x hx

def insert (k : κ) (v : ν) (m : SortedMap κ ν) : SortedMap κ ν :=
  ⟨place k v m.entries,place_sorted m.sorted⟩

/-- The map that the entries make, inserted one after the other. -/
def ofEntries (es : List (κ × ν)) : SortedMap κ ν := es.foldl (fun m e => m.insert e.1 e.2) empty

lemma place_last {k : κ} {v : ν} {es : List (κ × ν)} (h : ∀ e ∈ es, e.1 < k) :
    place k v es = es ++ [(k,v)] := by
  induction es with
  | nil => rfl
  | cons e es ih =>
    rw [List.forall_mem_cons] at h
    simp [place, not_lt_of_gt h.1, ne_of_gt h.1, ih h.2]

/-- A map is made of its own entries. -/
@[simp] theorem ofEntries_entries (m : SortedMap κ ν) : ofEntries m.entries = m := by
  have hfold : ∀ (es : List (κ × ν)) (n : SortedMap κ ν),
      (n.entries ++ es).Pairwise (fun a b => a.1 < b.1) →
        (es.foldl (fun m e => m.insert e.1 e.2) n).entries = n.entries ++ es := by
    intro es
    induction es with
    | nil => exact fun n _ => (List.append_nil _).symm
    | cons e es ih =>
      intro n h
      have hlast : (n.insert e.1 e.2).entries = n.entries ++ [e] :=
        place_last fun x hx => (List.pairwise_append.mp h).2.2 x hx e List.mem_cons_self
      rw [List.foldl_cons, ih (n.insert e.1 e.2) (by rw [hlast]; simpa using h), hlast]
      simp
  exact ext (hfold m.entries empty m.sorted)

end SortedMap
end VvClient
