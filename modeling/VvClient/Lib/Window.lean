import Mathlib.Data.List.Basic

/-! The window of a sender with cumulative acknowledgements: what was sent and may still be
lost, then what waits to be sent. -/
namespace VvClient

structure Window (α : Type*) where
  sent : List α
  waiting : List α

namespace Window

variable {α : Type*}

/-- Everything that is not acknowledged, in order. -/
def entries (w : Window α) : List α := w.sent ++ w.waiting

def push (w : Window α) (a : α) : Window α := { w with waiting := w.waiting ++ [a] }

/-- The next `n` entries are sent. -/
def advance (w : Window α) (n : ℕ) : Window α := ⟨w.sent ++ w.waiting.take n,w.waiting.drop n⟩

@[ext] theorem ext {w v : Window α} (hs : w.sent = v.sent) (hw : w.waiting = v.waiting) : w = v := by
  cases w; cases v; cases hs; cases hw; rfl

@[simp] theorem entries_advance (w : Window α) (n : ℕ) : (w.advance n).entries = w.entries := by
  simp [entries, advance]

/-- Cut a list at an index. -/
def split (l : List α) (i : ℕ) : Window α := ⟨l.take i,l.drop i⟩

@[simp] theorem entries_split (l : List α) (i : ℕ) : (split l i).entries = l :=
  List.take_append_drop i l

theorem split_push {l : List α} {i : ℕ} (h : i ≤ l.length) (a : α) :
    split (l ++ [a]) i = (split l i).push a := by
  ext1
  · simp [split, push, List.take_append_of_le_length h]
  · simp [split, push, List.drop_append_of_le_length h]

theorem split_advance (l : List α) (i n : ℕ) : split l (i+n) = (split l i).advance n := by
  ext1
  · simp [split, advance, List.take_add]
  · simp [split, advance]

end Window
end VvClient
