import Mathlib.Logic.Function.Basic

/-! One-shot channels, and a cell that holds the sending end of one of them. Every party of a type
`ι` has a channel of its own. -/
namespace VvClient

inductive Oneshot
  | pending
  | sent
  | dropped
  deriving DecidableEq, Repr

/-- The cell, with the state of every channel. -/
structure SenderCell (ι : Type*) where
  held : Option ι
  chans : ι → Oneshot

namespace SenderCell

variable {ι : Type*}

def empty : SenderCell ι := ⟨none,fun _ => .pending⟩

def take (c : SenderCell ι) : SenderCell ι := { c with held := none }

variable [DecidableEq ι] (c : SenderCell ι) (i j : ι)

/-- Drop a sender before it has sent. -/
def dropTx : SenderCell ι := { c with chans := Function.update c.chans i .dropped }

def send : SenderCell ι := { c with chans := Function.update c.chans i .sent }

/-- Drop what the cell holds. -/
def clear : SenderCell ι :=
  match c.held with
  | none => c
  | some j => { c.dropTx j with held := none }

/-- Store a sender. The one that was there is dropped. -/
def put : SenderCell ι := { c.clear with held := some i }

@[simp] theorem held_send : (c.send i).held = c.held := rfl
@[simp] theorem held_put : (c.put i).held = some i := rfl
@[simp] theorem chans_put : (c.put i).chans = c.clear.chans := rfl

@[simp] theorem held_clear : c.clear.held = none := by
  unfold clear
  cases hc : c.held with
  | none => exact hc
  | some j => rfl

lemma chans_clear : c.clear.chans j = if c.held = some j then .dropped else c.chans j := by
  unfold clear
  cases c.held with
  | none => simp
  | some i => simp [dropTx, Function.update_apply, eq_comm]

lemma chans_put_of_empty (h : c.held = none) : (c.put i).chans = c.chans := by
  rw [chans_put, clear, h]

end SenderCell
end VvClient
