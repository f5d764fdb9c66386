import Mathlib.Data.List.Basic
import Mathlib.Logic.Function.Basic

/-! A queue whose producers wake its consumer through a channel of one token. A producer pushes first
and signals afterwards, and a signal that finds a token in the channel is lost. -/
namespace VvClient

structure Mailbox (ι α : Type*) where
  /-- everything that was ever pushed -/
  pushed : List α
  /-- what the consumer has popped -/
  taken : List α
  waiting : List α
  token : Bool
  /-- the producers that have pushed and not signalled yet -/
  between : ι → Bool

namespace Mailbox

variable {ι α : Type*}

def empty : Mailbox ι α := ⟨[],[],[],false,fun _ => false⟩

/-- A signal of someone who has pushed nothing. -/
def signal (m : Mailbox ι α) : Mailbox ι α := { m with token := true }

def consume (m : Mailbox ι α) : Mailbox ι α := { m with token := false }

/-- Take the first element, if there is one. -/
def pop (m : Mailbox ι α) : Mailbox ι α :=
  { m with taken := m.taken ++ m.waiting.take 1, waiting := m.waiting.drop 1 }

/-- What was taken and what waits is what was pushed, in this order. -/
def Ordered (m : Mailbox ι α) : Prop := m.taken ++ m.waiting = m.pushed

/-- Whatever waits will be noticed: a token is there, or a producer is about to signal. -/
def Covered (m : Mailbox ι α) : Prop := m.token = false → m.waiting = [] ∨ ∃ i, m.between i = true

lemma ordered_empty : (empty : Mailbox ι α).Ordered := rfl

lemma covered_of_waiting {m : Mailbox ι α} (h : m.waiting = []) : m.Covered := fun _ => Or.inl h

lemma covered_signal (m : Mailbox ι α) : m.signal.Covered := fun h => absurd h (by simp [signal])

lemma Ordered.pop {m : Mailbox ι α} (h : m.Ordered) : m.pop.Ordered := by
  unfold Ordered Mailbox.pop
  rw [List.append_assoc, List.take_append_drop]
  exact h

variable [DecidableEq ι]

def push (m : Mailbox ι α) (i : ι) (a : α) : Mailbox ι α :=
  { m with pushed := m.pushed ++ [a], waiting := m.waiting ++ [a]
           between := Function.update m.between i true }

/-- The producer is done; `ok` is false where the consumer is gone. -/
def signalBy (m : Mailbox ι α) (i : ι) (ok : Bool) : Mailbox ι α :=
  { m with token := m.token || ok, between := Function.update m.between i false }

lemma Ordered.push {m : Mailbox ι α} (h : m.Ordered) (i : ι) (a : α) : (m.push i a).Ordered := by
  change m.taken ++ (m.waiting ++ [a]) = m.pushed ++ [a]
  rw [← List.append_assoc, h]

lemma covered_push (m : Mailbox ι α) (i : ι) (a : α) : (m.push i a).Covered :=
  fun _ => Or.inr ⟨i,by simp [push]⟩

lemma covered_signalBy (m : Mailbox ι α) (i : ι) : (m.signalBy i true).Covered :=
  fun h => absurd h (by simp [signalBy])

end Mailbox
end VvClient
