import Mathlib.Tactic.Common

/-! What a call of a fallible function comes to where it can also panic. -/
namespace VvClient

universe u

inductive Outcome (ε α : Type*)
  | ok (a : α)
  | err (e : ε)
  | panicked
  deriving DecidableEq

namespace Outcome

variable {ε ζ : Type*} {α β : Type u}

def bind : Outcome ε α → (α → Outcome ε β) → Outcome ε β
  | ok a,f => f a
  | err e,_ => err e
  | panicked,_ => panicked

instance : Monad (Outcome ε) where
  pure := ok
  bind := bind

instance : LawfulMonad (Outcome ε) :=
  LawfulMonad.mk' _ (fun m => by cases m <;> rfl) (fun _ _ => rfl) (fun m _ _ => by cases m <;> rfl)

/-- `unwrap` -/
def unwrap : Option α → Outcome ε α
  | some a => ok a
  | none => panicked

/-- `ok_or` -/
def okOr (e : ε) : Option α → Outcome ε α
  | some a => ok a
  | none => err e

/-- `map_err` -/
def mapErr (f : ε → ζ) : Outcome ε α → Outcome ζ α
  | ok a => ok a
  | err e => err (f e)
  | panicked => panicked

def ofExcept : Except ε α → Outcome ε α
  | .ok a => ok a
  | .error e => err e

/-- The value, if there is one. -/
def value : Outcome ε α → Option α
  | ok a => some a
  | _ => none

@[simp] theorem pure_eq (a : α) : (pure a : Outcome ε α) = ok a := rfl

@[simp] theorem ok_bind (a : α) (f : α → Outcome ε β) : (ok a >>= f) = f a := rfl

@[simp] theorem err_bind (e : ε) (f : α → Outcome ε β) : (err e >>= f) = err e := rfl

@[simp] theorem panicked_bind (f : α → Outcome ε β) : (panicked >>= f) = panicked := rfl

theorem bind_eq_ok {m : Outcome ε α} {f : α → Outcome ε β} {b : β} :
    (m >>= f) = ok b ↔ ∃ a, m = ok a ∧ f a = ok b := by
  cases m <;> simp

theorem bind_eq_panicked {m : Outcome ε α} {f : α → Outcome ε β} :
    (m >>= f) = panicked ↔ m = panicked ∨ ∃ a, m = ok a ∧ f a = panicked := by
  cases m <;> simp

theorem map_eq_ok {m : Outcome ε α} {f : α → β} {b : β} :
    (f <$> m) = ok b ↔ ∃ a, m = ok a ∧ f a = b := by
  rw [← bind_pure_comp, bind_eq_ok]
  simp

theorem map_eq_panicked {m : Outcome ε α} {f : α → β} : (f <$> m) = panicked ↔ m = panicked := by
  rw [← bind_pure_comp, bind_eq_panicked]
  simp

/-- A list of calls that must all succeed. -/
theorem mapM_eq_ok {f : α → Outcome ε β} {as : List α} {bs : List β} :
    as.mapM f = ok bs ↔ List.Forall₂ (fun a b => f a = ok b) as bs := by
  induction as generalizing bs with
  | nil =>
    cases bs with
    | nil => exact iff_of_true rfl .nil
    | cons b bs => exact iff_of_false nofun nofun
  | cons a as ih =>
    rw [List.mapM_cons, bind_eq_ok]
    constructor
    · rintro ⟨b,hb,h⟩
      obtain ⟨bs',hbs,hcons⟩ := bind_eq_ok.mp h
      obtain rfl : b::bs' = bs := ok.inj hcons
      exact .cons hb (ih.mp hbs)
    · rintro (_ | ⟨hb,hbs⟩)
      exact ⟨_,hb,bind_eq_ok.mpr ⟨_,ih.mpr hbs,rfl⟩⟩

@[simp] theorem unwrap_eq_ok {o : Option α} {a : α} : (unwrap o : Outcome ε α) = ok a ↔ o = some a := by
  cases o <;> simp [unwrap]

@[simp] theorem unwrap_eq_panicked {o : Option α} : (unwrap o : Outcome ε α) = panicked ↔ o = none := by
  cases o <;> simp [unwrap]

@[simp] theorem okOr_eq_ok {e : ε} {o : Option α} {a : α} : okOr e o = ok a ↔ o = some a := by
  cases o <;> simp [okOr]

@[simp] theorem okOr_ne_panicked {e : ε} {o : Option α} : okOr e o ≠ panicked := by
  cases o <;> simp [okOr]

@[simp] theorem mapErr_eq_ok {f : ε → ζ} {m : Outcome ε α} {a : α} : mapErr f m = ok a ↔ m = ok a := by
  cases m <;> simp [mapErr]

@[simp] theorem mapErr_eq_panicked {f : ε → ζ} {m : Outcome ε α} :
    mapErr f m = panicked ↔ m = panicked := by
  cases m <;> simp [mapErr]

@[simp] theorem ofExcept_eq_ok {x : Except ε α} {a : α} : ofExcept x = ok a ↔ x = .ok a := by
  cases x <;> simp [ofExcept]

@[simp] theorem ofExcept_ne_panicked {x : Except ε α} : ofExcept x ≠ panicked := by
  cases x <;> simp [ofExcept]

@[simp] theorem value_eq_some {m : Outcome ε α} {a : α} : m.value = some a ↔ m = ok a := by
  cases m <;> simp [value]

end Outcome
end VvClient
