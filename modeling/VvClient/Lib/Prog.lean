import Mathlib.Tactic.Common

/-! Stateful computations that may fail, with their rules of pre- and postconditions. A failing
computation keeps what it did to the state before it failed. -/
namespace VvClient

/-- A computation on a state `σ` that returns an `α` or fails with an `ε`. -/
structure Prog (σ ε α : Type) where
  run : σ → Except ε α × σ

namespace Prog

variable {σ τ ε α β : Type}

instance : Monad (Prog σ ε) where
  pure a := ⟨fun s => (.ok a,s)⟩
  bind m f := ⟨fun s =>
    match m.run s with
    | (.ok a,s') => (f a).run s'
    | (.error e,s') => (.error e,s')⟩

def fail (e : ε) : Prog σ ε α := ⟨fun s => (.error e,s)⟩

def get : Prog σ ε σ := ⟨fun s => (.ok s,s)⟩

def modify (f : σ → σ) : Prog σ ε Unit := ⟨fun s => (.ok (),f s)⟩

/-- Return a result that is already there, or fail with its error. -/
def ofExcept (r : Except ε α) : Prog σ ε α := ⟨fun s => (r,s)⟩

/-- Run a computation on a part of the state. -/
def zoom (view : τ → σ) (put : σ → τ → τ) (m : Prog σ ε α) : Prog τ ε α :=
  ⟨fun t => ((m.run (view t)).1,put (m.run (view t)).2 t)⟩

/-- Rename the errors of a computation. -/
def mapError {ε' : Type} (f : ε → ε') (m : Prog σ ε α) : Prog σ ε' α :=
  ⟨fun s => ((m.run s).1.mapError f,(m.run s).2)⟩

/-- `for x in xs { .. }`, left by the first failure. -/
def forEach (f : β → Prog σ ε Unit) : List β → Prog σ ε Unit
  | [] => pure ()
  | x::xs => do
    f x
    forEach f xs

/-- `loop { .. }`: the body runs until it breaks with a value, `fuel` times at most; after that
the computation fails with `spent`. -/
def loop (spent : ε) (body : Prog σ ε (Option α)) : ℕ → Prog σ ε α
  | 0 => fail spent
  | fuel+1 => do
    match ← body with
    | some a => pure a
    | none => loop spent body fuel

@[simp] theorem run_pure (a : α) (s : σ) : (pure a : Prog σ ε α).run s = (.ok a,s) := rfl
@[simp] theorem run_fail (e : ε) (s : σ) : (fail e : Prog σ ε α).run s = (.error e,s) := rfl
@[simp] theorem run_get (s : σ) : (get : Prog σ ε σ).run s = (.ok s,s) := rfl
@[simp] theorem run_modify (f : σ → σ) (s : σ) : (modify f : Prog σ ε Unit).run s = (.ok (),f s) := rfl
@[simp] theorem run_ofExcept (r : Except ε α) (s : σ) : (ofExcept r : Prog σ ε α).run s = (r,s) := rfl
@[simp] theorem run_zoom (view : τ → σ) (put : σ → τ → τ) (m : Prog σ ε α) (t : τ) :
    (zoom view put m).run t = ((m.run (view t)).1,put (m.run (view t)).2 t) := rfl
@[simp] theorem run_mapError {ε' : Type} (f : ε → ε') (m : Prog σ ε α) (s : σ) :
    (mapError f m).run s = ((m.run s).1.mapError f,(m.run s).2) := rfl

theorem run_bind (m : Prog σ ε α) (f : α → Prog σ ε β) (s : σ) :
    (m >>= f).run s =
      match m.run s with
      | (.ok a,s') => (f a).run s'
      | (.error e,s') => (.error e,s') := rfl

theorem run_bind_ok {m : Prog σ ε α} {f : α → Prog σ ε β} {s s' : σ} {a : α}
    (h : m.run s = (.ok a,s')) : (m >>= f).run s = (f a).run s' := by rw [run_bind, h]

theorem run_bind_error {m : Prog σ ε α} {f : α → Prog σ ε β} {s s' : σ} {e : ε}
    (h : m.run s = (.error e,s')) : (m >>= f).run s = (.error e,s') := by rw [run_bind, h]

theorem bind_assoc {γ : Type} (m : Prog σ ε α) (f : α → Prog σ ε β) (g : β → Prog σ ε γ) :
    (m >>= f) >>= g = m >>= fun a => f a >>= g := by
  refine congrArg Prog.mk (funext fun s => ?_)
  simp only [run_bind]
  rcases m.run s with ⟨r,s'⟩
  cases r <;> rfl

@[simp] theorem run_pure_bind (a : α) (f : α → Prog σ ε β) (s : σ) :
    (pure a >>= f).run s = (f a).run s := rfl
@[simp] theorem run_get_bind (f : σ → Prog σ ε β) (s : σ) : (get >>= f).run s = (f s).run s := rfl
@[simp] theorem run_modify_bind (g : σ → σ) (f : Unit → Prog σ ε β) (s : σ) :
    (modify g >>= f).run s = (f ()).run (g s) := rfl
@[simp] theorem run_fail_bind (e : ε) (f : α → Prog σ ε β) (s : σ) :
    ((fail e : Prog σ ε α) >>= f).run s = (.error e,s) := rfl
@[simp] theorem run_ok_bind (a : α) (f : α → Prog σ ε β) (s : σ) :
    (ofExcept (.ok a) >>= f).run s = (f a).run s := rfl
@[simp] theorem run_error_bind (e : ε) (f : α → Prog σ ε β) (s : σ) :
    ((ofExcept (.error e) : Prog σ ε α) >>= f).run s = (.error e,s) := rfl

/-- Partial correctness: from a state in `P` the computation ends with a result and a state in
`Q`, whether it returns or fails. -/
def Triple (P : σ → Prop) (m : Prog σ ε α) (Q : Except ε α → σ → Prop) : Prop :=
  ∀ s, P s → Q (m.run s).1 (m.run s).2

namespace Triple

variable {P P' : σ → Prop} {Q Q' : Except ε α → σ → Prop} {m : Prog σ ε α}

theorem weaken (h : Triple P m Q) (hP : ∀ s, P' s → P s) (hQ : ∀ r s, Q r s → Q' r s) :
    Triple P' m Q' := fun s hs => hQ _ _ (h s (hP s hs))

theorem post (h : Triple P m Q) (hQ : ∀ r s, Q r s → Q' r s) : Triple P m Q' :=
  h.weaken (fun _ hs => hs) hQ

theorem pre (h : Triple P m Q) (hP : ∀ s, P' s → P s) : Triple P' m Q :=
  h.weaken hP (fun _ _ hq => hq)

theorem pure {a : α} (h : ∀ s, P s → Q (.ok a) s) : Triple P (Pure.pure a) Q := h

theorem fail {e : ε} (h : ∀ s, P s → Q (.error e) s) : Triple P (Prog.fail e) Q := h

/-- The rule of sequence: `R` describes what the first computation leaves. -/
theorem bind {f : α → Prog σ ε β} {R : Except ε α → σ → Prop} {Q : Except ε β → σ → Prop}
    (hm : Triple P m R) (hf : ∀ a, Triple (R (.ok a)) (f a) Q)
    (he : ∀ e s, R (.error e) s → Q (.error e) s) : Triple P (m >>= f) Q := by
  intro s hs
  have h := hm s hs
  rw [run_bind]
  rcases hr : m.run s with ⟨r,s'⟩
  rw [hr] at h
  cases r with
  | ok a => exact hf a s' h
  | error e => exact he e s' h

/-- What a computation reads first may be used in the rest. -/
theorem get_bind {f : σ → Prog σ ε α} (h : ∀ s, Triple P (f s) Q) : Triple P (Prog.get >>= f) Q :=
  fun s hs => h s s hs

theorem mapError {ε' : Type} {g : ε → ε'} {Q : Except ε' α → σ → Prop}
    (h : Triple P m (fun r s => Q (r.mapError g) s)) : Triple P (Prog.mapError g m) Q := h

/-- The rule of the loop: the body keeps the invariant while it goes round. -/
theorem loop {I : σ → Prop} {spent : ε} {body : Prog σ ε (Option α)}
    (hb : Triple I body (fun r s =>
      match r with
      | .ok none => I s
      | .ok (some a) => Q (.ok a) s
      | .error e => Q (.error e) s))
    (hspent : ∀ s, I s → Q (.error spent) s) (fuel : ℕ) :
    Triple I (Prog.loop spent body fuel) Q := by
  induction fuel with
  | zero => exact fail hspent
  | succ fuel ih =>
    refine bind hb ?_ (fun e s h => h)
    intro a
    cases a with
    | none => exact ih
    | some a => exact pure (fun s hs => hs)

end Triple

/-- Wherever the first computation does not end with `spent`, the second does the same. -/
def Extends (spent : ε) (m m' : Prog σ ε α) : Prop :=
  ∀ s, (m.run s).1 ≠ .error spent → m'.run s = m.run s

namespace Extends

variable {spent : ε} {m m' : Prog σ ε α}

theorem refl (spent : ε) (m : Prog σ ε α) : Extends spent m m := fun _ _ => rfl

theorem bind {f f' : α → Prog σ ε β} (hm : Extends spent m m')
    (hf : ∀ a, Extends spent (f a) (f' a)) : Extends spent (m >>= f) (m' >>= f') := by
  intro s hs
  rw [run_bind] at hs
  rw [run_bind, run_bind]
  rcases hr : m.run s with ⟨r,s'⟩
  rw [hr] at hs
  cases r with
  | ok a =>
    rw [hm s (by simp [hr]), hr]
    exact hf a s' hs
  | error e =>
    have hne : e ≠ spent := fun h => hs (h ▸ rfl)
    rw [hm s (by simpa [hr] using hne), hr]

theorem mapError {g : ε → ε} (hg : g spent = spent) (hm : Extends spent m m') :
    Extends spent (Prog.mapError g m) (Prog.mapError g m') := by
  intro s hs
  have hne : (m.run s).1 ≠ .error spent := by
    intro he
    apply hs
    rw [run_mapError, he, Except.mapError, hg]
  rw [run_mapError, run_mapError, hm s hne]

/-- More rounds of a loop change nothing once it has ended. -/
theorem loop {body body' : Prog σ ε (Option α)} (hb : Extends spent body body') {n k : ℕ}
    (hnk : n ≤ k) : Extends spent (Prog.loop spent body n) (Prog.loop spent body' k) := by
  induction n generalizing k with
  | zero => exact fun s hs => absurd rfl hs
  | succ n ih =>
    obtain ⟨k,rfl⟩ : ∃ j, k = j+1 := ⟨k-1,by omega⟩
    refine bind hb fun a => ?_
    cases a with
    | none => exact ih (by omega)
    | some a => exact refl spent _

end Extends

/-- The computation keeps `I`, whatever comes of it. -/
def Keeps (I : σ → Prop) (m : Prog σ ε α) : Prop := ∀ s, I s → I (m.run s).2

namespace Keeps

variable {I : σ → Prop} {m : Prog σ ε α}

theorem pure (a : α) : Keeps I (Pure.pure a : Prog σ ε α) := fun _ h => h

theorem fail (e : ε) : Keeps I (Prog.fail e : Prog σ ε α) := fun _ h => h

theorem ofExcept (r : Except ε α) : Keeps I (Prog.ofExcept r) := fun _ h => h

theorem modify {f : σ → σ} (h : ∀ s, I s → I (f s)) : Keeps I (Prog.modify f : Prog σ ε Unit) := h

theorem bind {f : α → Prog σ ε β} (hm : Keeps I m) (hf : ∀ a, Keeps I (f a)) : Keeps I (m >>= f) := by
  intro s hs
  have h := hm s hs
  rw [run_bind]
  rcases hr : m.run s with ⟨r,s'⟩
  rw [hr] at h
  cases r with
  | ok a => exact hf a s' h
  | error e => exact h

/-- What a computation reads first may be used in the rest. -/
theorem get_bind {f : σ → Prog σ ε β} (h : ∀ s, Keeps I (f s)) : Keeps I (Prog.get >>= f) :=
  fun s hs => h s s hs

theorem loop {spent : ε} {body : Prog σ ε (Option α)} (hb : Keeps I body) (fuel : ℕ) :
    Keeps I (Prog.loop spent body fuel) := by
  induction fuel with
  | zero => exact fail spent
  | succ fuel ih =>
    refine bind hb fun a => ?_
    cases a with
    | none => exact ih
    | some a => exact pure a

/-- A computation on a part of the state keeps what holds of that part. -/
theorem zoom {view : τ → σ} {put : σ → τ → τ} {J : τ → Prop} (hm : Keeps I m)
    (hview : ∀ t, J t → I (view t)) (hput : ∀ t s, J t → I s → J (put s t)) :
    Keeps J (Prog.zoom view put m) := fun t ht => hput t _ ht (hm _ (hview t ht))

end Keeps

end Prog
end VvClient
