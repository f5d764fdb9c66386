import Mathlib.Tactic.Common

/-! Deterministic labelled machines. A label carries every outside choice of its step, so a
run is a list of labels. The rules turn a fact about one step into a fact about every run. -/
namespace VvClient.Machine

variable {σ ℓ : Type*} (step : σ → ℓ → σ)

/-- The state that a list of labels leads to. -/
def run (s : σ) (ls : List ℓ) : σ := ls.foldl step s

@[simp] theorem run_nil (s : σ) : run step s [] = s := rfl

@[simp] theorem run_cons (s : σ) (l : ℓ) (ls : List ℓ) :
    run step s (l::ls) = run step (step s l) ls := rfl

@[simp] theorem run_append (s : σ) (ls ms : List ℓ) :
    run step s (ls ++ ms) = run step (run step s ls) ms := by
  simp [run, List.foldl_append]

/-- `P` holds in every state that a run passes through, its ends included. -/
def Always (P : σ → Prop) : σ → List ℓ → Prop
  | s,[] => P s
  | s,l::ls => P s ∧ Always P (step s l) ls

/-- `Q` holds of every step that a run takes. -/
def EveryStep (Q : σ → ℓ → Prop) : σ → List ℓ → Prop
  | _,[] => True
  | s,l::ls => Q s l ∧ EveryStep Q (step s l) ls

/-- What the steps of a run give, in their order. -/
def outputs {β : Type*} (out : σ → ℓ → List β) : σ → List ℓ → List β
  | _,[] => []
  | s,l::ls => out s l ++ outputs out (step s l) ls

variable {step}

lemma Always.head {P : σ → Prop} {s : σ} {ls : List ℓ} (h : Always step P s ls) : P s := by
  cases ls with
  | nil => exact h
  | cons l ls => exact h.1

theorem Always.last {P : σ → Prop} {s : σ} {ls : List ℓ} (h : Always step P s ls) :
    P (run step s ls) := by
  induction ls generalizing s with
  | nil => exact h
  | cons l ls ih => exact ih h.2

theorem Always.mono {P R : σ → Prop} {s : σ} {ls : List ℓ} (h : Always step P s ls)
    (hPR : ∀ t, P t → R t) : Always step R s ls := by
  induction ls generalizing s with
  | nil => exact hPR s h
  | cons l ls ih => exact ⟨hPR s h.1,ih h.2⟩

theorem everyStep_of_forall {Q : ℓ → Prop} {s : σ} {ls : List ℓ} (h : ∀ l ∈ ls, Q l) :
    EveryStep step (fun _ l => Q l) s ls := by
  induction ls generalizing s with
  | nil => trivial
  | cons l ls ih =>
    rw [List.forall_mem_cons] at h
    exact ⟨h.1,ih h.2⟩

theorem everyStep_append {Q : σ → ℓ → Prop} {s : σ} {ls ms : List ℓ} :
    EveryStep step Q s (ls ++ ms) ↔ EveryStep step Q s ls ∧ EveryStep step Q (run step s ls) ms := by
  induction ls generalizing s with
  | nil => simp [EveryStep]
  | cons l ls ih => simp [EveryStep, ih, and_assoc]

/-- The induction over a run: an invariant that every step under the guard keeps. -/
theorem always_of_guard {I : σ → Prop} {G : σ → ℓ → Prop}
    (keep : ∀ s l, I s → G s l → I (step s l)) {s : σ} {ls : List ℓ}
    (hs : I s) (hg : EveryStep step G s ls) : Always step I s ls := by
  induction ls generalizing s with
  | nil => exact hs
  | cons l ls ih => exact ⟨hs,ih (keep s l hs hg.1) hg.2⟩

theorem run_of_guard {I : σ → Prop} {G : σ → ℓ → Prop}
    (keep : ∀ s l, I s → G s l → I (step s l)) {s : σ} {ls : List ℓ}
    (hs : I s) (hg : EveryStep step G s ls) : I (run step s ls) :=
  (always_of_guard keep hs hg).last

theorem everyStep_of_guard {I : σ → Prop} {G Q : σ → ℓ → Prop}
    (good : ∀ s l, I s → G s l → I (step s l) ∧ Q s l) {s : σ} {ls : List ℓ}
    (hs : I s) (hg : EveryStep step G s ls) : EveryStep step Q s ls := by
  induction ls generalizing s with
  | nil => trivial
  | cons l ls ih =>
    obtain ⟨hi,hq⟩ := good s l hs hg.1
    exact ⟨hq,ih hi hg.2⟩

/-- What every step keeps holds throughout every run. -/
theorem always_of_step {I P : σ → Prop} (keep : ∀ s l, I s → I (step s l)) (holds : ∀ s, I s → P s)
    {s : σ} (hs : I s) (ls : List ℓ) : Always step P s ls := by
  induction ls generalizing s with
  | nil => exact holds s hs
  | cons l ls ih => exact ⟨holds s hs,ih (keep s l hs)⟩

theorem everyStep_of_step {I : σ → Prop} {Q : σ → ℓ → Prop} (keep : ∀ s l, I s → I (step s l))
    (good : ∀ s l, I s → Q s l) {s : σ} (hs : I s) (ls : List ℓ) : EveryStep step Q s ls := by
  induction ls generalizing s with
  | nil => trivial
  | cons l ls ih => exact ⟨good s l hs,ih (keep s l hs)⟩

/-- A guard is exact when the steps it admits keep an invariant and do what is wanted, and
every other step from the invariant fails to. Then whole runs do what is wanted exactly when
all their steps are admitted. -/
theorem everyStep_iff {I : σ → Prop} {G Q : σ → ℓ → Prop}
    (good : ∀ s l, I s → G s l → I (step s l) ∧ Q s l)
    (bad : ∀ s l, I s → ¬ G s l → ¬ Q s l) {s : σ} (hs : I s) (ls : List ℓ) :
    EveryStep step Q s ls ↔ EveryStep step G s ls := by
  induction ls generalizing s with
  | nil => exact Iff.rfl
  | cons l ls ih =>
    by_cases hg : G s l
    · obtain ⟨hi,hq⟩ := good s l hs hg
      simp only [EveryStep, hg, hq, true_and, ih hi]
    · have hq := bad s l hs hg
      simp only [EveryStep, hg, hq, false_and]

/-- The same for a property of states. -/
theorem always_iff {I P : σ → Prop} {G : σ → ℓ → Prop} (holds : ∀ s, I s → P s)
    (good : ∀ s l, I s → G s l → I (step s l))
    (bad : ∀ s l, I s → ¬ G s l → ¬ P (step s l)) {s : σ} (hs : I s) (ls : List ℓ) :
    Always step P s ls ↔ EveryStep step G s ls := by
  induction ls generalizing s with
  | nil => exact ⟨fun _ => trivial,fun _ => holds s hs⟩
  | cons l ls ih =>
    by_cases hg : G s l
    · simp only [Always, EveryStep, hg, holds s hs, true_and, ih (good s l hs hg)]
    · have hp : ¬ Always step P (step s l) ls := fun h => bad s l hs hg h.head
      simp only [Always, EveryStep, hg, hp, false_and, and_false]

variable (step) in
/-- A guard is exact for a property of states: the runs whose steps it admits keep the property,
and any other step after such a run is the start of one that loses it. -/
structure Exact (G : σ → ℓ → Prop) (P : σ → Prop) (s : σ) : Prop where
  keeps : ∀ ls, EveryStep step G s ls → Always step P s ls
  loses : ∀ ls l, EveryStep step G s ls → ¬ G (run step s ls) l →
    ∃ ms, ¬ Always step P s (ls ++ l::ms)

theorem exact_of_invariant {I P : σ → Prop} {G : σ → ℓ → Prop} (holds : ∀ s, I s → P s)
    (keep : ∀ s l, I s → G s l → I (step s l))
    (lose : ∀ s l, I s → ¬ G s l → ∃ ms, ¬ P (run step (step s l) ms)) {s : σ} (hs : I s) :
    Exact step G P s := by
  refine ⟨fun ls hg => (always_of_guard keep hs hg).mono holds,?_⟩
  intro ls l hg hl
  obtain ⟨ms,hm⟩ := lose _ l (run_of_guard keep hs hg) hl
  refine ⟨ms,fun h => hm ?_⟩
  have hlast := h.last
  rwa [run_append, run_cons] at hlast

section Map
variable {τ : Type*} {step' : τ → ℓ → τ} {I : σ → Prop} {f : σ → τ}

/-- A function of the states carries one machine to another where it carries every step, from
states that satisfy an invariant. -/
theorem run_map (keep : ∀ s l, I s → I (step s l))
    (comm : ∀ s l, I s → f (step s l) = step' (f s) l) {s : σ} (hs : I s) (ls : List ℓ) :
    f (run step s ls) = run step' (f s) ls := by
  induction ls generalizing s with
  | nil => rfl
  | cons l ls ih => rw [run_cons, run_cons, ih (keep s l hs), comm s l hs]

theorem everyStep_map (keep : ∀ s l, I s → I (step s l))
    (comm : ∀ s l, I s → f (step s l) = step' (f s) l) {Q : τ → ℓ → Prop} {s : σ} (hs : I s)
    (ls : List ℓ) :
    EveryStep step (fun s l => Q (f s) l) s ls ↔ EveryStep step' Q (f s) ls := by
  induction ls generalizing s with
  | nil => exact Iff.rfl
  | cons l ls ih => simp only [EveryStep, ih (keep s l hs), comm s l hs]

end Map

section Outputs
variable {β γ : Type*}

theorem outputs_filterMap {out : σ → ℓ → List β} (f : β → Option γ) (s : σ) (ls : List ℓ) :
    (outputs step out s ls).filterMap f = outputs step (fun s l => (out s l).filterMap f) s ls := by
  induction ls generalizing s with
  | nil => rfl
  | cons l ls ih => simp [outputs, ih]

/-- What a run appends to a list that its steps append to. -/
theorem outputs_log {log : σ → List β} {out : σ → ℓ → List β}
    (h : ∀ s l, log (step s l) = log s ++ out s l) (s : σ) (ls : List ℓ) :
    log (run step s ls) = log s ++ outputs step out s ls := by
  induction ls generalizing s with
  | nil => exact (List.append_nil _).symm
  | cons l ls ih => rw [run_cons, ih, h, List.append_assoc, outputs]

/-- A queue that every step puts something at the end of, or takes something from the front of: over
a run it gives what it held and what it was given, in this order, and holds the rest. -/
theorem outputs_queue {queue : σ → List β} {ins outs : σ → ℓ → List β}
    (h : ∀ s l, queue s ++ ins s l = outs s l ++ queue (step s l)) (s : σ) (ls : List ℓ) :
    queue s ++ outputs step ins s ls = outputs step outs s ls ++ queue (run step s ls) := by
  induction ls generalizing s with
  | nil => exact List.append_nil _
  | cons l ls ih =>
    calc queue s ++ (ins s l ++ outputs step ins (step s l) ls)
        = outs s l ++ (queue (step s l) ++ outputs step ins (step s l) ls) := by
          rw [← List.append_assoc, h, List.append_assoc]
      _ = outs s l ++ outputs step outs (step s l) ls ++ queue (run step (step s l) ls) := by
          rw [ih, List.append_assoc]

end Outputs

end VvClient.Machine
