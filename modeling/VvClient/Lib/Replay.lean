import Mathlib.Data.List.Basic

/-! A sequential object and its log. The object answers requests, one after the other, and may change
between them; the log says what was done, so that its state and its answers can be told from it. -/
namespace VvClient.Replay

inductive Entry (ι σ : Type*)
  /-- the request of a party was handled -/
  | handled (i : ι)
  /-- something else changed the object -/
  | changed (f : σ → σ)

variable {ι ρ σ α : Type*} (handle : ρ → σ → σ × α) (request : ι → ρ)

/-- What an entry makes of the object. -/
def Entry.apply : Entry ι σ → σ → σ
  | handled i,s => (handle (request i) s).1
  | changed f,s => f s

/-- The object behind a log. -/
def state (s : σ) (log : List (Entry ι σ)) : σ := log.foldl (fun s e => e.apply handle request s) s

/-- The answers that are given along a log, one request after the other. -/
def answers : σ → List (Entry ι σ) → List (ι × α)
  | _,[] => []
  | s,.handled i::log => (i,(handle (request i) s).2)::answers (handle (request i) s).1 log
  | s,.changed f::log => answers (f s) log

/-- The parties whose requests were handled. -/
def parties (log : List (Entry ι σ)) : List ι :=
  log.filterMap fun e => match e with
    | .handled i => some i
    | .changed _ => none

/-- Every handled request is answered once. -/
theorem map_answers (s : σ) (log : List (Entry ι σ)) :
    (answers handle request s log).map Prod.fst = parties log := by
  induction log generalizing s with
  | nil => rfl
  | cons e log ih =>
    cases e with
    | handled i => exact congrArg (i :: ·) (ih _)
    | changed f => exact ih _

variable {handle request}

@[simp] theorem answers_append (s : σ) (log more : List (Entry ι σ)) :
    answers handle request s (log ++ more) =
      answers handle request s log ++ answers handle request (state handle request s log) more := by
  induction log generalizing s with
  | nil => rfl
  | cons e log ih =>
    cases e with
    | handled i => exact congrArg _ (ih _)
    | changed f => exact ih _

@[simp] theorem parties_append (log more : List (Entry ι σ)) :
    parties (log ++ more) = parties log ++ parties more := by simp [parties]

end VvClient.Replay
