import VvClient.Client.Conn

/-! Rules for computations that end in one of the ways of an asynchronous function: with a result,
with an error that the caller sees, or given up. -/
namespace VvClient
namespace Prog

variable {σ α β : Type} {O : α → σ → Prop} {O' : β → σ → Prop} {Q : σ → Prop} {E : Error → σ → Prop}

/-- How a part of a phase ends: with a result that `O` describes, or with an error that `E`
describes. A part that is given up for a timer or a timeout leaves `Q`. -/
def Ends (O : α → σ → Prop) (Q : σ → Prop) (E : Error → σ → Prop) : Except Stop α → σ → Prop
  | .ok a,s => O a s
  | .error (.err e),s => E e s
  | .error .pending,_ => True
  | .error _,s => Q s

lemma Ends.mono {P : α → σ → Prop} {Q' : σ → Prop} {E' : Error → σ → Prop}
    (hO : ∀ a s, O a s → P a s) (hQ : ∀ s, Q s → Q' s) (hE : ∀ e s, E e s → E' e s)
    {r : Except Stop α} {s : σ} (h : Ends O Q E r s) : Ends P Q' E' r s := by
  match r,h with
  | .ok a,h => exact hO a s h
  | .error (.err e),h => exact hE e s h
  | .error .pending,_ => trivial
  | .error .elapsed,h => exact hQ s h
  | .error .timer,h => exact hQ s h

lemma ends_pure {P : σ → Prop} {a : α} (h : ∀ s, P s → O a s) : Triple P (pure a) (Ends O Q E) :=
  Triple.pure h

lemma ends_err {P : σ → Prop} {e : Error} (h : ∀ s, P s → E e s) :
    Triple P (fail (.err e)) (Ends O Q E) := Triple.fail h

lemma ends_pending {P : σ → Prop} : Triple P (fail .pending) (Ends O Q E) :=
  Triple.fail fun _ _ => trivial

lemma ends_bind {P : σ → Prop} {m : Prog σ Stop α} {f : α → Prog σ Stop β}
    (hm : Triple P m (Ends O Q E)) (hf : ∀ a, Triple (O a) (f a) (Ends O' Q E)) :
    Triple P (m >>= f) (Ends O' Q E) := by
  refine Triple.bind hm hf ?_
  intro e s h
  cases e <;> exact h

/-- A computation that keeps `P`, whatever comes of it. -/
lemma ends_of_keeps {P : σ → Prop} {m : Prog σ Stop α} (hm : ∀ s, P s → P (m.run s).2)
    (hO : ∀ a s, P s → O a s) (hQ : ∀ s, P s → Q s) (hE : ∀ e s, P s → E e s) :
    Triple P m (Ends O Q E) := by
  intro s hs
  have h := hm s hs
  match (m.run s).1 with
  | .ok a => exact hO a _ h
  | .error (.err e) => exact hE e _ h
  | .error .pending => trivial
  | .error .elapsed => exact hQ _ h
  | .error .timer => exact hQ _ h

/-- What the body of a loop leaves. -/
def Round (O : α → σ → Prop) (I : σ → Prop) : Option α → σ → Prop
  | none => I
  | some a => O a

lemma ends_loop {I : σ → Prop} {body : Prog σ Stop (Option α)}
    (hb : Triple I body (Ends (Round O I) Q E)) (fuel : ℕ) :
    Triple I (loop .pending body fuel) (Ends O Q E) := by
  refine Triple.loop (hb.post ?_) (fun _ _ => trivial) fuel
  intro r s h
  match r,h with
  | .ok none,h => exact h
  | .ok (some a),h => exact h
  | .error e,h => cases e <;> exact h

lemma ends_context {P : σ → Prop} {m : Prog σ Stop α} (text : String)
    (hE : ∀ e s, E e s → E (e.context text) s) (hm : Triple P m (Ends O Q E)) :
    Triple P (withContext text m) (Ends O Q E) := by
  refine Triple.mapError (hm.post ?_)
  intro r s h
  match r,h with
  | .ok _,h => exact h
  | .error (.err e),h => exact hE e s h
  | .error .pending,_ => trivial
  | .error .elapsed,h => exact h
  | .error .timer,h => exact h

lemma ends_timeout {P : σ → Prop} {m : Prog σ Stop α} (text : String)
    (hE : ∀ s, Q s → E (.msg text) s) (hm : Triple P m (Ends O Q E)) :
    Triple P (timeout text m) (Ends O Q E) := by
  refine Triple.mapError (hm.post ?_)
  intro r s h
  match r,h with
  | .ok _,h => exact h
  | .error (.err e),h => exact h
  | .error .pending,_ => trivial
  | .error .elapsed,h => exact hE s h
  | .error .timer,h => exact h

/-- The caller of a caught computation sees its result or its error. -/
lemma ends_catching {P : σ → Prop} {E' : Error → σ → Prop} {m : Prog σ Stop α}
    {f : Except Error α → Prog σ Stop β} (hm : Triple P m (Ends O Q E))
    (hok : ∀ a, Triple (O a) (f (.ok a)) (Ends O' Q E'))
    (herr : ∀ e, Triple (E e) (f (.error e)) (Ends O' Q E')) :
    Triple P (catching m >>= f) (Ends O' Q E') := by
  intro s hs
  have h := hm s hs
  rw [run_bind]
  simp only [catching]
  rcases hr : m.run s with ⟨r,s'⟩
  rw [hr] at h
  cases r with
  | ok a => exact hok a s' h
  | error stop =>
    cases stop with
    | err e => exact herr e s' h
    | pending => trivial
    | elapsed => exact h
    | timer => exact h

/-- How a part ends that a drop of the handle may end: an error leaves `E`, and a part that does not
come to an end leaves `Q`. -/
def Quits (O : α → σ → Prop) (Q E : σ → Prop) : Except Stop α → σ → Prop
  | .ok a,s => O a s
  | .error (.err _),s => E s
  | .error _,s => Q s

/-- How a part ends that leaves `Q` wherever it returns nothing. -/
abbrev Leaves (O : α → σ → Prop) (Q : σ → Prop) : Except Stop α → σ → Prop := Quits O Q Q

section Quits
variable {P F : σ → Prop}

lemma quits_pure {a : α} (h : ∀ s, P s → O a s) : Triple P (pure a) (Quits O Q F) := Triple.pure h

lemma quits_err {e : Error} (h : ∀ s, P s → F s) : Triple P (fail (.err e)) (Quits O Q F) :=
  Triple.fail h

lemma quits_stop {e : Stop} (hQ : ∀ s, P s → Q s) (hF : ∀ s, P s → F s) :
    Triple P (fail e) (Quits O Q F) := by
  refine Triple.fail fun s h => ?_
  cases e with
  | err e => exact hF s h
  | _ => exact hQ s h

lemma quits_bind {m : Prog σ Stop α} {f : α → Prog σ Stop β} (hm : Triple P m (Quits O Q F))
    (hf : ∀ a, Triple (O a) (f a) (Quits O' Q F)) : Triple P (m >>= f) (Quits O' Q F) := by
  refine Triple.bind hm hf fun e s h => ?_
  cases e <;> exact h

lemma quits_of_keeps {m : Prog σ Stop α} (hm : Keeps P m) (hQ : ∀ s, P s → Q s)
    (hF : ∀ s, P s → F s) : Triple P m (Quits (fun _ => P) Q F) := by
  intro s hs
  have h := hm s hs
  match (m.run s).1 with
  | .ok a => exact h
  | .error (.err e) => exact hF _ h
  | .error .pending => exact hQ _ h
  | .error .elapsed => exact hQ _ h
  | .error .timer => exact hQ _ h

lemma quits_context {m : Prog σ Stop α} (text : String) (hm : Triple P m (Quits O Q F)) :
    Triple P (withContext text m) (Quits O Q F) := by
  refine Triple.mapError (hm.post fun r s h => ?_)
  cases r with
  | ok a => exact h
  | error e => cases e <;> exact h

/-- A `timeout` makes an error of a part that does not come to an end. -/
lemma quits_timeout {m : Prog σ Stop α} (text : String) (hQF : ∀ s, Q s → F s)
    (hm : Triple P m (Quits O Q F)) : Triple P (timeout text m) (Quits O Q F) := by
  refine Triple.mapError (hm.post fun r s h => ?_)
  match r,h with
  | .ok _,h => exact h
  | .error (.err _),h => exact h
  | .error .pending,h => exact h
  | .error .elapsed,h => exact hQF s h
  | .error .timer,h => exact h

lemma quits_catching {F' : σ → Prop} {m : Prog σ Stop α} {f : Except Error α → Prog σ Stop β}
    (hm : Triple P m (Quits O Q F)) (hok : ∀ a, Triple (O a) (f (.ok a)) (Quits O' Q F'))
    (herr : ∀ e, Triple F (f (.error e)) (Quits O' Q F')) :
    Triple P (catching m >>= f) (Quits O' Q F') := by
  intro s hs
  have h := hm s hs
  rw [run_bind]
  simp only [catching]
  rcases hr : m.run s with ⟨r,s'⟩
  rw [hr] at h
  cases r with
  | ok a => exact hok a s' h
  | error stop =>
    cases stop with
    | err e => exact herr e s' h
    | _ => exact h

lemma quits_loop {I : σ → Prop} {body : Prog σ Stop (Option α)} (hI : ∀ s, I s → Q s)
    (hb : Triple I body (Quits (Round O I) Q F)) (fuel : ℕ) :
    Triple I (loop .pending body fuel) (Quits O Q F) := by
  refine Triple.loop (hb.post fun r s h => ?_) hI fuel
  match r,h with
  | .ok none,h => exact h
  | .ok (some a),h => exact h
  | .error e,h => cases e <;> exact h

/-- A computation on a part of the state. -/
lemma quits_zoom {τ : Type} {view : τ → σ} {put : σ → τ → τ} {P' Q' F' : τ → Prop} {O' : α → τ → Prop}
    {m : Prog σ Stop α} (hm : Triple P m (Quits O Q F)) (hview : ∀ t, P' t → P (view t))
    (hO : ∀ t a s, O a s → O' a (put s t)) (hQ : ∀ t s, Q s → Q' (put s t))
    (hF : ∀ t s, F s → F' (put s t)) : Triple P' (zoom view put m) (Quits O' Q' F') := by
  intro t ht
  have h := hm (view t) (hview t ht)
  rw [run_zoom]
  match (m.run (view t)).1,h with
  | .ok a,h => exact hO t a _ h
  | .error (.err e),h => exact hF t _ h
  | .error .pending,h => exact hQ t _ h
  | .error .elapsed,h => exact hQ t _ h
  | .error .timer,h => exact hQ t _ h

lemma leaves_of_keeps {m : Prog σ Stop α} (hm : Keeps P m) (hQ : ∀ s, P s → Q s) :
    Triple P m (Leaves (fun _ => P) Q) := quits_of_keeps hm hQ hQ

lemma leaves_fail {e : Stop} (hQ : ∀ s, P s → Q s) : Triple P (fail e) (Leaves O Q) := quits_stop hQ hQ

lemma leaves_error {e : Stop} {s : σ} : Leaves O Q (.error e) s ↔ Q s := by cases e <;> rfl

/-- A part that leaves `P` as it may find it keeps `P`. -/
lemma keeps_of_leaves {m : Prog σ Stop α} (hm : Triple P m (Leaves (fun _ => P) P)) : Keeps P m := by
  intro s hs
  have h := hm s hs
  match hr : (m.run s).1 with
  | .ok a => rwa [hr] at h
  | .error e => exact leaves_error.mp (hr ▸ h)

/-- A round that leaves the same whether or not it is the last one. -/
lemma quits_round {I : σ → Prop} {m : Prog σ Stop (Option α)}
    (hm : Triple P m (Quits (fun _ => I) Q F)) : Triple P m (Quits (Round (fun _ => I) I) Q F) := by
  refine hm.post fun r s h => ?_
  match r,h with
  | .ok none,h => exact h
  | .ok (some _),h => exact h
  | .error e,h => cases e <;> exact h

end Quits

end Prog
end VvClient
