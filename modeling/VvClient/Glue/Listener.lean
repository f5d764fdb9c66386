import VvClient.Proto.Message

/-! The callbacks of the application's listener. What a callback returns is the application's
affair, so the answers are part of the listener. -/
namespace VvClient

structure ChatArgs where
  fromId : String
  toId : String
  body : String
  deriving DecidableEq, Repr

/-- A callback with its arguments. -/
inductive Event
  | onRoomChat (chat : ChatArgs)
  | onUserChat (chat : ChatArgs)
  | onRoomReady
  | onUserJoined (userId : String) (tree : List TreeNode)
  | onUserLeaved (userId : String)
  | onAddStream (userId : String) (stype : StreamType) (muted : Bool)
  | onUpdateStream (userId : String) (stype : StreamType) (muted : Bool)
  | onRemoveStream (userId : String) (stype : StreamType)
  | onUpdateUserTree (userId : String) (node : TreeNode)
  | onUpdateRoomTree (node : TreeNode)
  deriving DecidableEq, Repr

/-- The user that a callback is about. -/
def Event.userId? : Event → Option String
  | onUserJoined userId _ => some userId
  | onUserLeaved userId => some userId
  | onAddStream userId _ _ => some userId
  | onUpdateStream userId _ _ => some userId
  | onRemoveStream userId _ => some userId
  | onUpdateUserTree userId _ => some userId
  | _ => none

/-- The callbacks so far, and what each callback, old or new, answers. -/
structure Listener where
  log : List Event
  answers : ℕ → Except Error Unit

namespace Listener

def fire (e : Event) : Prog Listener Error Unit := ⟨fun l =>
  (l.answers l.log.length,{ l with log := l.log ++ [e] })⟩

/-- Every callback succeeds. -/
def Succeeds (l : Listener) : Prop := ∀ n, l.answers n = .ok ()

/-- A listener that was not called yet and on which every callback succeeds. -/
def idle : Listener := ⟨[],fun _ => .ok ()⟩

lemma idle_succeeds : idle.Succeeds := fun _ => rfl

/-- More callbacks on a listener. -/
def append (l : Listener) (events : List Event) : Listener := { l with log := l.log ++ events }

@[simp] theorem append_log (l : Listener) (events : List Event) :
    (l.append events).log = l.log ++ events := rfl
@[simp] theorem append_nil (l : Listener) : l.append [] = l := by simp [append]
@[simp] theorem append_append (l : Listener) (es fs : List Event) :
    (l.append es).append fs = l.append (es ++ fs) := by simp [append]

lemma Succeeds.append {l : Listener} (h : l.Succeeds) (events : List Event) :
    (l.append events).Succeeds := h

/-- What a computation fires on a listener on which every callback succeeds. -/
def fired {α : Type} (m : Prog Listener Error α) : List Event := (m.run idle).2.log

def outcome {α : Type} (m : Prog Listener Error α) : Except Error α := (m.run idle).1

/-- The computation does nothing with the listener but call it. -/
def Fires {α : Type} (m : Prog Listener Error α) : Prop :=
  ∀ l : Listener, l.Succeeds → m.run l = (outcome m,l.append (fired m))

section Fires
variable {α β : Type} {m : Prog Listener Error α}

@[simp] theorem fired_fire (e : Event) : fired (fire e) = [e] := rfl
@[simp] theorem outcome_fire (e : Event) : outcome (fire e) = .ok () := rfl
@[simp] theorem fired_pure (a : α) : fired (pure a : Prog Listener Error α) = [] := rfl
@[simp] theorem outcome_pure (a : α) : outcome (pure a : Prog Listener Error α) = .ok a := rfl
@[simp] theorem fired_ofExcept (r : Except Error α) : fired (Prog.ofExcept r) = [] := rfl
@[simp] theorem outcome_ofExcept (r : Except Error α) : outcome (Prog.ofExcept r) = r := rfl

lemma fires_fire (e : Event) : Fires (fire e) := by
  intro l hl
  exact Prod.ext (hl _) rfl

lemma fires_pure (a : α) : Fires (pure a : Prog Listener Error α) := by
  intro l _
  exact Prod.ext rfl (append_nil l).symm

lemma fires_ofExcept (r : Except Error α) : Fires (Prog.ofExcept r) := by
  intro l _
  exact Prod.ext rfl (append_nil l).symm

lemma run_idle (hm : Fires m) : m.run idle = (outcome m,idle.append (fired m)) :=
  hm idle idle_succeeds

lemma outcome_bind (hm : Fires m) {f : α → Prog Listener Error β} (hf : ∀ a, Fires (f a)) :
    outcome (m >>= f) = (outcome m).bind fun a => outcome (f a) := by
  conv_lhs => rw [outcome, Prog.run_bind, run_idle hm]
  cases outcome m with
  | ok a =>
    change ((f a).run (idle.append (fired m))).1 = outcome (f a)
    rw [hf a _ (idle_succeeds.append _)]
  | error e => rfl

lemma fired_bind (hm : Fires m) {f : α → Prog Listener Error β} (hf : ∀ a, Fires (f a)) :
    fired (m >>= f) = fired m ++ match outcome m with
      | .ok a => fired (f a)
      | .error _ => [] := by
  conv_lhs => rw [fired, Prog.run_bind, run_idle hm]
  cases hr : outcome m with
  | ok a =>
    simp only [hf a _ (idle_succeeds.append _)]
    rfl
  | error e => exact (List.append_nil _).symm

lemma fires_bind (hm : Fires m) {f : α → Prog Listener Error β} (hf : ∀ a, Fires (f a)) :
    Fires (m >>= f) := by
  intro l hl
  rw [outcome_bind hm hf, fired_bind hm hf, Prog.run_bind, hm l hl]
  cases hr : outcome m with
  | ok a =>
    simp only [hf a _ (hl.append _), append_append]
    rfl
  | error e =>
    simp only [List.append_nil]
    rfl

lemma fires_forEach {f : β → Prog Listener Error Unit} (hf : ∀ x, Fires (f x)) (xs : List β) :
    Fires (Prog.forEach f xs) := by
  induction xs with
  | nil => exact fires_pure ()
  | cons x xs ih => exact fires_bind (hf x) fun _ => ih

end Fires

end Listener
end VvClient
