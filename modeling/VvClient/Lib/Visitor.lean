import VvClient.Lib.Json
import VvClient.Lib.Outcome

/-! Visitors that walk over the fields of an object with variables of their own, and the structs and
arrays that a derived visitor takes. -/
namespace VvClient

/-- What a visitor fails with. -/
inductive DeError
  | invalidType
  | invalidLength
  | trailingCharacters
  | duplicateField (name : String)
  | missingField (name : String)
  | unknownField (name : String)
  | unknownVariant (name : String)
  | custom (text : String)
  deriving DecidableEq

namespace Json

variable {α σ τ : Type}

/-- `map.next_value()` for a text -/
def nextStr (j : Json) : Outcome DeError String := Outcome.okOr .invalidType (toStr j)

/-- `map.next_value()` for an optional text -/
def nextOptionStr (j : Json) : Outcome DeError (Option String) :=
  Outcome.okOr .invalidType (toOption toStr j)

/-- `seq.next_element()`, where a visitor needs one more -/
def nextElement : List Json → Outcome DeError (Json × List Json)
  | [] => .err .invalidLength
  | j::js => .ok (j,js)

/-- The end of an array, behind what a visitor took. -/
def endSeq : List Json → Outcome DeError Unit
  | [] => .ok ()
  | _ => .err .trailingCharacters

/-- A struct is read from an object, or from the array of its fields. -/
def toStruct (ofFields : Fields → Option α) (ofItems : List Json → Option α) : Json → Option α
  | .obj fields => ofFields fields
  | .arr items => ofItems items
  | _ => none

def orDefault (dec : Json → Option α) (default : α) : List Json → Option α
  | [] => some default
  | [j] => dec j
  | _ => none

/-- A field with `#[serde(default)]`. -/
def defaulted (name : String) (dec : Json → Option α) (default : α) (fields : Fields) : Option α :=
  orDefault dec default (values name fields)

/-- A variable of a visitor. The field of this name may set it as long as it is `free`. -/
structure Slot (σ : Type) where
  name : String
  free : σ
  read : Json → Outcome DeError σ

/-- A variable that is `None` until a field sets it. -/
def Slot.once (name : String) (read : Json → Outcome DeError σ) : Slot (Option σ) :=
  ⟨name,none,fun j => some <$> read j⟩

/-- A turn of the loop over the fields, with two variables; `deny` refuses other names. -/
def visitTwo [DecidableEq σ] [DecidableEq τ] (deny : Bool) (p : Slot σ) (q : Slot τ) (s : σ × τ)
    (f : String × Json) : Outcome DeError (σ × τ) :=
  if f.1 = p.name then
    if s.1 = p.free then do
      let x ← p.read f.2
      return (x,s.2)
    else .err (.duplicateField p.name)
  else if f.1 = q.name then
    if s.2 = q.free then do
      let y ← q.read f.2
      return (s.1,y)
    else .err (.duplicateField q.name)
  else if deny then .err (.unknownField f.1)
  else .ok s

/-- What becomes of a variable: it stays, or the last value sets it and all before that left it
free. -/
def Slot.Settles (p : Slot σ) (before after : σ) (js : List Json) : Prop :=
  js = [] ∧ after = before ∨ before = p.free ∧
    ∃ idle last, js = idle ++ [last] ∧ (∀ j ∈ idle, p.read j = .ok p.free) ∧ p.read last = .ok after

namespace Slot
variable {p : Slot σ} {before after : σ}

lemma settles_nil : p.Settles before after [] ↔ after = before := by simp [Settles]

lemma settles_cons {j : Json} {js : List Json} : p.Settles before after (j::js) ↔
    before = p.free ∧ ∃ x, p.read j = .ok x ∧ p.Settles x after js := by
  constructor
  · rintro (⟨hnil,-⟩ | ⟨hfree,idle,last,hjs,hidle,hlast⟩)
    · cases hnil
    · refine ⟨hfree,?_⟩
      cases idle with
      | nil =>
        obtain ⟨rfl,rfl⟩ := List.cons.inj hjs
        exact ⟨after,hlast,settles_nil.mpr rfl⟩
      | cons i idle =>
        obtain ⟨rfl,rfl⟩ := List.cons.inj hjs
        rw [List.forall_mem_cons] at hidle
        exact ⟨p.free,hidle.1,.inr ⟨rfl,idle,last,rfl,hidle.2,hlast⟩⟩
  · rintro ⟨hfree,x,hx,⟨rfl,rfl⟩ | ⟨rfl,idle,last,rfl,hidle,hlast⟩⟩
    · exact .inr ⟨hfree,[],j,rfl,fun i hi => absurd hi List.not_mem_nil,hx⟩
    · exact .inr ⟨hfree,j::idle,last,rfl,List.forall_mem_cons.mpr ⟨hx,hidle⟩,hlast⟩

/-- A variable that is set once has one field. -/
theorem once_settles {name : String} {read : Json → Outcome DeError σ} {a : σ} {js : List Json} :
    (once name read).Settles none (some a) js ↔ ∃ j, js = [j] ∧ read j = .ok a := by
  have hread : ∀ j (x : Option σ), (once name read).read j = .ok x ↔ ∃ b, read j = .ok b ∧ some b = x :=
    fun j x => Outcome.map_eq_ok
  constructor
  · rintro (⟨-,hnone⟩ | ⟨-,idle,last,rfl,hidle,hlast⟩)
    · cases hnone
    · obtain ⟨b,hb,hsome⟩ := (hread _ _).mp hlast
      obtain rfl : b = a := Option.some.inj hsome
      cases idle with
      | nil => exact ⟨last,rfl,hb⟩
      | cons i idle =>
        obtain ⟨c,-,hc⟩ := (hread _ _).mp (hidle i List.mem_cons_self)
        cases hc
  · rintro ⟨j,rfl,hj⟩
    exact .inr ⟨rfl,[],j,rfl,fun i hi => absurd hi List.not_mem_nil,(hread _ _).mpr ⟨a,hj,rfl⟩⟩

end Slot

section Loop
variable [DecidableEq σ] [DecidableEq τ] {deny : Bool} {p : Slot σ} {q : Slot τ}

lemma visitTwo_first {s t : σ × τ} {j : Json} : visitTwo deny p q s (p.name,j) = .ok t ↔
    s.1 = p.free ∧ ∃ x, p.read j = .ok x ∧ t = (x,s.2) := by
  simp only [visitTwo, ↓reduceIte]
  split
  · next h =>
    rw [Outcome.bind_eq_ok, and_iff_right h]
    exact exists_congr fun x => and_congr_right fun _ => by
      rw [Outcome.pure_eq, Outcome.ok.injEq, eq_comm]
  · next h => simp [h]

lemma visitTwo_second (hne : q.name ≠ p.name) {s t : σ × τ} {j : Json} :
    visitTwo deny p q s (q.name,j) = .ok t ↔ s.2 = q.free ∧ ∃ y, q.read j = .ok y ∧ t = (s.1,y) := by
  simp only [visitTwo, ↓reduceIte, if_neg hne]
  split
  · next h =>
    rw [Outcome.bind_eq_ok, and_iff_right h]
    exact exists_congr fun x => and_congr_right fun _ => by
      rw [Outcome.pure_eq, Outcome.ok.injEq, eq_comm]
  · next h => simp [h]

lemma visitTwo_other {s : σ × τ} {f : String × Json} (hp : f.1 ≠ p.name) (hq : f.1 ≠ q.name) :
    visitTwo deny p q s f = if deny then .err (.unknownField f.1) else .ok s := by
  rw [visitTwo, if_neg hp, if_neg hq]

lemma values_cons (name : String) (f : String × Json) (fields : Fields) :
    values name (f::fields) = if f.1 = name then f.2::values name fields else values name fields := by
  by_cases h : f.1 = name <;> simp [values, h]

/-- The loop as a whole: which names it lets through, and what the values of each name do. -/
theorem foldlM_visitTwo (hne : q.name ≠ p.name) {fields : Fields} {s t : σ × τ} :
    fields.foldlM (visitTwo deny p q) s = .ok t ↔
      (deny → ∀ f ∈ fields, f.1 = p.name ∨ f.1 = q.name) ∧
      p.Settles s.1 t.1 (values p.name fields) ∧ q.Settles s.2 t.2 (values q.name fields) := by
  induction fields generalizing s with
  | nil => simp [Slot.settles_nil, Prod.ext_iff, eq_comm]
  | cons f fields ih =>
    obtain ⟨name,j⟩ := f
    rw [List.foldlM_cons, Outcome.bind_eq_ok, values_cons, values_cons]
    simp only [ih, List.forall_mem_cons]
    by_cases hp : name = p.name
    · subst hp
      rw [if_pos rfl, if_neg hne.symm, Slot.settles_cons]
      simp only [visitTwo_first]
      constructor
      · rintro ⟨_,⟨hfree,x,hx,rfl⟩,hnames,hp,hq⟩
        exact ⟨fun h => ⟨.inl trivial,hnames h⟩,⟨hfree,x,hx,hp⟩,hq⟩
      · rintro ⟨hnames,⟨hfree,x,hx,hp⟩,hq⟩
        exact ⟨_,⟨hfree,x,hx,rfl⟩,fun h => (hnames h).2,hp,hq⟩
    · by_cases hq : name = q.name
      · subst hq
        rw [if_neg hne, if_pos rfl, Slot.settles_cons]
        simp only [visitTwo_second hne]
        constructor
        · rintro ⟨_,⟨hfree,y,hy,rfl⟩,hnames,hp,hq⟩
          exact ⟨fun h => ⟨.inr trivial,hnames h⟩,hp,hfree,y,hy,hq⟩
        · rintro ⟨hnames,hp,hfree,y,hy,hq⟩
          exact ⟨_,⟨hfree,y,hy,rfl⟩,fun h => (hnames h).2,hp,hq⟩
      · rw [if_neg hp, if_neg hq, visitTwo_other hp hq]
        cases deny <;> simp [hp, hq]

/-- The loop panics only where a value does. -/
theorem foldlM_visitTwo_panicked {fields : Fields} {s : σ × τ}
    (h : fields.foldlM (visitTwo deny p q) s = .panicked) :
    ∃ f ∈ fields, p.read f.2 = .panicked ∨ q.read f.2 = .panicked := by
  induction fields generalizing s with
  | nil => cases h
  | cons f fields ih =>
    rw [List.foldlM_cons] at h
    rcases Outcome.bind_eq_panicked.mp h with hstep | ⟨t,-,hrest⟩
    · refine ⟨f,List.mem_cons_self,?_⟩
      unfold visitTwo at hstep
      split at hstep
      · split at hstep
        · exact .inl (by simpa [Outcome.bind_eq_panicked] using hstep)
        · cases hstep
      · split at hstep
        · split at hstep
          · exact .inr (by simpa [Outcome.bind_eq_panicked] using hstep)
          · cases hstep
        · split at hstep <;> cases hstep
    · obtain ⟨g,hg,hread⟩ := ih hrest
      exact ⟨g,List.mem_cons_of_mem f hg,hread⟩

end Loop

section Rules

@[simp] theorem orDefault_nil (dec : Json → Option α) (default : α) :
    orDefault dec default [] = some default := rfl

@[simp] theorem orDefault_singleton (dec : Json → Option α) (default : α) (j : Json) :
    orDefault dec default [j] = dec j := by rw [orDefault]

@[simp] theorem defaulted_eq (name : String) (dec : Json → Option α) (default : α) (fs : Fields) :
    defaulted name dec default fs = orDefault dec default (values name fs) := by rw [defaulted]

@[simp] theorem toStruct_obj (ofFields : Fields → Option α) (ofItems : List Json → Option α)
    (fs : Fields) : toStruct ofFields ofItems (.obj fs) = ofFields fs := rfl

@[simp] theorem single_nil (dec : Json → Option α) : single dec [] = none := rfl

lemma single_eq_some {dec : Json → Option α} {js : List Json} {a : α} :
    single dec js = some a ↔ ∃ j, js = [j] ∧ dec j = some a := by
  constructor
  · intro h
    cases js with
    | nil => cases h
    | cons j js =>
      cases js with
      | nil => exact ⟨j,rfl,by rwa [single_singleton] at h⟩
      | cons => cases h
  · rintro ⟨j,rfl,h⟩
    rwa [single_singleton]

end Rules

section Texts

lemma nextStr_eq_ok {j : Json} {s : String} : nextStr j = .ok s ↔ j = .str s := by
  cases j <;> simp [nextStr, toStr, Outcome.okOr]

lemma nextOptionStr_eq_ok {j : Json} {s : Option String} :
    nextOptionStr j = .ok s ↔ j = .null ∧ s = none ∨ ∃ t, j = .str t ∧ s = some t := by
  cases j <;> simp [nextOptionStr, toStr, toOption, Outcome.okOr, eq_comm]

end Texts

section Arrays

lemma nextElement_eq_ok {items js : List Json} {j : Json} :
    nextElement items = .ok (j,js) ↔ items = j::js := by
  cases items <;> simp [nextElement]

lemma endSeq_eq_ok {items : List Json} : endSeq items = .ok () ↔ items = [] := by
  cases items <;> simp [endSeq]

end Arrays

end Json
end VvClient
