import Mathlib.Data.Int.Notation
import Mathlib.Tactic.Common

/-! JSON values, and how derived serializers write structs and enums as such values and read them:
missing options are `None`, unknown fields are ignored, enums carry their tag outside. -/
namespace VvClient

/-- An integer that fits an `i64` or a `u64`. -/
structure JsonInt where
  val : ℤ
  low : Int64.minValue.toInt ≤ val
  high : val < UInt64.size

inductive Json
  | null
  | bool (b : Bool)
  | num (n : JsonInt)
  | str (s : String)
  | arr (items : List Json)
  | obj (fields : List (String × Json))

abbrev Fields := List (String × Json)

/-- Snake case to Pascal case, where `capitalize` says that the next letter is raised. -/
def pascalCase : Bool → List Char → List Char
  | _,[] => []
  | capitalize,c::cs =>
    if c = '_' then pascalCase true cs
    else (if capitalize then c.toUpper else c)::pascalCase false cs

/-- `rename_all = "camelCase"` -/
def camelCase (name : String) : String :=
  match pascalCase true name.toList with
  | [] => ""
  | c::cs => String.ofList (c.toLower::cs)

namespace Json

variable {α β γ : Type}

section Write

def ofInt32 (n : Int32) : Json :=
  .num ⟨n.toInt,Int.le_trans (by decide) n.minValue_le_toInt,Int.lt_of_le_of_lt n.toInt_le (by decide)⟩

def ofInt64 (n : Int64) : Json :=
  .num ⟨n.toInt,n.minValue_le_toInt,Int.lt_of_le_of_lt n.toInt_le (by decide)⟩

def ofUInt8 (n : UInt8) : Json :=
  .num ⟨n.toNat,Int.le_trans (by decide) (Int.natCast_nonneg _),
    Int.ofNat_lt.mpr (Nat.lt_trans n.toNat_lt_size (by decide))⟩

def ofUInt16 (n : UInt16) : Json :=
  .num ⟨n.toNat,Int.le_trans (by decide) (Int.natCast_nonneg _),
    Int.ofNat_lt.mpr (Nat.lt_trans n.toNat_lt_size (by decide))⟩

def ofUInt32 (n : UInt32) : Json :=
  .num ⟨n.toNat,Int.le_trans (by decide) (Int.natCast_nonneg _),
    Int.ofNat_lt.mpr (Nat.lt_trans n.toNat_lt_size (by decide))⟩

def ofOption (enc : α → Json) : Option α → Json
  | none => .null
  | some a => enc a

def ofList (enc : α → Json) (as : List α) : Json := .arr (as.map enc)

/-- A map, its entries in the order of the iteration. -/
def ofMap (enc : α → Json) (entries : List (String × α)) : Json :=
  .obj (entries.map fun e => (e.1,enc e.2))

/-- A variant of an enum with its value. -/
def tagged (tag : String) (value : Json) : Json := .obj [(tag,value)]

def field (name : String) (value : Json) : Fields := [(name,value)]

/-- A field with `skip_serializing_if = "Option::is_none"`. -/
def skipNone (name : String) (enc : α → Json) : Option α → Fields
  | none => []
  | some a => [(name,enc a)]

end Write

section Read

def toStr : Json → Option String
  | .str s => some s
  | _ => none

def toBool : Json → Option Bool
  | .bool b => some b
  | _ => none

def toInt : Json → Option ℤ
  | .num n => some n.val
  | _ => none

def toInt32 (j : Json) : Option Int32 :=
  j.toInt.bind fun n =>
    if Int32.minValue.toInt ≤ n ∧ n ≤ Int32.maxValue.toInt then some (Int32.ofInt n) else none

def toInt64 (j : Json) : Option Int64 :=
  j.toInt.bind fun n =>
    if Int64.minValue.toInt ≤ n ∧ n ≤ Int64.maxValue.toInt then some (Int64.ofInt n) else none

def toNat (j : Json) : Option ℕ := j.toInt.bind fun n => if 0 ≤ n then some n.toNat else none

def toUInt8 (j : Json) : Option UInt8 :=
  j.toNat.bind fun n => if n < UInt8.size then some (UInt8.ofNat n) else none

def toUInt16 (j : Json) : Option UInt16 :=
  j.toNat.bind fun n => if n < UInt16.size then some (UInt16.ofNat n) else none

def toUInt32 (j : Json) : Option UInt32 :=
  j.toNat.bind fun n => if n < UInt32.size then some (UInt32.ofNat n) else none

def toOption (dec : Json → Option α) : Json → Option (Option α)
  | .null => some none
  | j => (dec j).map some

def toList (dec : Json → Option α) : Json → Option (List α)
  | .arr items => items.mapM dec
  | _ => none

/-- The entries of a map in the order of the document; an entry with the same key replaces the one
before it. -/
def toEntries (dec : Json → Option α) : Json → Option (List (String × α))
  | .obj fields => fields.mapM fun f => (dec f.2).map fun a => (f.1,a)
  | _ => none

def toFields : Json → Option Fields
  | .obj fields => some fields
  | _ => none

def toItems : Json → Option (List Json)
  | .arr items => some items
  | _ => none

/-- The tag and the value of a variant. -/
def toVariant : Json → Option (String × Json)
  | .obj [f] => some f
  | _ => none

/-- A variant without a value. -/
def toUnitVariant : Json → Option String
  | .str tag => some tag
  | .obj [(tag,.null)] => some tag
  | _ => none

/-- The values that the fields of this name have. -/
def values (name : String) (fields : Fields) : List Json :=
  (fields.filter fun f => f.1 = name).map Prod.snd

/-- Just one value; a second field of one name is an error. -/
def single (dec : Json → Option α) : List Json → Option α
  | [j] => dec j
  | _ => none

def atMostOne (dec : Json → Option α) : List Json → Option (Option α)
  | [] => some none
  | [j] => toOption dec j
  | _ => none

def required (name : String) (dec : Json → Option α) (fields : Fields) : Option α :=
  single dec (values name fields)

/-- A required field with an `alias`. -/
def requiredOr (name other : String) (dec : Json → Option α) (fields : Fields) : Option α :=
  single dec (values name fields ++ values other fields)

/-- A field of type `Option`. -/
def optional (name : String) (dec : Json → Option α) (fields : Fields) : Option (Option α) :=
  atMostOne dec (values name fields)

end Read

/-- `dec` reads what `enc` writes, as the value that `f` makes of it. -/
structure Reads (dec : Json → Option β) (enc : α → Json) (f : α → β) : Prop where
  read : ∀ a, dec (enc a) = some (f a)
  notNull : ∀ a, enc a ≠ .null

/-- How values of a type are written and read. -/
structure Codec (α : Type) where
  serialize : α → Json
  deserialize : Json → Option α

def Codec.Lawful (c : Codec α) : Prop := Reads c.deserialize c.serialize id

section Rules
variable {dec : Json → Option β} {enc : α → Json} {f : α → β}

@[simp] theorem values_nil (name : String) : values name [] = [] := rfl

@[simp] theorem values_append (name : String) (fs gs : Fields) :
    values name (fs ++ gs) = values name fs ++ values name gs := by simp [values]

@[simp] theorem values_field (name key : String) (value : Json) :
    values name (field key value) = if key = name then [value] else [] := by
  by_cases h : key = name <;> simp [values, field, h]

@[simp] theorem values_skipNone (name key : String) (enc : α → Json) (a : Option α) :
    values name (skipNone key enc a) = if key = name then a.toList.map enc else [] := by
  by_cases h : key = name <;> cases a <;> simp [values, skipNone, h]

@[simp] theorem required_eq (name : String) (dec : Json → Option α) (fs : Fields) :
    required name dec fs = single dec (values name fs) := by rw [required]

@[simp] theorem requiredOr_eq (name other : String) (dec : Json → Option α) (fs : Fields) :
    requiredOr name other dec fs = single dec (values name fs ++ values other fs) := by rw [requiredOr]

@[simp] theorem optional_eq (name : String) (dec : Json → Option α) (fs : Fields) :
    Json.optional name dec fs = atMostOne dec (values name fs) := by rw [Json.optional]

@[simp] theorem single_singleton (dec : Json → Option α) (j : Json) : single dec [j] = dec j := by
  rw [single]

@[simp] theorem atMostOne_nil (dec : Json → Option α) : atMostOne dec [] = some none := rfl

@[simp] theorem atMostOne_singleton (dec : Json → Option α) (j : Json) :
    atMostOne dec [j] = toOption dec j := by rw [atMostOne]

@[simp] theorem toFields_obj (fields : Fields) : toFields (.obj fields) = some fields := rfl

@[simp] theorem toVariant_tagged (tag : String) (value : Json) :
    toVariant (tagged tag value) = some (tag,value) := rfl

@[simp] theorem toStr_str (s : String) : toStr (.str s) = some s := rfl

@[simp] theorem toBool_bool (b : Bool) : toBool (.bool b) = some b := rfl

@[simp] theorem toInt32_ofInt32 (n : Int32) : toInt32 (ofInt32 n) = some n := by
  rw [toInt32, ofInt32, toInt, Option.bind_some, if_pos ⟨n.minValue_le_toInt,n.toInt_le⟩,
    Int32.ofInt_toInt]

@[simp] theorem toInt64_ofInt64 (n : Int64) : toInt64 (ofInt64 n) = some n := by
  rw [toInt64, ofInt64, toInt, Option.bind_some, if_pos ⟨n.minValue_le_toInt,n.toInt_le⟩,
    Int64.ofInt_toInt]

lemma toNat_num {m : ℕ} (low : Int64.minValue.toInt ≤ (m : ℤ)) (high : (m : ℤ) < UInt64.size) :
    toNat (.num ⟨m,low,high⟩) = some m := by
  rw [toNat, toInt, Option.bind_some, if_pos (Int.natCast_nonneg m), Int.toNat_natCast]

@[simp] theorem toUInt8_ofUInt8 (n : UInt8) : toUInt8 (ofUInt8 n) = some n := by
  rw [toUInt8, ofUInt8, toNat_num, Option.bind_some, if_pos n.toNat_lt_size, UInt8.ofNat_toNat]

@[simp] theorem toUInt16_ofUInt16 (n : UInt16) : toUInt16 (ofUInt16 n) = some n := by
  rw [toUInt16, ofUInt16, toNat_num, Option.bind_some, if_pos n.toNat_lt_size, UInt16.ofNat_toNat]

@[simp] theorem toUInt32_ofUInt32 (n : UInt32) : toUInt32 (ofUInt32 n) = some n := by
  rw [toUInt32, ofUInt32, toNat_num, Option.bind_some, if_pos n.toNat_lt_size, UInt32.ofNat_toNat]

theorem toOption_of_ne_null (dec : Json → Option α) {j : Json} (h : j ≠ .null) :
    toOption dec j = (dec j).map some := by
  cases j with
  | null => exact absurd rfl h
  | _ => rfl

namespace Reads

theorem str : Reads toStr .str id := ⟨toStr_str,fun _ => Json.noConfusion⟩
theorem bool : Reads toBool .bool id := ⟨toBool_bool,fun _ => Json.noConfusion⟩
theorem int32 : Reads toInt32 ofInt32 id := ⟨toInt32_ofInt32,fun _ => Json.noConfusion⟩
theorem int64 : Reads toInt64 ofInt64 id := ⟨toInt64_ofInt64,fun _ => Json.noConfusion⟩

theorem present (h : Reads dec enc f) (a : α) : Json.toOption dec (enc a) = some (some (f a)) := by
  rw [toOption_of_ne_null dec (h.notNull a), h.read]
  rfl

/-- A field of type `Option` that is written as `null` when it is `None`. -/
theorem nullable (h : Reads dec enc f) (a : Option α) :
    Json.toOption dec (ofOption enc a) = some (a.map f) := by
  cases a with
  | none => rfl
  | some a => exact h.present a

/-- A field of type `Option` that is left out when it is `None`. -/
theorem skipped (h : Reads dec enc f) (a : Option α) :
    atMostOne dec (a.toList.map enc) = some (a.map f) := by
  cases a with
  | none => rfl
  | some a => exact h.present a

theorem ofList (h : Reads dec enc f) : Reads (toList dec) (ofList enc) (List.map f) := by
  refine ⟨fun as => ?_,fun _ => Json.noConfusion⟩
  change (as.map enc).mapM dec = some (as.map f)
  induction as with
  | nil => rfl
  | cons a as ih => simp [h.read, ih]

theorem ofMap (h : Reads dec enc f) :
    Reads (toEntries dec) (ofMap enc) (List.map fun e => (e.1,f e.2)) := by
  refine ⟨fun es => ?_,fun _ => Json.noConfusion⟩
  change (es.map fun e => (e.1,enc e.2)).mapM _ = some (es.map fun e => (e.1,f e.2))
  induction es with
  | nil => rfl
  | cons e es ih => simp [h.read, ih]

end Reads

@[simp] theorem atMostOne_str (a : Option String) : atMostOne toStr (a.toList.map .str) = some a := by
  simpa using Reads.str.skipped a

@[simp] theorem atMostOne_bool (a : Option Bool) : atMostOne toBool (a.toList.map .bool) = some a := by
  simpa using Reads.bool.skipped a

@[simp] theorem atMostOne_int32 (a : Option Int32) :
    atMostOne toInt32 (a.toList.map ofInt32) = some a := by
  simpa using Reads.int32.skipped a

@[simp] theorem atMostOne_int64 (a : Option Int64) :
    atMostOne toInt64 (a.toList.map ofInt64) = some a := by
  simpa using Reads.int64.skipped a

end Rules

end Json
end VvClient
