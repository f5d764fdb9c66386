import Mathlib.Data.Int.Notation
import VvClient.Lib.Prog

/-! The packets of the signalling protocol, the status a server reports, and the errors that
carry one. -/
namespace VvClient

inductive PacketType
  | request
  | response
  | push0
  | push1
  | push2
  deriving DecidableEq, Repr

namespace PacketType

def asNum : PacketType → ℤ
  | request => 3
  | response => 4
  | push0 => 5
  | push1 => 6
  | push2 => 7

def fromNum (v : ℤ) : Option PacketType :=
  if v = 3 then some request
  else if v = 4 then some response
  else if v = 5 then some push0
  else if v = 6 then some push1
  else if v = 7 then some push2
  else none

@[simp] theorem fromNum_asNum (t : PacketType) : fromNum t.asNum = some t := by
  cases t <;> rfl

end PacketType

/-- One packet. The source has it twice, as `PacketSer` to write and as `PacketRef` to read. -/
structure Packet where
  typ : Option ℤ
  sn : Option ℤ
  body : Option String
  ack : Option ℤ
  deriving DecidableEq, Repr

namespace Packet

/-- `PacketRef::typ()`: a number that names no type counts as absent. -/
def typ? (p : Packet) : Option PacketType := p.typ.bind PacketType.fromNum

/-- `PacketRef::sn()`: the sequence number zero counts as absent. -/
def sn? (p : Packet) : Option ℤ :=
  match p.sn with
  | none => none
  | some v => if v = 0 then none else some v

/-- The packet of `PacketRef::ack_json`. -/
def ackOnly (sn : ℤ) : Packet := ⟨none,none,none,some sn⟩

def qos0 (typ : PacketType) (body : String) : Packet := ⟨some typ.asNum,none,some body,none⟩

theorem sn?_eq_some {p : Packet} {v : ℤ} : p.sn? = some v ↔ p.sn = some v ∧ v ≠ 0 := by
  unfold sn?
  cases p.sn with
  | none => simp
  | some w =>
    by_cases hw : w = 0
    · simp only [hw, if_true, Option.some.injEq]
      constructor
      · intro h; cases h
      · rintro ⟨rfl,h⟩; exact absurd rfl h
    · simp only [if_neg hw, Option.some.injEq]
      constructor
      · rintro rfl; exact ⟨rfl,hw⟩
      · exact fun h => h.1

end Packet

structure Status where
  code : ℤ
  reason : String
  deriving DecidableEq, Repr

instance : Inhabited Status := ⟨⟨0,""⟩⟩

namespace Status

def internalErrorCode : ℤ := 1001

@[simp] theorem default_code : (default : Status).code = 0 := rfl

end Status

/-- An `anyhow::Error`: the status that a downcast finds in the chain, and the texts of the
chain, the outermost first. The file and line that `trace_result` adds are left out. -/
structure Error where
  status : Option Status
  chain : List String
  deriving DecidableEq, Repr

namespace Error

/-- `anyhow!(text)` -/
def msg (text : String) : Error := ⟨none,[text]⟩

/-- `anyhow::Error::from(status)` -/
def ofStatus (s : Status) : Error := ⟨some s,[]⟩

def context (e : Error) (text : String) : Error := ⟨e.status,text::e.chain⟩

@[simp] theorem msg_status (text : String) : (msg text).status = none := rfl
@[simp] theorem ofStatus_status (s : Status) : (ofStatus s).status = some s := rfl
@[simp] theorem context_status (e : Error) (text : String) : (e.context text).status = e.status := rfl

end Error

/-- `Status::from(anyhow::Error)`: the status in the chain, at any depth, or an internal error
that shows the outermost text. -/
def Status.ofError (e : Error) : Status :=
  match e.status with
  | some s => s
  | none => ⟨internalErrorCode,"internal error: [" ++ e.chain.headD "" ++ "]"⟩

theorem Status.ofError_of_status {e : Error} {s : Status} (h : e.status = some s) :
    ofError e = s := by simp [ofError, h]

/-- An error without a status is no success. -/
theorem Status.ofError_eq_default {e : Error} : ofError e = default ↔ e.status = some default := by
  constructor
  · intro h
    cases hs : e.status with
    | none =>
      simp only [ofError, hs] at h
      have hcode : internalErrorCode = 0 := congrArg Status.code h
      exact absurd hcode (by decide)
    | some s => rw [← ofError_of_status hs, h]
  · exact ofError_of_status

end VvClient
