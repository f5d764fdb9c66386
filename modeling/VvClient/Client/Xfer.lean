import Mathlib.Algebra.Order.Ring.Nat
import Mathlib.Data.Int.Order.Basic
import Mathlib.Data.List.Basic
import VvClient.Proto.Packet

/-! The transfer queue: requests wait in it until the peer acknowledges them, and an index
separates those that were sent from those that were not. -/
namespace VvClient

/-- `usize` has 64 bits. -/
def usizeSize : ℕ := 2^64

/-- `i -= 1` on a `usize` where overflow checks are off (the release profile): it wraps. -/
def wrappingDec (i : ℕ) : ℕ := if i = 0 then usizeSize - 1 else i - 1

/-- `i -= 1` on a `usize` where overflow checks are on: `none` is the panic. -/
def checkedDec (i : ℕ) : Option ℕ := if i = 0 then none else some (i - 1)

structure Xfer where
  que : List (ℤ × Packet)
  tailSn : ℤ
  sendIndex : ℕ
  recvSn : ℤ
  sentAckSn : ℤ
  deriving DecidableEq, Repr

namespace Xfer

def new : Xfer := ⟨[],0,0,0,0⟩

/-- The loop of `update_recv_ack` on the two fields that it changes. -/
def popAcked (sn : ℤ) : List (ℤ × Packet) → ℕ → List (ℤ × Packet) × ℕ
  | [],i => ([],i)
  | item::que,i => if item.1 > sn then (item::que,i) else popAcked sn que (wrappingDec i)

def updateRecvAck (sn : ℤ) (x : Xfer) : Xfer :=
  { x with que := (popAcked sn x.que x.sendIndex).1
           sendIndex := (popAcked sn x.que x.sendIndex).2 }

/-- The same loop where overflow checks are on. -/
def popAckedChecked (sn : ℤ) : List (ℤ × Packet) → ℕ → Option (List (ℤ × Packet) × ℕ)
  | [],i => some ([],i)
  | item::que,i =>
    if item.1 > sn then some (item::que,i)
    else (checkedDec i).bind (popAckedChecked sn que)

def updateRecvAckChecked (sn : ℤ) (x : Xfer) : Option Xfer :=
  (popAckedChecked sn x.que x.sendIndex).map fun r => { x with que := r.1, sendIndex := r.2 }

def initRecvAck (sn : ℤ) (x : Xfer) : Xfer := { x.updateRecvAck sn with sendIndex := 0 }

def updateRecvSn (sn : ℤ) (x : Xfer) : Xfer := if sn > x.recvSn then { x with recvSn := sn } else x

/-- What `phase_work` and `reconnect_session` do with the numbers of a received packet. -/
def takeNumbers (ack sn : Option ℤ) (x : Xfer) : Xfer :=
  let x := match ack with
    | some ackSn => x.updateRecvAck ackSn
    | none => x
  match sn with
  | some sn => x.updateRecvSn sn
  | none => x

def clearSendAck (x : Xfer) : Xfer := { x with sentAckSn := 0 }

def fillAck (msgId : Option ℤ) (x : Xfer) : Option ℤ × Xfer :=
  match msgId with
  | some ack => (some ack,if x.sentAckSn < ack then { x with sentAckSn := ack } else x)
  | none =>
    if x.sentAckSn < x.recvSn then (some x.recvSn,{ x with sentAckSn := x.recvSn })
    else (none,x)

/-- `body` is what `serde_json` makes of the body: its text, or the error. The acknowledgement
is taken before the packet is serialized. -/
def addQos1Json (typ : PacketType) (body : Except Error String) (msgId : Option ℤ) :
    Prog Xfer Error ℤ := do
  let sn := (← Prog.get).tailSn + 1
  let ack := (fillAck msgId (← Prog.get)).1
  Prog.modify fun x => (fillAck msgId x).2
  let text ← Prog.ofExcept body
  let packet : Packet := ⟨some typ.asNum,some sn,some text,ack⟩
  Prog.modify fun x => { x with que := x.que ++ [(sn,packet)], tailSn := sn }
  pure sn

def addQos1Typed (typ : PacketType) (body : Except Error String) (msgId : Option ℤ) :
    Prog Xfer Error ℤ := do
  let bodyJson ← Prog.ofExcept body
  addQos1Json typ (.ok bodyJson) msgId

/-- The entries that were not sent yet. -/
def unsent (x : Xfer) : List (ℤ × Packet) := x.que.drop x.sendIndex

/-- The packet that `add_qos1_json` queues. -/
def nextPacket (typ : PacketType) (text : String) (msgId : Option ℤ) (x : Xfer) : Packet :=
  ⟨some typ.asNum,some (x.tailSn + 1),some text,(fillAck msgId x).1⟩

section Fields
variable (sn : ℤ) (msgId : Option ℤ) (x : Xfer)

@[simp] theorem updateRecvAck_tailSn : (x.updateRecvAck sn).tailSn = x.tailSn := rfl
@[simp] theorem updateRecvAck_recvSn : (x.updateRecvAck sn).recvSn = x.recvSn := rfl
@[simp] theorem updateRecvAck_sentAckSn : (x.updateRecvAck sn).sentAckSn = x.sentAckSn := rfl

@[simp] theorem updateRecvSn_que : (x.updateRecvSn sn).que = x.que := by
  unfold updateRecvSn; split <;> rfl
@[simp] theorem updateRecvSn_tailSn : (x.updateRecvSn sn).tailSn = x.tailSn := by
  unfold updateRecvSn; split <;> rfl
@[simp] theorem updateRecvSn_sendIndex : (x.updateRecvSn sn).sendIndex = x.sendIndex := by
  unfold updateRecvSn; split <;> rfl

@[simp] theorem fillAck_que : (fillAck msgId x).2.que = x.que := by
  unfold fillAck; split <;> split <;> rfl
@[simp] theorem fillAck_tailSn : (fillAck msgId x).2.tailSn = x.tailSn := by
  unfold fillAck; split <;> split <;> rfl
@[simp] theorem fillAck_sendIndex : (fillAck msgId x).2.sendIndex = x.sendIndex := by
  unfold fillAck; split <;> split <;> rfl

@[simp] theorem takeNumbers_que (ack : ℤ) (sn : Option ℤ) :
    (x.takeNumbers (some ack) sn).que = (x.updateRecvAck ack).que := by
  cases sn <;> simp [takeNumbers]
@[simp] theorem takeNumbers_sendIndex (ack : ℤ) (sn : Option ℤ) :
    (x.takeNumbers (some ack) sn).sendIndex = (x.updateRecvAck ack).sendIndex := by
  cases sn <;> simp [takeNumbers]
@[simp] theorem takeNumbers_none_que (sn : Option ℤ) : (x.takeNumbers none sn).que = x.que := by
  cases sn <;> simp [takeNumbers]
@[simp] theorem takeNumbers_none_sendIndex (sn : Option ℤ) :
    (x.takeNumbers none sn).sendIndex = x.sendIndex := by
  cases sn <;> simp [takeNumbers]
@[simp] theorem takeNumbers_tailSn (ack sn : Option ℤ) : (x.takeNumbers ack sn).tailSn = x.tailSn := by
  cases ack <;> cases sn <;> simp [takeNumbers]

end Fields

theorem updateRecvSn_recvSn (sn : ℤ) (x : Xfer) : (x.updateRecvSn sn).recvSn = max x.recvSn sn := by
  unfold updateRecvSn
  split_ifs with h
  · exact (max_eq_right (le_of_lt h)).symm
  · exact (max_eq_left (not_lt.mp h)).symm

theorem addQos1Json_ok (typ : PacketType) (text : String) (msgId : Option ℤ) (x : Xfer) :
    (addQos1Json typ (.ok text) msgId).run x =
      (.ok (x.tailSn + 1),
        { (fillAck msgId x).2 with
          que := x.que ++ [(x.tailSn + 1,nextPacket typ text msgId x)]
          tailSn := x.tailSn + 1 }) := by
  simp [addQos1Json, nextPacket]

/-- A body that does not serialize leaves the acknowledgement taken and nothing queued. -/
theorem addQos1Json_error (typ : PacketType) (e : Error) (msgId : Option ℤ) (x : Xfer) :
    (addQos1Json typ (.error e) msgId).run x = (.error e,(fillAck msgId x).2) := rfl

theorem addQos1Typed_ok (typ : PacketType) (text : String) (msgId : Option ℤ) (x : Xfer) :
    (addQos1Typed typ (.ok text) msgId).run x = (addQos1Json typ (.ok text) msgId).run x := rfl

theorem addQos1Typed_error (typ : PacketType) (e : Error) (msgId : Option ℤ) (x : Xfer) :
    (addQos1Typed typ (.error e) msgId).run x = (.error e,x) := rfl

end Xfer
end VvClient
