import Mathlib
import VvClient.Client.Flush
import VvClient.Lib.Machine

/-! The send position under acknowledgements that the peer chooses. The index stays a cut of the
queue exactly as long as no acknowledgement reaches past it. -/
namespace VvClient
namespace Xfer

/-- How many entries at the front an acknowledgement covers. -/
def covered (sn : ℤ) (que : List (ℤ × Packet)) : ℕ := (que.takeWhile fun e => e.1 ≤ sn).length

/-- The acknowledgement covers nothing at or after the send position. -/
def AckBelow (x : Xfer) (sn : ℤ) : Prop := ∀ e ∈ x.unsent, sn < e.1

instance (x : Xfer) (sn : ℤ) : Decidable (x.AckBelow sn) :=
  inferInstanceAs (Decidable (∀ e ∈ x.unsent, sn < e.1))

/-- The index cuts the queue, and the numbers in the queue increase up to the last one given. -/
structure Valid (x : Xfer) : Prop where
  index : x.sendIndex ≤ x.que.length
  ordered : (x.que.map (·.1)).Pairwise (· < ·)
  bounded : ∀ e ∈ x.que, e.1 ≤ x.tailSn

lemma covered_cons_of_le {sn : ℤ} {e : ℤ × Packet} {que : List (ℤ × Packet)} (h : e.1 ≤ sn) :
    covered sn (e::que) = covered sn que + 1 := by simp [covered, h]

lemma covered_cons_of_lt {sn : ℤ} {e : ℤ × Packet} {que : List (ℤ × Packet)} (h : sn < e.1) :
    covered sn (e::que) = 0 := by simp [covered, Int.not_le.mpr h]

/-- What the loop leaves in the queue does not depend on the index. -/
theorem popAcked_que (sn : ℤ) (que : List (ℤ × Packet)) (i : ℕ) :
    (popAcked sn que i).1 = que.drop (covered sn que) := by
  induction que generalizing i with
  | nil => rfl
  | cons e que ih =>
    rcases lt_or_ge sn e.1 with h | h
    · simp [popAcked, h, covered_cons_of_lt h]
    · simp [popAcked, Int.not_lt.mpr h, covered_cons_of_le h, ih]

/-- Acknowledgements take packets off the front of the queue. -/
lemma takeNumbers_que_suffix (ack sn : Option ℤ) (x : Xfer) : (x.takeNumbers ack sn).que <:+ x.que := by
  cases ack with
  | none => simp
  | some ack =>
    rw [takeNumbers_que, updateRecvAck, popAcked_que]
    exact List.drop_suffix _ _

theorem popAcked_index {sn : ℤ} {que : List (ℤ × Packet)} {i : ℕ} (h : covered sn que ≤ i) :
    (popAcked sn que i).2 = i - covered sn que := by
  induction que generalizing i with
  | nil => rfl
  | cons e que ih =>
    rcases lt_or_ge sn e.1 with hlt | hge
    · simp [popAcked, hlt, covered_cons_of_lt hlt]
    · rw [covered_cons_of_le hge] at h ⊢
      simp only [popAcked, gt_iff_lt, Int.not_lt.mpr hge, if_false]
      have hi : i ≠ 0 := by omega
      rw [wrappingDec, if_neg hi, ih (by omega)]
      omega

/-- The index underflows exactly when more entries are covered than were sent. -/
theorem popAckedChecked_isSome (sn : ℤ) (que : List (ℤ × Packet)) (i : ℕ) :
    (popAckedChecked sn que i).isSome ↔ covered sn que ≤ i := by
  induction que generalizing i with
  | nil => simp [popAckedChecked, covered]
  | cons e que ih =>
    rcases lt_or_ge sn e.1 with h | h
    · simp [popAckedChecked, h, covered_cons_of_lt h]
    · simp only [popAckedChecked, gt_iff_lt, Int.not_lt.mpr h, if_false, covered_cons_of_le h]
      cases i with
      | zero => simp [checkedDec]
      | succ i => simp [checkedDec, ih]

theorem updateRecvAckChecked_isSome (x : Xfer) (sn : ℤ) :
    (x.updateRecvAckChecked sn).isSome ↔ covered sn x.que ≤ x.sendIndex := by
  rw [updateRecvAckChecked, Option.isSome_map, popAckedChecked_isSome]

/-- In an ordered queue the loop leaves exactly what is not acknowledged. -/
lemma lt_of_mem_drop_covered {sn : ℤ} {que : List (ℤ × Packet)}
    (ho : (que.map (·.1)).Pairwise (· < ·)) {e : ℤ × Packet} (he : e ∈ que.drop (covered sn que)) :
    sn < e.1 := by
  induction que with
  | nil => simp at he
  | cons a que ih =>
    rw [List.map_cons, List.pairwise_cons] at ho
    rcases lt_or_ge sn a.1 with h | h
    · rw [covered_cons_of_lt h, List.drop_zero] at he
      rcases List.mem_cons.mp he with rfl | he
      · exact h
      · have := ho.1 e.1 (List.mem_map_of_mem he)
        omega
    · rw [covered_cons_of_le h, List.drop_succ_cons] at he
      exact ih ho.2 he

theorem covered_le_iff {x : Xfer} (hx : x.Valid) (sn : ℤ) :
    covered sn x.que ≤ x.sendIndex ↔ x.AckBelow sn := by
  constructor
  · intro h e he
    apply lt_of_mem_drop_covered hx.ordered
    have hd : x.unsent = (x.que.drop (covered sn x.que)).drop (x.sendIndex - covered sn x.que) := by
      rw [List.drop_drop, Nat.add_sub_cancel' h]
      rfl
    rw [hd] at he
    exact List.mem_of_mem_drop he
  · intro h
    by_contra hlt
    rw [Nat.not_le] at hlt
    have hi : x.sendIndex < x.que.length :=
      lt_of_lt_of_le hlt (List.takeWhile_prefix _).length_le
    have hm : x.que[x.sendIndex] ∈ x.unsent := by
      rw [unsent, List.drop_eq_getElem_cons hi]
      exact List.mem_cons_self
    have hp : x.que[x.sendIndex].1 ≤ sn := by
      have hg := List.all_takeWhile (p := fun e : ℤ × Packet => decide (e.1 ≤ sn)) (l := x.que)
      rw [List.all_eq_true] at hg
      have he : (x.que.takeWhile fun e => decide (e.1 ≤ sn))[x.sendIndex] = x.que[x.sendIndex] :=
        (List.takeWhile_prefix _).getElem hlt
      simpa [he] using hg _ (List.getElem_mem hlt)
    have := h _ hm
    omega

/-- An acknowledgement below the send position takes entries from the sent part of the window
and leaves the rest. -/
theorem updateRecvAck_window {x : Xfer} (hx : x.Valid) {sn : ℤ} (h : x.AckBelow sn) :
    (x.updateRecvAck sn).que = x.que.drop (covered sn x.que) ∧
    (x.updateRecvAck sn).sendIndex = x.sendIndex - covered sn x.que ∧
    (x.updateRecvAck sn).unsent = x.unsent := by
  have hc := (covered_le_iff hx sn).mpr h
  have hq : (x.updateRecvAck sn).que = x.que.drop (covered sn x.que) := popAcked_que _ _ _
  have hi : (x.updateRecvAck sn).sendIndex = x.sendIndex - covered sn x.que := popAcked_index hc
  refine ⟨hq,hi,?_⟩
  rw [unsent, hq, hi, List.drop_drop, Nat.add_sub_cancel' hc]
  rfl

theorem Valid.new : new.Valid := ⟨Nat.le_refl 0,by simp [Xfer.new],by simp [Xfer.new]⟩

/-- Validity looks at three fields only. -/
lemma Valid.congr {x y : Xfer} (hx : x.Valid) (hq : y.que = x.que) (hi : y.sendIndex ≤ x.que.length)
    (ht : y.tailSn = x.tailSn) : y.Valid :=
  ⟨hq ▸ hi,hq ▸ hx.ordered,by rw [hq, ht]; exact hx.bounded⟩

theorem Valid.addQos1Json {x : Xfer} (hx : x.Valid) (typ : PacketType) (body : Except Error String)
    (msgId : Option ℤ) : ((addQos1Json typ body msgId).run x).2.Valid := by
  cases body with
  | error e =>
    rw [addQos1Json_error]
    exact hx.congr (fillAck_que _ _) (by simpa using hx.index) (fillAck_tailSn _ _)
  | ok text =>
    rw [addQos1Json_ok]
    refine ⟨?_,?_,?_⟩
    · simpa using Nat.le_succ_of_le hx.index
    · simp only [List.map_append, List.pairwise_append, List.map_cons, List.map_nil]
      refine ⟨hx.ordered,List.pairwise_singleton _ _,?_⟩
      intro a ha b hb
      obtain ⟨e,he,rfl⟩ := List.mem_map.mp ha
      rw [List.mem_singleton.mp hb]
      have := hx.bounded e he
      omega
    · intro e he
      rcases List.mem_append.mp he with he | he
      · have := hx.bounded e he
        simp only
        omega
      · rw [List.mem_singleton.mp he]

theorem Valid.updateRecvSn {x : Xfer} (hx : x.Valid) (sn : ℤ) : (x.updateRecvSn sn).Valid :=
  hx.congr (updateRecvSn_que _ _) (by simpa using hx.index) (updateRecvSn_tailSn _ _)

theorem Valid.updateRecvAck {x : Xfer} (hx : x.Valid) {sn : ℤ} (h : x.AckBelow sn) :
    (x.updateRecvAck sn).Valid := by
  obtain ⟨hq,hi,-⟩ := updateRecvAck_window hx h
  refine ⟨?_,?_,?_⟩
  · rw [hq, hi, List.length_drop]
    have := hx.index
    omega
  · rw [hq, List.map_drop]
    exact hx.ordered.sublist (List.drop_sublist _ _)
  · intro e he
    rw [hq] at he
    exact hx.bounded e (List.mem_of_mem_drop he)

lemma checkSendAck_fields (c : Conn) (x : Xfer) :
    (checkSendAck.run (c,x)).2.2.que = x.que ∧
    (checkSendAck.run (c,x)).2.2.sendIndex = x.sendIndex ∧
    (checkSendAck.run (c,x)).2.2.tailSn = x.tailSn ∧
    (checkSendAck.run (c,x)).2.2.recvSn = x.recvSn := by
  by_cases h : x.sentAckSn < x.recvSn
  · rcases hs : (Conn.sendPacket (Packet.ackOnly x.recvSn)).run c with ⟨r,c'⟩
    cases r <;> simp [checkSendAck, h, hs]
  · simp [checkSendAck, h]

/-- What a flush changes: the index moves by the number of packets that were sent from the
queue, and the rest of the queue's state stays. -/
theorem flushXfer_fields (c : Conn) (x : Xfer) :
    (flushXfer.run (c,x)).2.2.que = x.que ∧
    (flushXfer.run (c,x)).2.2.sendIndex = x.sendIndex + (sendAll (x.unsent.map (·.2)) c).2.2 ∧
    (flushXfer.run (c,x)).2.2.tailSn = x.tailSn ∧
    (flushXfer.run (c,x)).2.2.recvSn = x.recvSn := by
  have hq := flushXferQue_eq c x
  cases hr : (sendAll (x.unsent.map (·.2)) c).1 with
  | error e =>
    rw [hr] at hq
    rw [flushXfer, Prog.run_bind_error hq]
    exact ⟨rfl,rfl,rfl,rfl⟩
  | ok _ =>
    rw [hr] at hq
    rw [flushXfer, Prog.run_bind_ok hq, flushXferAck_eq_checkSendAck]
    exact checkSendAck_fields _ _

lemma sendAll_unsent_le {x : Xfer} (hx : x.sendIndex ≤ x.que.length) (c : Conn) :
    x.sendIndex + (sendAll (x.unsent.map (·.2)) c).2.2 ≤ x.que.length := by
  have hn := sendAll_count_le (x.unsent.map (·.2)) c
  simp only [List.length_map, unsent, List.length_drop] at hn
  simp only [unsent]
  omega

theorem Valid.flushXfer {x : Xfer} (hx : x.Valid) (c : Conn) : (flushXfer.run (c,x)).2.2.Valid := by
  obtain ⟨hq,hi,ht,-⟩ := flushXfer_fields c x
  exact hx.congr hq (hi ▸ sendAll_unsent_le hx.index c) ht

theorem Valid.sendQos0 {x : Xfer} (hx : x.Valid) (typ : PacketType) (body : Except Error String)
    (c : Conn) : ((sendQos0 typ body).run (c,x)).2.2.Valid := by
  have hv := hx.flushXfer c
  rcases hf : Xfer.flushXfer.run (c,x) with ⟨r,c',x'⟩
  rw [hf] at hv
  have hf' : Xfer.flush.run (c,x) = (r,(c',x')) := (flush_eq_flushXfer _).trans hf
  cases r with
  | error e => rw [Xfer.sendQos0, Prog.run_bind_error hf']; exact hv
  | ok _ =>
    rw [Xfer.sendQos0, Prog.run_bind_ok hf']
    cases body with
    | error e => exact hv
    | ok text =>
      have hx' : x'.tailSn ≤ x'.tailSn + 1 := by omega
      refine ⟨?_,?_,?_⟩
      · simpa [onXfer, onConn, Prog.run_bind, Except.mapError] using hv.index
      · simpa [onXfer, onConn, Prog.run_bind, Except.mapError] using hv.ordered
      · intro e he
        exact (hv.bounded e (by simpa [onXfer, onConn, Prog.run_bind, Except.mapError] using he)).trans hx'

/-- The packets that go out when every write succeeds. -/
def flushed (x : Xfer) : List Packet :=
  (flushXfer.run (Conn.fresh fun _ => .sent,x)).2.1.sent

/-- Requests queued one after the other. -/
def addAll (adds : List (PacketType × String × Option ℤ)) (x : Xfer) : Xfer :=
  adds.foldl (fun x a => ((addQos1Json a.1 (.ok a.2.1) a.2.2).run x).2) x

/-- What an acknowledgement must not do to the send position: the index does not underflow, it
stays within the queue, and the next flush sends whatever is added from then on. -/
structure AckSafe (x : Xfer) (sn : ℤ) : Prop where
  noUnderflow : (x.updateRecvAckChecked sn).isSome
  index : (x.updateRecvAck sn).sendIndex ≤ (x.updateRecvAck sn).que.length
  yields : ∀ adds, (((x.updateRecvAck sn).addAll adds).que.drop
    (x.updateRecvAck sn).que.length).map (·.2) <:+: ((x.updateRecvAck sn).addAll adds).flushed

lemma sendAll_allSent (ps : List Packet) (c : Conn) (hc : c.answers = fun _ => .sent) :
    (sendAll ps c).1 = .ok () ∧ (sendAll ps c).2.2 = ps.length := by
  induction ps generalizing c with
  | nil => exact ⟨rfl,rfl⟩
  | cons p ps ih =>
    have ha : c.answer = .sent := by simp [Conn.answer, hc]
    obtain ⟨hok,-⟩ := Conn.sendPacket_sent (p := p) ha
    have hc' := (Conn.sendPacket_answers p c).trans hc
    rcases hs : (Conn.sendPacket p).run c with ⟨r,c'⟩
    rw [hs] at hok hc'
    obtain rfl : r = .ok () := hok
    obtain ⟨h1,h2⟩ := ih c' hc'
    simp only [sendAll, hs, h1, h2, List.length_cons, and_self]

lemma checkSendAck_sent (c : Conn) (x : Xfer) :
    ∃ acks : List Packet, (∀ p ∈ acks, p = Packet.ackOnly x.recvSn) ∧
      (checkSendAck.run (c,x)).2.1.sent = c.sent ++ acks := by
  by_cases h : x.sentAckSn < x.recvSn
  · by_cases ha : c.answer = .sent
    · refine ⟨[Packet.ackOnly x.recvSn],by simp,?_⟩
      have hp := (Conn.sendPacket_sent (p := Packet.ackOnly x.recvSn) ha).2
      rcases hs : (Conn.sendPacket (Packet.ackOnly x.recvSn)).run c with ⟨r,c'⟩
      rw [hs] at hp
      cases r <;> simpa [checkSendAck, h, hs] using hp
    · refine ⟨[],by simp,?_⟩
      have hp := (Conn.sendPacket_unsent (p := Packet.ackOnly x.recvSn) ha).2
      rcases hs : (Conn.sendPacket (Packet.ackOnly x.recvSn)).run c with ⟨r,c'⟩
      rw [hs] at hp
      cases r <;> simpa [checkSendAck, h, hs] using hp
  · exact ⟨[],by simp,by simp [checkSendAck, h]⟩

/-- What a flush writes: the beginning of what is unsent, then perhaps an acknowledgement. -/
theorem flushXfer_sent (c : Conn) (x : Xfer) :
    ∃ acks : List Packet, (∀ p ∈ acks, p = Packet.ackOnly x.recvSn) ∧
      (flushXfer.run (c,x)).2.1.sent =
        c.sent ++ (x.unsent.map (·.2)).take (sendAll (x.unsent.map (·.2)) c).2.2 ++ acks := by
  have hq := flushXferQue_eq c x
  have hs := sendAll_sent (x.unsent.map (·.2)) c
  cases hr : (sendAll (x.unsent.map (·.2)) c).1 with
  | error e =>
    rw [hr] at hq
    rw [flushXfer, Prog.run_bind_error hq]
    exact ⟨[],by simp,by simpa using hs⟩
  | ok _ =>
    rw [hr] at hq
    rw [flushXfer, Prog.run_bind_ok hq, flushXferAck_eq_checkSendAck, ← hs]
    generalize sendAll (x.unsent.map (·.2)) c = r
    exact checkSendAck_sent r.2.1 { x with sendIndex := x.sendIndex + r.2.2 }

/-- A flush that returns `Ok` has written everything. -/
theorem flushXfer_ok {c : Conn} {x : Xfer} (h : (flushXfer.run (c,x)).1 = .ok ()) :
    (sendAll (x.unsent.map (·.2)) c).2.2 = (x.unsent.map (·.2)).length := by
  have hq := flushXferQue_eq c x
  cases hr : (sendAll (x.unsent.map (·.2)) c).1 with
  | error e =>
    rw [hr] at hq
    rw [flushXfer, Prog.run_bind_error hq] at h
    cases h
  | ok _ => exact (sendAll_ok_iff _ _).mp hr

/-- When every write succeeds, a flush sends all that is unsent. -/
theorem unsent_prefix_flushed (x : Xfer) : x.unsent.map (·.2) <+: x.flushed := by
  obtain ⟨-,hn⟩ := sendAll_allSent (x.unsent.map (·.2)) (Conn.fresh fun _ => .sent) rfl
  obtain ⟨acks,-,hs⟩ := flushXfer_sent (Conn.fresh fun _ => .sent) x
  rw [hn, List.take_length, Conn.fresh_sent, List.nil_append] at hs
  exact ⟨acks,hs.symm⟩

lemma addAll_que (adds : List (PacketType × String × Option ℤ)) (x : Xfer) :
    x.que <+: (x.addAll adds).que ∧ (x.addAll adds).sendIndex = x.sendIndex := by
  induction adds generalizing x with
  | nil => exact ⟨List.prefix_refl _,rfl⟩
  | cons a adds ih =>
    obtain ⟨hq,hi⟩ := ih ((addQos1Json a.1 (.ok a.2.1) a.2.2).run x).2
    have ha := addQos1Json_ok a.1 a.2.1 a.2.2 x
    refine ⟨List.IsPrefix.trans ?_ hq,hi.trans ?_⟩
    · rw [ha]; exact List.prefix_append _ _
    · rw [ha]; exact fillAck_sendIndex _ _

/-- While the index is within the queue, what is added comes after it. -/
theorem yields_of_index {x : Xfer} (hx : x.sendIndex ≤ x.que.length)
    (adds : List (PacketType × String × Option ℤ)) :
    ((x.addAll adds).que.drop x.que.length).map (·.2) <:+: (x.addAll adds).flushed := by
  have hs : (x.addAll adds).que.drop x.que.length <:+ (x.addAll adds).unsent := by
    have hd : x.que.length = (x.addAll adds).sendIndex + (x.que.length - x.sendIndex) := by
      rw [(addAll_que adds x).2]
      omega
    rw [hd, ← List.drop_drop]
    exact List.drop_suffix _ _
  exact (hs.map (·.2)).isInfix.trans (unsent_prefix_flushed _).isInfix

theorem ackSafe_iff {x : Xfer} (hx : x.Valid) (sn : ℤ) : x.AckSafe sn ↔ x.AckBelow sn := by
  constructor
  · intro h
    exact (covered_le_iff hx sn).mp ((updateRecvAckChecked_isSome x sn).mp h.noUnderflow)
  · intro h
    have hv := hx.updateRecvAck h
    refine ⟨?_,hv.index,yields_of_index hv.index⟩
    exact (updateRecvAckChecked_isSome x sn).mpr ((covered_le_iff hx sn).mpr h)

end Xfer

/-- What can happen to a transfer queue. A write may fail at any packet of a flush, and a body
may fail to serialize. -/
inductive XferOp
  | addQos1Json (typ : PacketType) (body : Except Error String) (msgId : Option ℤ)
  | flushXfer (answers : ℕ → SendResult)
  | flush (answers : ℕ → SendResult)
  | sendPush0 (body : Except Error String) (answers : ℕ → SendResult)
  | updateRecvSn (sn : ℤ)
  | updateRecvAck (sn : ℤ)

namespace XferOp

def apply (x : Xfer) : XferOp → Xfer
  | addQos1Json typ body msgId => ((Xfer.addQos1Json typ body msgId).run x).2
  | flushXfer answers => (Xfer.flushXfer.run (Conn.fresh answers,x)).2.2
  | flush answers => (Xfer.flush.run (Conn.fresh answers,x)).2.2
  | sendPush0 body answers => ((Xfer.sendPush0 body).run (Conn.fresh answers,x)).2.2
  | updateRecvSn sn => x.updateRecvSn sn
  | updateRecvAck sn => x.updateRecvAck sn

/-- `P` of the queue and the acknowledgement, where the operation is one. -/
def AtAck (P : Xfer → ℤ → Prop) (x : Xfer) : XferOp → Prop
  | updateRecvAck sn => P x sn
  | _ => True

/-- One operation: only an acknowledgement that reaches past the index can break the queue. -/
lemma apply_valid {x : Xfer} {op : XferOp} (hx : x.Valid) (h : op.AtAck Xfer.AckBelow x) :
    (apply x op).Valid := by
  cases op with
  | addQos1Json typ body msgId => exact hx.addQos1Json typ body msgId
  | flushXfer answers => exact hx.flushXfer _
  | flush answers =>
    rw [apply, Xfer.flush_eq_flushXfer]
    exact hx.flushXfer _
  | sendPush0 body answers => exact hx.sendQos0 .push0 body _
  | updateRecvSn sn => exact hx.updateRecvSn sn
  | updateRecvAck sn => exact hx.updateRecvAck h

open Machine

/-- Whole runs: every acknowledgement is harmless exactly when each of them, where it comes,
stays below what is unsent. -/
theorem everyAck_safe_iff (ops : List XferOp) :
    EveryStep apply (fun x op => op.AtAck Xfer.AckSafe x) Xfer.new ops ↔
      EveryStep apply (fun x op => op.AtAck Xfer.AckBelow x) Xfer.new ops := by
  refine everyStep_iff (I := Xfer.Valid) ?_ ?_ Xfer.Valid.new ops
  · intro x op hx h
    refine ⟨apply_valid hx h,?_⟩
    cases op with
    | updateRecvAck sn => exact (Xfer.ackSafe_iff hx sn).mpr h
    | _ => trivial
  · intro x op hx h hq
    cases op with
    | updateRecvAck sn => exact h ((Xfer.ackSafe_iff hx sn).mp hq)
    | _ => exact h trivial

/-- A request was queued, its write failed, and the peer acknowledges it all the same. -/
theorem ack_of_failed_write_unsafe :
    ¬ (run apply Xfer.new
        [.addQos1Json .request (.ok "x") none,.flushXfer fun _ => .failed]).AckSafe 1 := by
  intro h
  exact absurd h.noUnderflow (by decide)

end XferOp
end VvClient
