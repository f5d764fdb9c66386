import VvClient.Client.SendPosition

/-! One connection and its transfer queue: what is queued, what is written in which order, and where
a flush that failed is taken up again. -/
namespace VvClient

open Machine

/-- The same connection, with other answers to the packets to come. -/
def Conn.answering (c : Conn) (answers : ℕ → SendResult) : Conn :=
  ⟨c.log,fun n => answers (n - c.log.length)⟩

structure Wire where
  conn : Conn
  xfer : Xfer
  /-- everything that was queued so far -/
  enqueued : List (ℤ × Packet)
  /-- the numbers that `update_recv_sn` was called with -/
  received : List ℤ
  /-- the packet at which the last flush has failed -/
  failed : Option Packet
  /-- the last operation was a flush that returned `Ok` -/
  flushed : Bool

/-- What is done with the queue of one connection. An acknowledgement is given by how far it lies
behind the last number that was sent. -/
inductive WireOp
  | addQos1Json (typ : PacketType) (body : Except Error String) (msgId : Option ℤ)
  | addQos1Typed (typ : PacketType) (body : Except Error String) (msgId : Option ℤ)
  | sendPush0 (body : Except Error String) (answers : ℕ → SendResult)
  | flushXfer (answers : ℕ → SendResult)
  | flush (answers : ℕ → SendResult)
  | updateRecvSn (sn : ℤ)
  | updateRecvAck (behind : ℕ)

/-- The operations that begin with a flush. -/
def WireOp.flushes : WireOp → Bool
  | sendPush0 _ _ => true
  | flushXfer _ => true
  | flush _ => true
  | _ => false

namespace Wire

def new : Wire := ⟨Conn.fresh fun _ => .sent,Xfer.new,[],[],none,false⟩

/-- The numbers that were sent successfully. -/
def sentSns (s : Wire) : List ℤ := s.conn.sent.filterMap Packet.sn

/-- The last of them, or zero. -/
def lastSent (s : Wire) : ℤ := s.sentSns.getLast?.getD 0

/-- The packets of the queue that were sent successfully. -/
def sentQueued (s : Wire) : List Packet :=
  s.conn.sent.filter fun p => p ∈ s.enqueued.map Prod.snd

/-- The packet at which a flush fails. -/
def failure (r : Except Stop Unit × Conn × Xfer) : Option Packet :=
  if r.1.isOk then none else r.2.1.log.getLast?.map Prod.fst

/-- A request is queued. -/
def add (s : Wire) (m : Prog Xfer Error ℤ) : Wire :=
  { s with xfer := (m.run s.xfer).2
           enqueued := s.enqueued ++ (m.run s.xfer).2.que.drop s.xfer.que.length
           flushed := false }

def flushBy (s : Wire) (m : Prog (Conn × Xfer) Stop Unit) (answers : ℕ → SendResult) : Wire :=
  let r := m.run (s.conn.answering answers,s.xfer)
  { s with conn := r.2.1, xfer := r.2.2, failed := failure r, flushed := r.1.isOk }

def push0 (s : Wire) (body : Except Error String) (answers : ℕ → SendResult) : Wire :=
  let r := (Xfer.sendPush0 body).run (s.conn.answering answers,s.xfer)
  { s with conn := r.2.1, xfer := r.2.2, flushed := false
           failed := failure (Xfer.flush.run (s.conn.answering answers,s.xfer)) }

def step (s : Wire) : WireOp → Wire
  | .addQos1Json typ body msgId => s.add (Xfer.addQos1Json typ body msgId)
  | .addQos1Typed typ body msgId => s.add (Xfer.addQos1Typed typ body msgId)
  | .sendPush0 body answers => s.push0 body answers
  | .flushXfer answers => s.flushBy Xfer.flushXfer answers
  | .flush answers => s.flushBy Xfer.flush answers
  | .updateRecvSn sn =>
    { s with xfer := s.xfer.updateRecvSn sn, received := s.received ++ [sn], flushed := false }
  | .updateRecvAck behind =>
    { s with xfer := s.xfer.updateRecvAck (s.lastSent - behind), flushed := false }

/-- The numbers on the wire increase, and what was sent of the queue is an initial part of what was
queued. -/
structure Fifo (s : Wire) : Prop where
  increasing : s.sentSns.Pairwise (· < ·)
  initial : s.sentQueued <+: s.enqueued.map Prod.snd
  valid : s.xfer.Valid

/-- A flush after one that failed writes first the packet at which it failed. -/
def Resumes (s : Wire) (op : WireOp) : Prop :=
  ∀ p, s.failed = some p → op.flushes = true →
    ∃ r rest, (s.step op).conn.log = s.conn.log ++ (p,r)::rest

/-- The same, where the flush failed at a packet of the queue. -/
def ResumesQueued (s : Wire) (op : WireOp) : Prop :=
  ∀ p, s.failed = some p → p ∈ s.enqueued.map Prod.snd → op.flushes = true →
    ∃ r rest, (s.step op).conn.log = s.conn.log ++ (p,r)::rest

/-- The same, where the flush failed at the acknowledgement, and nothing was queued or received until
the next flush. -/
def ResumesAck (s : Wire) (op : WireOp) : Prop :=
  ∀ p (behinds : List ℕ) op', op.flushes = true → (s.step op).failed = some p →
    p ∉ s.enqueued.map Prod.snd → op'.flushes = true →
      ∃ r rest, (run step (s.step op) (behinds.map .updateRecvAck ++ [op'])).conn.log =
        (s.step op).conn.log ++ (p,r)::rest

end Wire

/-- The cut between the packets of the queue that were sent and those that were not. -/
structure Cut (sent : List Packet) (x : Xfer) (enqueued past : List (ℤ × Packet)) : Prop where
  valid : x.Valid
  split : enqueued = past ++ x.unsent
  keyed : ∀ e ∈ enqueued, e.2.sn = some e.1
  bounds : ∀ e ∈ enqueued, 0 < e.1 ∧ e.1 ≤ x.tailSn
  ordered : (enqueued.map Prod.fst).Pairwise (· < ·)
  increasing : (sent.filterMap Packet.sn).Pairwise (· < ·)
  below : ∀ sn ∈ sent.filterMap Packet.sn, sn ≤ x.tailSn ∧ ∀ e ∈ x.unsent, sn < e.1
  queued : sent.filter (fun p => p ∈ enqueued.map Prod.snd) = past.map Prod.snd
  nonneg : 0 ≤ x.tailSn

namespace Cut

variable {sent : List Packet} {x : Xfer} {enqueued past : List (ℤ × Packet)}

lemma new : Cut [] Xfer.new [] [] where
  valid := Xfer.Valid.new
  split := rfl
  keyed := by simp
  bounds := by simp
  ordered := List.Pairwise.nil
  increasing := List.Pairwise.nil
  below := by simp
  queued := rfl
  nonneg := le_refl 0

/-- The cut looks at three fields of the queue. -/
lemma congr (h : Cut sent x enqueued past) {y : Xfer} (hq : y.que = x.que)
    (hi : y.sendIndex = x.sendIndex) (ht : y.tailSn = x.tailSn) : Cut sent y enqueued past := by
  have hu : y.unsent = x.unsent := by rw [Xfer.unsent, Xfer.unsent, hq, hi]
  refine ⟨h.valid.congr hq (hi ▸ h.valid.index) ht,hu ▸ h.split,h.keyed,ht ▸ h.bounds,h.ordered,
    h.increasing,?_,h.queued,ht ▸ h.nonneg⟩
  rw [hu, ht]
  exact h.below

lemma mem_unsent (h : Cut sent x enqueued past) {e : ℤ × Packet} (he : e ∈ x.unsent) :
    e ∈ enqueued := by
  rw [h.split]
  exact List.mem_append_right _ he

/-- A packet with a number of its own was never queued. -/
lemma not_mem_of_tail_lt (h : Cut sent x enqueued past) {p : Packet} {sn : ℤ} (hp : p.sn = some sn)
    (hlt : x.tailSn < sn) : p ∉ enqueued.map Prod.snd := by
  intro hmem
  obtain ⟨e,he,rfl⟩ := List.mem_map.mp hmem
  have hsn : e.1 = sn := Option.some.inj ((h.keyed e he).symm.trans hp)
  have := (h.bounds e he).2
  omega

/-- A packet without a number was never queued. -/
lemma not_mem_of_none (h : Cut sent x enqueued past) {p : Packet} (hp : p.sn = none) :
    p ∉ enqueued.map Prod.snd := by
  intro hmem
  obtain ⟨e,he,rfl⟩ := List.mem_map.mp hmem
  cases (h.keyed e he).symm.trans hp

/-- A request is queued behind the others. -/
lemma enqueue (h : Cut sent x enqueued past) {y : Xfer} {p : Packet} (hp : p.sn = some (x.tailSn+1))
    (hy : y.Valid) (hq : y.que = x.que ++ [(x.tailSn+1,p)]) (hi : y.sendIndex = x.sendIndex)
    (ht : y.tailSn = x.tailSn+1) : Cut sent y (enqueued ++ [(x.tailSn+1,p)]) past := by
  have hu : y.unsent = x.unsent ++ [(x.tailSn+1,p)] := by
    rw [Xfer.unsent, hq, hi, List.drop_append_of_le_length h.valid.index]
    rfl
  refine ⟨hy,?_,?_,?_,?_,h.increasing,?_,?_,?_⟩
  · rw [hu, h.split, List.append_assoc]
  · intro e he
    rcases List.mem_append.mp he with he | he
    · exact h.keyed e he
    · rw [List.mem_singleton.mp he]
      exact hp
  · intro e he
    rw [ht]
    rcases List.mem_append.mp he with he | he
    · have := h.bounds e he
      omega
    · rw [List.mem_singleton.mp he]
      have := h.nonneg
      dsimp only
      omega
  · rw [List.map_append, List.pairwise_append]
    refine ⟨h.ordered,List.pairwise_singleton _ _,?_⟩
    intro a ha b hb
    obtain ⟨e,he,rfl⟩ := List.mem_map.mp ha
    rw [List.mem_singleton.mp hb]
    have := h.bounds e he
    dsimp only
    omega
  · intro sn hsn
    obtain ⟨hle,hlt⟩ := h.below sn hsn
    rw [hu, ht]
    refine ⟨by omega,?_⟩
    intro e he
    rcases List.mem_append.mp he with he | he
    · exact hlt e he
    · rw [List.mem_singleton.mp he]
      dsimp only
      omega
  · rw [← h.queued]
    apply List.filter_congr
    intro q hsent
    have hne : q ≠ p := by
      rintro rfl
      have := (h.below _ (List.mem_filterMap.mpr ⟨q,hsent,hp⟩)).1
      omega
    simp [hne]
  · have := h.nonneg
    omega

/-- The next `k` packets of the queue are sent. -/
lemma advance (h : Cut sent x enqueued past) {k : ℕ} (hk : x.sendIndex + k ≤ x.que.length) :
    Cut (sent ++ (x.unsent.map Prod.snd).take k) { x with sendIndex := x.sendIndex + k } enqueued
      (past ++ x.unsent.take k) := by
  have hu : ({ x with sendIndex := x.sendIndex + k } : Xfer).unsent = x.unsent.drop k := by
    simp only [Xfer.unsent, List.drop_drop]
  have hsns : ((x.unsent.map Prod.snd).take k).filterMap Packet.sn = (x.unsent.take k).map Prod.fst := by
    rw [← List.map_take, List.filterMap_map, ← List.filterMap_eq_map]
    apply List.filterMap_congr
    intro e he
    exact h.keyed e (h.mem_unsent (List.mem_of_mem_take he))
  have hunsent : (x.unsent.map Prod.fst).Pairwise (· < ·) := by
    have ho := h.ordered
    rw [h.split, List.map_append, List.pairwise_append] at ho
    exact ho.2.1
  refine ⟨h.valid.congr rfl hk rfl,?_,h.keyed,h.bounds,h.ordered,?_,?_,?_,h.nonneg⟩
  · rw [hu, List.append_assoc, List.take_append_drop]
    exact h.split
  · rw [List.filterMap_append, hsns, List.pairwise_append]
    refine ⟨h.increasing,hunsent.sublist ((List.take_sublist _ _).map _),?_⟩
    intro a ha b hb
    obtain ⟨e,he,rfl⟩ := List.mem_map.mp hb
    exact (h.below a ha).2 e (List.mem_of_mem_take he)
  · intro sn hsn
    rw [hu]
    rw [List.filterMap_append, hsns] at hsn
    rcases List.mem_append.mp hsn with hsn | hsn
    · exact ⟨(h.below sn hsn).1,fun e he => (h.below sn hsn).2 e (List.mem_of_mem_drop he)⟩
    · obtain ⟨e,he,rfl⟩ := List.mem_map.mp hsn
      refine ⟨(h.bounds e (h.mem_unsent (List.mem_of_mem_take he))).2,fun e' he' => ?_⟩
      rw [← List.take_append_drop k x.unsent, List.map_append, List.pairwise_append] at hunsent
      exact hunsent.2.2 _ (List.mem_map_of_mem he) _ (List.mem_map_of_mem he')
  · rw [List.filter_append, h.queued, List.map_append, ← List.map_take, List.filter_eq_self.mpr]
    intro p hp
    obtain ⟨e,he,rfl⟩ := List.mem_map.mp hp
    exact decide_eq_true (List.mem_map_of_mem (h.mem_unsent (List.mem_of_mem_take he)))

/-- Packets without a number are sent. -/
lemma sendUnnumbered (h : Cut sent x enqueued past) {ps : List Packet} (hp : ∀ p ∈ ps, p.sn = none) :
    Cut (sent ++ ps) x enqueued past := by
  have hsns : ps.filterMap Packet.sn = [] := List.filterMap_eq_nil_iff.mpr hp
  have hnone : ps.filter (fun p => p ∈ enqueued.map Prod.snd) = [] := by
    rw [List.filter_eq_nil_iff]
    intro p hmem
    rw [decide_eq_true_eq]
    exact h.not_mem_of_none (hp p hmem)
  refine ⟨h.valid,h.split,h.keyed,h.bounds,h.ordered,?_,?_,?_,h.nonneg⟩
  · rw [List.filterMap_append, hsns, List.append_nil]
    exact h.increasing
  · rw [List.filterMap_append, hsns, List.append_nil]
    exact h.below
  · rw [List.filter_append, hnone, List.append_nil]
    exact h.queued

/-- A number is given to a packet that is not queued. -/
lemma skip (h : Cut sent x enqueued past) : Cut sent { x with tailSn := x.tailSn + 1 } enqueued past := by
  refine ⟨⟨h.valid.index,h.valid.ordered,fun e he => ?_⟩,h.split,h.keyed,fun e he => ?_,h.ordered,
    h.increasing,fun sn hsn => ?_,h.queued,?_⟩
  · have := h.valid.bounded e he
    dsimp only
    omega
  · have := h.bounds e he
    dsimp only
    omega
  · have hlt := h.below sn hsn
    refine ⟨?_,hlt.2⟩
    dsimp only
    omega
  · have := h.nonneg
    dsimp only
    omega

/-- The packet with that number is sent, where nothing else waits. -/
lemma sendQos0 (h : Cut sent x enqueued past) (hu : x.unsent = []) {p : Packet}
    (hp : p.sn = some (x.tailSn+1)) :
    Cut (sent ++ [p]) { x with tailSn := x.tailSn + 1 } enqueued past := by
  have hskip := h.skip
  have hone : [p].filterMap Packet.sn = [x.tailSn+1] := by simp [hp]
  have hnone : [p].filter (fun p => p ∈ enqueued.map Prod.snd) = [] := by
    rw [List.filter_eq_nil_iff]
    intro q hq
    rw [List.mem_singleton.mp hq, decide_eq_true_eq]
    exact h.not_mem_of_tail_lt hp (by omega)
  refine ⟨hskip.valid,hskip.split,h.keyed,hskip.bounds,h.ordered,?_,?_,?_,hskip.nonneg⟩
  · rw [List.filterMap_append, hone, List.pairwise_append]
    refine ⟨h.increasing,List.pairwise_singleton _ _,?_⟩
    intro a ha b hb
    have := (h.below a ha).1
    rw [List.mem_singleton.mp hb]
    omega
  · intro sn hsn
    have hempty : ∀ e ∈ ({ x with tailSn := x.tailSn + 1 } : Xfer).unsent, sn < e.1 := by
      intro e he
      change e ∈ x.unsent at he
      rw [hu] at he
      exact absurd he List.not_mem_nil
    refine ⟨?_,hempty⟩
    rw [List.filterMap_append, hone] at hsn
    rcases List.mem_append.mp hsn with hsn | hsn
    · exact (hskip.below sn hsn).1
    · rw [List.mem_singleton.mp hsn]
  · rw [List.filter_append, hnone, List.append_nil]
    exact h.queued

/-- An acknowledgement up to the last number that was sent reaches nothing unsent. -/
lemma ackBelow (h : Cut sent x enqueued past) {sn : ℤ}
    (hsn : sn ≤ (sent.filterMap Packet.sn).getLast?.getD 0) : x.AckBelow sn := by
  intro e he
  cases hl : (sent.filterMap Packet.sn).getLast? with
  | none =>
    rw [hl, Option.getD_none] at hsn
    have := (h.bounds e (h.mem_unsent he)).1
    omega
  | some last =>
    rw [hl, Option.getD_some] at hsn
    have := (h.below last (List.mem_of_getLast? hl)).2 e he
    omega

lemma updateRecvAck (h : Cut sent x enqueued past) {sn : ℤ} (hsn : x.AckBelow sn) :
    Cut sent (x.updateRecvAck sn) enqueued past := by
  have hu := (Xfer.updateRecvAck_window h.valid hsn).2.2
  refine ⟨h.valid.updateRecvAck hsn,hu ▸ h.split,h.keyed,h.bounds,h.ordered,h.increasing,?_,
    h.queued,h.nonneg⟩
  rw [hu]
  exact h.below

end Cut

namespace Xfer

/-- What a list of packets leaves in the log: the first packet of the list comes first. -/
lemma sendAll_log_head (p : Packet) (ps : List Packet) (c : Conn) :
    ∃ r rest, (sendAll (p::ps) c).2.1.log = c.log ++ (p,r)::rest := by
  have hlog : ∀ (ps : List Packet) (c : Conn), c.log <+: (sendAll ps c).2.1.log := by
    intro ps
    induction ps with
    | nil => exact fun c => List.prefix_refl _
    | cons q ps ih =>
      intro c
      unfold sendAll
      split
      · next c' hs =>
        have hc : c'.log = c.log ++ [(q,c.answer)] := (congrArg (fun r => r.2.log) hs).symm
        exact (hc ▸ List.prefix_append _ _).trans (ih c')
      · next c' hs =>
        have hc : c'.log = c.log ++ [(q,c.answer)] := (congrArg (fun r => r.2.log) hs).symm
        exact hc ▸ List.prefix_append _ _
  unfold sendAll
  split
  · next c' hs =>
    have hc : c'.log = c.log ++ [(p,c.answer)] := (congrArg (fun r => r.2.log) hs).symm
    obtain ⟨rest,hrest⟩ := hlog ps c'
    exact ⟨c.answer,rest,by rw [← hrest, hc, List.append_assoc]; rfl⟩
  · next c' hs => exact ⟨c.answer,[],(congrArg (fun r => r.2.log) hs).symm⟩

/-- The packet at which a list fails is the one after those that were sent. -/
lemma sendAll_log_last {ps : List Packet} {c : Conn} {e : Stop} (h : (sendAll ps c).1 = .error e) :
    (sendAll ps c).2.1.log.getLast?.map Prod.fst = ps[(sendAll ps c).2.2]? := by
  induction ps generalizing c with
  | nil => cases h
  | cons p ps ih =>
    unfold sendAll at h ⊢
    split at h
    · next c' hs =>
      dsimp only
      rw [ih h, List.getElem?_cons_succ]
    · next c' hs =>
      have hc : c'.log = c.log ++ [(p,c.answer)] := (congrArg (fun r => r.2.log) hs).symm
      simp only [hc, List.getLast?_concat, Option.map_some, List.getElem?_cons_zero]

lemma checkSendAck_log (c : Conn) (x : Xfer) : c.log <+: (checkSendAck.run (c,x)).2.1.log := by
  by_cases h : x.sentAckSn < x.recvSn
  · rcases hs : (Conn.sendPacket (Packet.ackOnly x.recvSn)).run c with ⟨r,c'⟩
    have hc : c'.log = c.log ++ [(Packet.ackOnly x.recvSn,c.answer)] :=
      (congrArg (fun r => r.2.log) hs).symm
    cases r <;> simp [checkSendAck, h, hs, hc]
  · simp [checkSendAck, h]

/-- The acknowledgement that it owes is the packet at which it fails. -/
lemma checkSendAck_failed {c : Conn} {x : Xfer} (h : (checkSendAck.run (c,x)).1.isOk = false) :
    x.sentAckSn < x.recvSn ∧ (checkSendAck.run (c,x)).2.2 = x ∧
      (checkSendAck.run (c,x)).2.1.log.getLast?.map Prod.fst = some (Packet.ackOnly x.recvSn) := by
  by_cases howed : x.sentAckSn < x.recvSn
  · rcases hs : (Conn.sendPacket (Packet.ackOnly x.recvSn)).run c with ⟨r,c'⟩
    have hc : c'.log = c.log ++ [(Packet.ackOnly x.recvSn,c.answer)] :=
      (congrArg (fun r => r.2.log) hs).symm
    cases r with
    | ok _ => simp [checkSendAck, howed, hs, Except.isOk, Except.toBool] at h
    | error e => simp [checkSendAck, howed, hs, hc]
  · simp [checkSendAck, howed, Except.isOk, Except.toBool] at h

lemma unsent_of_sendAll_ok {c : Conn} {x : Xfer}
    (h : (sendAll (x.unsent.map (·.2)) c).2.2 = (x.unsent.map (·.2)).length) :
    ({ x with sendIndex := x.sendIndex + (sendAll (x.unsent.map (·.2)) c).2.2 } : Xfer).unsent = [] := by
  rw [unsent, h, List.length_map, ← List.drop_drop]
  exact List.drop_eq_nil_of_le (le_refl _)

/-- Everything in the queue was sent, and the packet is the acknowledgement that is still owed. -/
structure AckOwed (x : Xfer) (p : Packet) : Prop where
  unsent : x.unsent = []
  owed : x.sentAckSn < x.recvSn
  packet : p = Packet.ackOnly x.recvSn

/-- A flush failed at this packet: at the first that waits in the queue, or at the acknowledgement. -/
def Stands (x : Xfer) (p : Packet) : Prop := x.AckOwed p ∨ ∃ e, x.unsent.head? = some e ∧ e.2 = p

lemma Stands.at_head {x : Xfer} {p : Packet} (h : x.Stands p) :
    p.sn = none ∨ ∃ e, x.unsent.head? = some e ∧ e.2 = p :=
  h.imp_left fun ha => by rw [ha.packet]; rfl

/-- Where only the acknowledgement is left, a flush writes it first. -/
lemma AckOwed.log_head {x : Xfer} {p : Packet} (h : x.AckOwed p) (c : Conn) :
    ∃ r rest, (flushXfer.run (c,x)).2.1.log = c.log ++ (p,r)::rest := by
  obtain ⟨hu,howed,rfl⟩ := h
  have hq := flushXferQue_eq c x
  rw [hu] at hq
  rcases hs : (Conn.sendPacket (Packet.ackOnly x.recvSn)).run c with ⟨r,c'⟩
  have hc : c'.log = c.log ++ [(Packet.ackOnly x.recvSn,c.answer)] :=
    (congrArg (fun r => r.2.log) hs).symm
  refine ⟨c.answer,[],?_⟩
  rw [flushXfer, Prog.run_bind_ok hq, flushXferAck_eq_checkSendAck]
  cases r <;> simp [checkSendAck, sendAll, howed, hs, hc]

/-- A flush writes the first packet that waits before anything else. -/
lemma flushXfer_log_head {c : Conn} {x : Xfer} {e : ℤ × Packet} {rest : List (ℤ × Packet)}
    (hu : x.unsent = e::rest) : ∃ r rest, (flushXfer.run (c,x)).2.1.log = c.log ++ (e.2,r)::rest := by
  have hq := flushXferQue_eq c x
  obtain ⟨r,tail,hlog⟩ := sendAll_log_head e.2 (rest.map (·.2)) c
  rw [hu, List.map_cons] at hq
  cases hr : (sendAll (e.2::rest.map (·.2)) c).1 with
  | error stop =>
    rw [hr] at hq
    rw [flushXfer, Prog.run_bind_error hq]
    exact ⟨r,tail,hlog⟩
  | ok _ =>
    rw [hr] at hq
    rw [flushXfer, Prog.run_bind_ok hq, flushXferAck_eq_checkSendAck]
    obtain ⟨acks,ha⟩ := checkSendAck_log (sendAll (e.2::rest.map (·.2)) c).2.1 _
    exact ⟨r,tail ++ acks,by rw [← ha, hlog, List.append_assoc]; rfl⟩

/-- A flush fails at the first packet that still waits, or at an acknowledgement. -/
lemma flushXfer_failure {c : Conn} {x : Xfer} {p : Packet}
    (h : Wire.failure (flushXfer.run (c,x)) = some p) : (flushXfer.run (c,x)).2.2.Stands p := by
  have hq := flushXferQue_eq c x
  unfold Wire.failure at h
  split at h
  · cases h
  · next hfail =>
    cases hr : (sendAll (x.unsent.map (·.2)) c).1 with
    | error stop =>
      have hlast := sendAll_log_last hr
      rw [hr] at hq
      rw [flushXfer, Prog.run_bind_error hq] at h ⊢
      rw [hlast] at h
      refine Or.inr ?_
      rw [List.getElem?_map, Option.map_eq_some_iff] at h
      obtain ⟨e,he,rfl⟩ := h
      refine ⟨e,?_,rfl⟩
      rw [List.head?_eq_getElem?, ← he]
      simp only [unsent, List.getElem?_drop, Nat.add_zero]
    | ok _ =>
      rw [hr] at hq
      rw [flushXfer, Prog.run_bind_ok hq, flushXferAck_eq_checkSendAck] at h hfail ⊢
      obtain ⟨howed,hsame,hlast⟩ := checkSendAck_failed (Bool.eq_false_iff.mpr hfail)
      rw [hlast, Option.some.injEq] at h
      rw [hsame]
      exact Or.inl ⟨unsent_of_sendAll_ok ((sendAll_ok_iff _ _).mp hr),howed,h.symm⟩

end Xfer

lemma Cut.flushXfer {c : Conn} {x : Xfer} {enqueued past : List (ℤ × Packet)}
    (h : Cut c.sent x enqueued past) : ∃ past', Cut (Xfer.flushXfer.run (c,x)).2.1.sent
      (Xfer.flushXfer.run (c,x)).2.2 enqueued past' := by
  obtain ⟨hq,hi,ht,-⟩ := Xfer.flushXfer_fields c x
  obtain ⟨acks,hacks,hsent⟩ := Xfer.flushXfer_sent c x
  rw [hsent]
  refine ⟨_,Cut.congr ((h.advance (Xfer.sendAll_unsent_le h.valid.index c)).sendUnnumbered ?_) hq hi ht⟩
  intro p hp
  rw [hacks p hp]
  rfl

/-- A flush that returns `Ok` leaves nothing unsent. -/
lemma Xfer.unsent_of_flushXfer_ok {c : Conn} {x : Xfer} (h : (flushXfer.run (c,x)).1 = .ok ()) :
    (flushXfer.run (c,x)).2.2.unsent = [] := by
  obtain ⟨hq,hi,-⟩ := flushXfer_fields c x
  have hsent := unsent_of_sendAll_ok (flushXfer_ok h)
  rwa [unsent, ← hi, ← hq] at hsent

namespace Xfer

/-- The packet that `send_qos0` writes. -/
def qos0Packet (typ : PacketType) (text : String) (x : Xfer) : Packet :=
  { Packet.qos0 typ text with sn := some (x.tailSn + 1), ack := (fillAck none x).1 }

lemma sendQos0_error {c c' : Conn} {x x' : Xfer} {e : Stop} (h : flush.run (c,x) = (.error e,(c',x')))
    (typ : PacketType) (body : Except Error String) :
    (sendQos0 typ body).run (c,x) = (.error e,(c',x')) := by
  rw [sendQos0, Prog.run_bind_error h]

lemma sendQos0_body_error {c c' : Conn} {x x' : Xfer} (h : flush.run (c,x) = (.ok (),(c',x')))
    (typ : PacketType) (e : Error) :
    (sendQos0 typ (.error e)).run (c,x) = (.error (.err e),(c',x')) := by
  rw [sendQos0, Prog.run_bind_ok h]
  rfl

lemma sendQos0_ok {c c' : Conn} {x x' : Xfer} (h : flush.run (c,x) = (.ok (),(c',x')))
    (typ : PacketType) (text : String) : (sendQos0 typ (.ok text)).run (c,x) =
      (((Conn.sendPacket (x'.qos0Packet typ text)).run c').1,
        (((Conn.sendPacket (x'.qos0Packet typ text)).run c').2,
          { (fillAck none x').2 with tailSn := x'.tailSn + 1 })) := by
  rw [sendQos0, Prog.run_bind_ok h]
  rfl

end Xfer

namespace Wire

/-- What holds in every state: a cut of what was queued, and a failed flush that stands at it. -/
structure Inv (s : Wire) : Prop where
  cut : ∃ past, Cut s.conn.sent s.xfer s.enqueued past
  failed : ∀ p, s.failed = some p →
    p.sn = none ∨ ∃ e, s.xfer.unsent.head? = some e ∧ e.2 = p

/-- A flush that failed stands at its packet. -/
lemma step_stands {s : Wire} {op : WireOp} (ho : op.flushes = true) {p : Packet}
    (hp : (s.step op).failed = some p) : (s.step op).xfer.Stands p := by
  cases op with
  | sendPush0 body answers =>
    have hfail := Xfer.flushXfer_failure (c := s.conn.answering answers) (x := s.xfer) (p := p)
    simp only [← Xfer.flush_eq_flushXfer] at hfail
    simp only [Wire.step, Wire.push0, Xfer.sendPush0] at hp ⊢
    rcases hr : Xfer.flush.run (s.conn.answering answers,s.xfer) with ⟨r,c',x'⟩
    rw [hr] at hp hfail
    cases r with
    | error e =>
      rw [Xfer.sendQos0_error hr]
      exact hfail hp
    | ok _ => simp [failure, Except.isOk, Except.toBool] at hp
  | flushXfer answers => exact Xfer.flushXfer_failure hp
  | flush answers =>
    simp only [Wire.step, flushBy, Xfer.flush_eq_flushXfer] at hp ⊢
    exact Xfer.flushXfer_failure hp
  | _ => cases ho

namespace Inv

variable {s : Wire}

lemma fifo (h : s.Inv) : s.Fifo := by
  obtain ⟨past,hc⟩ := h.cut
  refine ⟨hc.increasing,?_,hc.valid⟩
  rw [sentQueued, hc.queued, hc.split, List.map_append]
  exact List.prefix_append _ _

lemma addQos1Json (h : s.Inv) (typ : PacketType) (body : Except Error String) (msgId : Option ℤ) :
    (s.add (Xfer.addQos1Json typ body msgId)).Inv := by
  obtain ⟨past,hc⟩ := h.cut
  cases body with
  | error e =>
    simp only [add, Xfer.addQos1Json_error, Xfer.fillAck_que, List.drop_length, List.append_nil]
    refine ⟨⟨past,hc.congr (by simp) (by simp) (by simp)⟩,?_⟩
    simpa only [Xfer.unsent, Xfer.fillAck_que, Xfer.fillAck_sendIndex] using h.failed
  | ok text =>
    have hvalid := hc.valid.addQos1Json typ (.ok text) msgId
    simp only [add, Xfer.addQos1Json_ok, List.drop_left] at hvalid ⊢
    refine ⟨⟨past,hc.enqueue rfl hvalid rfl (by simp) rfl⟩,fun p hp => ?_⟩
    refine (h.failed p hp).imp_right ?_
    rintro ⟨e,he,rfl⟩
    refine ⟨e,?_,rfl⟩
    rw [Xfer.unsent, Xfer.fillAck_sendIndex, List.drop_append_of_le_length hc.valid.index,
      List.head?_append]
    change (s.xfer.unsent.head?).or _ = _
    rw [he, Option.some_or]

lemma addQos1Typed (h : s.Inv) (typ : PacketType) (body : Except Error String) (msgId : Option ℤ) :
    (s.add (Xfer.addQos1Typed typ body msgId)).Inv := by
  cases body with
  | error e =>
    simp only [add, Xfer.addQos1Typed_error, List.drop_length, List.append_nil]
    exact ⟨h.cut,h.failed⟩
  | ok text => exact h.addQos1Json typ (.ok text) msgId

lemma flushXfer (h : s.Inv) (answers : ℕ → SendResult) : (s.flushBy Xfer.flushXfer answers).Inv := by
  obtain ⟨past,hc⟩ := h.cut
  exact ⟨Cut.flushXfer (c := s.conn.answering answers) hc,
    fun p hp => (Xfer.flushXfer_failure hp).at_head⟩

/-- The packet outside the queue comes after a flush that has sent everything. -/
lemma push0 (h : s.Inv) (body : Except Error String) (answers : ℕ → SendResult) :
    (s.push0 body answers).Inv := by
  obtain ⟨past,hc⟩ := h.cut
  obtain ⟨past',hf⟩ := Cut.flushXfer (c := s.conn.answering answers) hc
  have hdone := Xfer.unsent_of_flushXfer_ok (c := s.conn.answering answers) (x := s.xfer)
  have hflush := Xfer.flush_eq_flushXfer (s.conn.answering answers,s.xfer)
  refine ⟨?_,fun p hp => (@step_stands s (.sendPush0 body answers) rfl p hp).at_head⟩
  simp only [Wire.push0, Xfer.sendPush0]
  rcases hr : Xfer.flush.run (s.conn.answering answers,s.xfer) with ⟨r,c',x'⟩
  rw [hr] at hflush
  rw [← hflush] at hf hdone
  cases r with
  | error e =>
    rw [Xfer.sendQos0_error hr]
    exact ⟨past',hf⟩
  | ok _ =>
    cases body with
    | error e =>
      rw [Xfer.sendQos0_body_error hr]
      exact ⟨past',hf⟩
    | ok text =>
      rw [Xfer.sendQos0_ok hr]
      by_cases ha : c'.answer = .sent
      · have hcut := hf.sendQos0 (hdone rfl) (p := x'.qos0Packet .push0 text) rfl
        rw [← (Conn.sendPacket_sent ha).2] at hcut
        exact ⟨past',hcut.congr (by simp) (by simp) rfl⟩
      · have hcut := hf.skip
        rw [← (Conn.sendPacket_unsent (p := x'.qos0Packet .push0 text) ha).2] at hcut
        exact ⟨past',hcut.congr (by simp) (by simp) rfl⟩

lemma updateRecvAck (h : s.Inv) (behind : ℕ) : (s.step (.updateRecvAck behind)).Inv := by
  obtain ⟨past,hc⟩ := h.cut
  have hbelow : s.xfer.AckBelow (s.lastSent - behind) := by
    apply hc.ackBelow
    change s.lastSent - behind ≤ s.lastSent
    omega
  refine ⟨⟨past,hc.updateRecvAck hbelow⟩,?_⟩
  simp only [Wire.step, (Xfer.updateRecvAck_window hc.valid hbelow).2.2]
  exact h.failed

lemma step (h : s.Inv) (op : WireOp) : (s.step op).Inv := by
  cases op with
  | addQos1Json typ body msgId => exact h.addQos1Json typ body msgId
  | addQos1Typed typ body msgId => exact h.addQos1Typed typ body msgId
  | sendPush0 body answers => exact h.push0 body answers
  | flushXfer answers => exact h.flushXfer answers
  | flush answers =>
    have hsame : s.step (.flush answers) = s.flushBy Xfer.flushXfer answers := by
      simp only [Wire.step, flushBy, Xfer.flush_eq_flushXfer]
    exact hsame ▸ h.flushXfer answers
  | updateRecvSn sn =>
    obtain ⟨past,hc⟩ := h.cut
    refine ⟨⟨past,hc.congr (by simp [Wire.step]) (by simp [Wire.step]) (by simp [Wire.step])⟩,?_⟩
    simpa only [Wire.step, Xfer.unsent, Xfer.updateRecvSn_que, Xfer.updateRecvSn_sendIndex] using h.failed
  | updateRecvAck behind => exact h.updateRecvAck behind

/-- The flush that each of these operations begins with. -/
lemma log_of_flushes (s : Wire) {op : WireOp} (ho : op.flushes = true) : ∃ answers rest,
    (s.step op).conn.log =
      (Xfer.flushXfer.run (s.conn.answering answers,s.xfer)).2.1.log ++ rest := by
  cases op with
  | sendPush0 body answers =>
    refine ⟨answers,?_⟩
    simp only [Wire.step, Wire.push0, Xfer.sendPush0, ← Xfer.flush_eq_flushXfer]
    rcases hr : Xfer.flush.run (s.conn.answering answers,s.xfer) with ⟨r,c',x'⟩
    cases r with
    | error e =>
      rw [Xfer.sendQos0_error hr]
      exact ⟨[],(List.append_nil _).symm⟩
    | ok _ =>
      cases body with
      | error e =>
        rw [Xfer.sendQos0_body_error hr]
        exact ⟨[],(List.append_nil _).symm⟩
      | ok text =>
        rw [Xfer.sendQos0_ok hr]
        exact ⟨_,rfl⟩
  | flushXfer answers => exact ⟨answers,[],(List.append_nil _).symm⟩
  | flush answers =>
    refine ⟨answers,[],?_⟩
    simp only [Wire.step, flushBy, Xfer.flush_eq_flushXfer, List.append_nil]
  | _ => cases ho

/-- A flush queues nothing. -/
lemma enqueued_of_flushes (s : Wire) {op : WireOp} (ho : op.flushes = true) :
    (s.step op).enqueued = s.enqueued := by
  cases op with
  | sendPush0 body answers => rfl
  | flushXfer answers => rfl
  | flush answers => rfl
  | _ => cases ho

lemma resumes (h : s.Inv) (op : WireOp) : s.ResumesQueued op := by
  intro p hp hmem ho
  obtain ⟨past,hc⟩ := h.cut
  rcases h.failed p hp with hnone | ⟨e,he,rfl⟩
  · exact absurd hmem (hc.not_mem_of_none hnone)
  · obtain ⟨answers,rest,hlog⟩ := log_of_flushes s ho
    obtain ⟨waiting,hu⟩ : ∃ waiting, s.xfer.unsent = e::waiting := by
      cases hu : s.xfer.unsent with
      | nil => simp [hu] at he
      | cons e' waiting =>
        rw [hu, List.head?_cons, Option.some.injEq] at he
        exact ⟨waiting,by rw [he]⟩
    obtain ⟨r,tail,hhead⟩ := Xfer.flushXfer_log_head (c := s.conn.answering answers) hu
    refine ⟨r,tail ++ rest,?_⟩
    rw [hlog, hhead, List.append_assoc]
    rfl

/-- Acknowledgements of the peer leave the owed one to the next flush. -/
lemma ackOwed_acks (h : s.Inv) {p : Packet} (ha : s.xfer.AckOwed p) (behinds : List ℕ) :
    (run Wire.step s (behinds.map .updateRecvAck)).xfer.AckOwed p ∧
      (run Wire.step s (behinds.map .updateRecvAck)).conn = s.conn := by
  induction behinds generalizing s with
  | nil => exact ⟨ha,rfl⟩
  | cons behind behinds ih =>
    obtain ⟨past,hc⟩ := h.cut
    have hbelow : s.xfer.AckBelow (s.lastSent - behind) := by
      intro e he
      rw [ha.unsent] at he
      cases he
    have hstep : (s.step (.updateRecvAck behind)).xfer.AckOwed p :=
      ⟨(Xfer.updateRecvAck_window hc.valid hbelow).2.2.trans ha.unsent,ha.owed,ha.packet⟩
    exact ih (h.updateRecvAck behind) hstep

lemma resumes_ack (h : s.Inv) (op : WireOp) : s.ResumesAck op := by
  intro p behinds op' ho hp hmem ho'
  have hinv := h.step op
  obtain ⟨past,hc⟩ := hinv.cut
  -- a packet at which a flush fails, and which was not queued, is the acknowledgement
  have howed : (s.step op).xfer.AckOwed p := by
    refine (step_stands ho hp).resolve_right ?_
    rintro ⟨e,he,rfl⟩
    have hin : e ∈ (s.step op).enqueued := hc.split ▸ List.mem_append_right _ (List.mem_of_head? he)
    rw [enqueued_of_flushes s ho] at hin
    exact hmem (List.mem_map_of_mem hin)
  obtain ⟨hacks,hconn⟩ := ackOwed_acks hinv howed behinds
  obtain ⟨answers,rest,hlog⟩ := log_of_flushes (run Wire.step (s.step op) (behinds.map .updateRecvAck)) ho'
  obtain ⟨r,tail,hhead⟩ := hacks.log_head
    ((run Wire.step (s.step op) (behinds.map .updateRecvAck)).conn.answering answers)
  refine ⟨r,tail ++ rest,?_⟩
  rw [run_append, run_cons, run_nil, hlog, hhead, hconn, List.append_assoc]
  rfl

end Inv

lemma inv_new : new.Inv := ⟨⟨[],Cut.new⟩,fun p hp => absurd hp (by simp [new])⟩

/-- On one connection the queue is first in, first out, and each packet is sent once: in every run
the numbers on the wire increase, what was sent of the queue is an initial part of what was queued,
and a flush after one that failed at a packet of the queue begins with this packet. After one that
failed at the acknowledgement it begins with that, where nothing was queued or received since. -/
theorem fifo_every_run (ops : List WireOp) :
    Always step Fifo new ops ∧ EveryStep step ResumesQueued new ops ∧ EveryStep step ResumesAck new ops :=
  ⟨always_of_step (fun _ op h => h.step op) (fun _ h => h.fifo) inv_new ops,
    everyStep_of_step (fun _ op h => h.step op) (fun _ op h => h.resumes op) inv_new ops,
    everyStep_of_step (fun _ op h => h.step op) (fun _ op h => h.resumes_ack op) inv_new ops⟩

/-- A flush fails at the acknowledgement, which comes last, and the next flush has a request to send
first. -/
theorem failed_ack_not_resumed : ¬ EveryStep step Resumes new [.updateRecvSn 5,
    .flushXfer fun _ => .failed,.addQos1Json .request (.ok "x") none,.flushXfer fun _ => .sent] := by
  rintro ⟨-,-,-,h,-⟩
  obtain ⟨r,rest,hlog⟩ := h (Packet.ackOnly 5) (by decide) rfl
  have hwritten : ((run step new [.updateRecvSn 5,.flushXfer fun _ => .failed,
      .addQos1Json .request (.ok "x") none,.flushXfer fun _ => .sent]).conn.log.drop 1).map
        Prod.fst = [⟨some 3,some 1,some "x",some 5⟩] := by decide
  have hfirst : (run step new [.updateRecvSn 5,.flushXfer fun _ => .failed,
      .addQos1Json .request (.ok "x") none]).conn.log.length = 1 := by decide
  simp only [run_cons, run_nil] at hwritten hfirst
  rw [hlog, List.drop_append_of_le_length (le_of_eq hfirst.symm), ← hfirst, List.drop_length] at hwritten
  simp [Packet.ackOnly] at hwritten

/-- Two flushes that went alike: they end alike, handed the same packets to the sender with the same
answers, and left the same queue. -/
structure Alike (a b : Except Stop Unit × Conn × Xfer) : Prop where
  outcome : a.1 = b.1
  handed : a.2.1.log = b.2.1.log
  que : a.2.2.que = b.2.2.que
  sendIndex : a.2.2.sendIndex = b.2.2.sendIndex
  tailSn : a.2.2.tailSn = b.2.2.tailSn
  recvSn : a.2.2.recvSn = b.2.2.recvSn
  sentAckSn : a.2.2.sentAckSn = b.2.2.sentAckSn

/-- The same operation, but for the way in which it flushes. -/
inductive Swaps : WireOp → WireOp → Prop
  | same (op : WireOp) : Swaps op op
  | toIter (answers : ℕ → SendResult) : Swaps (.flush answers) (.flushXfer answers)
  | toClosure (answers : ℕ → SendResult) : Swaps (.flushXfer answers) (.flush answers)

lemma step_swaps (s : Wire) {op op' : WireOp} (h : Swaps op op') : s.step op = s.step op' := by
  cases h with
  | same => rfl
  | toIter answers => simp only [step, flushBy, Xfer.flush_eq_flushXfer]
  | toClosure answers => simp only [step, flushBy, Xfer.flush_eq_flushXfer]

lemma run_swaps (s : Wire) {ops ops' : List WireOp} (h : List.Forall₂ Swaps ops ops') :
    run step s ops = run step s ops' := by
  induction h generalizing s with
  | nil => rfl
  | cons hop _ ih => rw [run_cons, run_cons, step_swaps s hop, ih]

/-- The two ways of flushing are interchangeable: from every state of the queue and for all answers of
the sender they go alike, and in a run of the queue each may stand for the other. -/
theorem flushes_interchangeable :
    (∀ (c : Conn) (x : Xfer), Alike (Xfer.flush.run (c,x)) (Xfer.flushXfer.run (c,x))) ∧
    ∀ (s : Wire) (ops ops' : List WireOp), List.Forall₂ Swaps ops ops' →
      run step s ops = run step s ops' := by
  refine ⟨fun c x => ?_,fun s ops ops' h => run_swaps s h⟩
  rw [Xfer.flush_eq_flushXfer]
  exact ⟨rfl,rfl,rfl,rfl,rfl,rfl,rfl⟩

end Wire
end VvClient
