import VvClient.Client.Wire

/-! The acknowledgements that are written on one connection. They are marked as sent in two ways:
inside a queued packet when it is queued, and alone when it was sent. -/
namespace VvClient

open Machine

/-- What a run is made of here. Requests take the acknowledgement that is due. -/
inductive AckOp
  | updateRecvSn (sn : ℤ)
  | addQos1Json (typ : PacketType) (body : Except Error String)
  | updateRecvAck (behind : ℕ)
  | flushXfer (answers : ℕ → SendResult)

def AckOp.toWire : AckOp → WireOp
  | updateRecvSn sn => .updateRecvSn sn
  | addQos1Json typ body => .addQos1Json typ body none
  | updateRecvAck behind => .updateRecvAck behind
  | flushXfer answers => .flushXfer answers

namespace Wire

def ackStep (s : Wire) (op : AckOp) : Wire := s.step op.toWire

/-- The acknowledgements that were sent successfully. -/
def sentAcks (s : Wire) : List ℤ := s.conn.sent.filterMap Packet.ack

/-- The acknowledgements in the packets that wait. -/
def waitingAcks (s : Wire) : List ℤ := (s.xfer.unsent.map Prod.snd).filterMap Packet.ack

/-- The acknowledgements on the wire increase, each is a number that was received, and after a flush
that returned `Ok` the greatest of them is the greatest number received. -/
structure AcksSound (s : Wire) : Prop where
  increasing : s.sentAcks.Pairwise (· < ·)
  received : ∀ a ∈ s.sentAcks, a ∈ s.received
  complete : s.flushed = true → 0 < s.xfer.recvSn → IsGreatest {a | a ∈ s.sentAcks} s.xfer.recvSn

/-- No body fails to serialize while an acknowledgement is due. -/
def KeepsAck (s : Wire) : AckOp → Prop
  | .addQos1Json _ (.error _) => s.xfer.recvSn ≤ s.xfer.sentAckSn
  | _ => True

end Wire

/-- The acknowledgements of a wire and its waiting packets: what is marked as sent is the last of
them. -/
structure AckBook (acks : List ℤ) (sentAckSn recvSn : ℤ) (received : List ℤ) : Prop where
  increasing : acks.Pairwise (· < ·)
  le : ∀ a ∈ acks, a ≤ sentAckSn
  known : ∀ a ∈ acks, a ∈ received
  last : sentAckSn = 0 ∨ sentAckSn ∈ acks
  due : sentAckSn ≤ recvSn
  nonneg : 0 ≤ sentAckSn
  greatest : recvSn = 0 ∨ recvSn ∈ received

namespace AckBook

variable {acks : List ℤ} {sentAckSn recvSn : ℤ} {received : List ℤ}

/-- The acknowledgement that is due is put behind the others. -/
lemma take (h : AckBook acks sentAckSn recvSn received) (hdue : sentAckSn < recvSn) :
    AckBook (acks ++ [recvSn]) recvSn recvSn received := by
  have hpos := h.nonneg
  refine ⟨?_,?_,?_,?_,le_refl _,by omega,h.greatest⟩
  · rw [List.pairwise_append]
    refine ⟨h.increasing,List.pairwise_singleton _ _,fun a ha b hb => ?_⟩
    rw [List.mem_singleton.mp hb]
    have := h.le a ha
    omega
  · intro a ha
    rcases List.mem_append.mp ha with ha | ha
    · have := h.le a ha
      omega
    · exact le_of_eq (List.mem_singleton.mp ha)
  · intro a ha
    rcases List.mem_append.mp ha with ha | ha
    · exact h.known a ha
    · rw [List.mem_singleton.mp ha]
      exact h.greatest.resolve_left (by omega)
  · exact Or.inr (List.mem_append_right _ (List.mem_singleton_self _))

lemma receive (h : AckBook acks sentAckSn recvSn received) (sn : ℤ) :
    AckBook acks sentAckSn (max recvSn sn) (received ++ [sn]) := by
  refine ⟨h.increasing,h.le,fun a ha => List.mem_append_left _ (h.known a ha),h.last,
    le_max_of_le_left h.due,h.nonneg,?_⟩
  rcases le_total sn recvSn with hle | hle
  · rw [max_eq_left hle]
    exact h.greatest.imp_right fun hmem => List.mem_append_left _ hmem
  · rw [max_eq_right hle]
    exact Or.inr (List.mem_append_right _ (List.mem_singleton_self sn))

end AckBook

namespace Wire

structure Marked (s : Wire) : Prop where
  inv : s.Inv
  book : AckBook (s.sentAcks ++ s.waitingAcks) s.xfer.sentAckSn s.xfer.recvSn s.received
  flushed : s.flushed = true → s.xfer.unsent = [] ∧ s.xfer.sentAckSn = s.xfer.recvSn

lemma marked_new : new.Marked where
  inv := inv_new
  book := by
    refine ⟨List.Pairwise.nil,?_,?_,Or.inl rfl,le_refl 0,le_refl 0,Or.inl rfl⟩ <;>
      simp [sentAcks, waitingAcks, new, Xfer.unsent, Xfer.new]
  flushed h := absurd h (by simp [new])

/-- What writing alone the acknowledgement that is due does. -/
lemma checkSendAck_cases (c : Conn) (x : Xfer) :
    (x.recvSn ≤ x.sentAckSn ∧ Xfer.checkSendAck.run (c,x) = (.ok (),(c,x))) ∨
    (x.sentAckSn < x.recvSn ∧ (Xfer.checkSendAck.run (c,x)).1 = .ok () ∧
      (Xfer.checkSendAck.run (c,x)).2.1.sent = c.sent ++ [Packet.ackOnly x.recvSn] ∧
      (Xfer.checkSendAck.run (c,x)).2.2 = { x with sentAckSn := x.recvSn }) ∨
    ((Xfer.checkSendAck.run (c,x)).1.isOk = false ∧
      (Xfer.checkSendAck.run (c,x)).2.1.sent = c.sent ∧ (Xfer.checkSendAck.run (c,x)).2.2 = x) := by
  by_cases h : x.sentAckSn < x.recvSn
  · refine Or.inr ?_
    rcases hs : (Conn.sendPacket (Packet.ackOnly x.recvSn)).run c with ⟨r,c'⟩
    by_cases ha : c.answer = .sent
    · obtain ⟨hok,hsent⟩ := Conn.sendPacket_sent (p := Packet.ackOnly x.recvSn) ha
      rw [hs] at hok hsent
      obtain rfl : r = .ok () := hok
      exact Or.inl ⟨h,by simp [Xfer.checkSendAck, h, hs],by simpa [Xfer.checkSendAck, h, hs] using hsent,
        by simp [Xfer.checkSendAck, h, hs]⟩
    · obtain ⟨⟨e,he⟩,hsent⟩ := Conn.sendPacket_unsent (p := Packet.ackOnly x.recvSn) ha
      rw [hs] at he hsent
      obtain rfl : r = .error e := he
      exact Or.inr ⟨by simp [Xfer.checkSendAck, h, hs, Except.isOk, Except.toBool],
        by simpa [Xfer.checkSendAck, h, hs] using hsent,by simp [Xfer.checkSendAck, h, hs]⟩
  · exact Or.inl ⟨Int.not_lt.mp h,by simp [Xfer.checkSendAck, h]⟩

/-- The acknowledgements on a wire, and behind them those in the packets that wait. -/
def ackTrail (c : Conn) (x : Xfer) : List ℤ :=
  c.sent.filterMap Packet.ack ++ (x.unsent.map Prod.snd).filterMap Packet.ack

/-- A flush moves acknowledgements from the waiting packets to the wire, and writes the one that is
due when nothing waits any more. -/
lemma flushXfer_acks (c : Conn) (x : Xfer) :
    (x.recvSn ≤ x.sentAckSn ∧ (Xfer.flushXfer.run (c,x)).1 = .ok () ∧
      (Xfer.flushXfer.run (c,x)).2.1.sent.filterMap Packet.ack = ackTrail c x ∧
      (Xfer.flushXfer.run (c,x)).2.2.sentAckSn = x.sentAckSn) ∨
    (x.sentAckSn < x.recvSn ∧ (Xfer.flushXfer.run (c,x)).1 = .ok () ∧
      (Xfer.flushXfer.run (c,x)).2.1.sent.filterMap Packet.ack = ackTrail c x ++ [x.recvSn] ∧
      (Xfer.flushXfer.run (c,x)).2.2.sentAckSn = x.recvSn) ∨
    ((Xfer.flushXfer.run (c,x)).1.isOk = false ∧
      ackTrail (Xfer.flushXfer.run (c,x)).2.1 (Xfer.flushXfer.run (c,x)).2.2 = ackTrail c x ∧
      (Xfer.flushXfer.run (c,x)).2.2.sentAckSn = x.sentAckSn) := by
  have hq := Xfer.flushXferQue_eq c x
  have hsent := sendAll_sent (x.unsent.map (·.2)) c
  have hok := sendAll_ok_iff (x.unsent.map (·.2)) c
  generalize sendAll (x.unsent.map (·.2)) c = r at hq hsent hok
  obtain ⟨r,c',k⟩ := r
  dsimp only at hq hsent hok
  have hmoved : c'.sent.filterMap Packet.ack ++
      ((x.unsent.drop k).map Prod.snd).filterMap Packet.ack = ackTrail c x := by
    rw [hsent, List.filterMap_append, List.append_assoc, ← List.filterMap_append, List.map_drop,
      List.take_append_drop]
    rfl
  have hunsent : ({ x with sendIndex := x.sendIndex + k } : Xfer).unsent = x.unsent.drop k := by
    simp only [Xfer.unsent, List.drop_drop]
  cases r with
  | error e =>
    rw [Xfer.flushXfer, Prog.run_bind_error hq]
    exact Or.inr (Or.inr ⟨rfl,by rw [ackTrail, hunsent, hmoved],rfl⟩)
  | ok _ =>
    rw [Xfer.flushXfer, Prog.run_bind_ok hq, Xfer.flushXferAck_eq_checkSendAck]
    have hnone : x.unsent.drop k = [] := by
      rw [hok.mp rfl, List.length_map]
      exact List.drop_length
    have hall := hmoved
    rw [hnone, List.map_nil, List.filterMap_nil, List.append_nil] at hall
    rcases checkSendAck_cases c' { x with sendIndex := x.sendIndex + k } with
      ⟨hle,hs⟩ | ⟨hlt,hs,hwire,hx⟩ | ⟨hs,hwire,hx⟩
    · rw [hs]
      exact Or.inl ⟨hle,rfl,hall,rfl⟩
    · refine Or.inr (Or.inl ⟨hlt,hs,?_,by rw [hx]⟩)
      rw [hwire, List.filterMap_append, hall]
      rfl
    · refine Or.inr (Or.inr ⟨hs,?_,by rw [hx]⟩)
      rw [ackTrail, hwire, hx, hunsent, hmoved]

/-- A flush on which every write succeeds returns `Ok`. -/
lemma flushXfer_allSent {c : Conn} (x : Xfer) (hc : c.answers = fun _ => .sent) :
    (Xfer.flushXfer.run (c,x)).1 = .ok () := by
  have hq := Xfer.flushXferQue_eq c x
  obtain ⟨hall,-⟩ := Xfer.sendAll_allSent (x.unsent.map (·.2)) c hc
  have hlast := (sendAll_answers (x.unsent.map (·.2)) c).trans hc
  rw [hall] at hq
  rw [Xfer.flushXfer, Prog.run_bind_ok hq, Xfer.flushXferAck_eq_checkSendAck]
  generalize (sendAll (x.unsent.map (·.2)) c).2 = r at hlast ⊢
  simp only [Xfer.checkSendAck]
  split_ifs
  · simp [Conn.sendPacket, Conn.answer, hlast, SendResult.toExcept]
  · rfl

/-- A flush on which every write succeeds, where no acknowledgement counts as due. -/
lemma flush_all_sent {s : Wire} (hdue : s.xfer.recvSn ≤ s.xfer.sentAckSn) :
    (s.ackStep (.flushXfer fun _ => .sent)).flushed = true ∧
    (∀ a ∈ (s.ackStep (.flushXfer fun _ => .sent)).sentAcks, a ∈ s.sentAcks ++ s.waitingAcks) ∧
    (s.ackStep (.flushXfer fun _ => .sent)).xfer.recvSn = s.xfer.recvSn := by
  have hok := flushXfer_allSent (c := s.conn.answering fun _ => .sent) s.xfer rfl
  refine ⟨congrArg Except.isOk hok,?_,(Xfer.flushXfer_fields _ _).2.2.2⟩
  rcases flushXfer_acks (s.conn.answering fun _ => .sent) s.xfer with
    ⟨-,-,hacks,-⟩ | ⟨hlt,-⟩ | ⟨hfail,-⟩
  · intro a ha
    change a ∈ ackTrail (s.conn.answering fun _ => .sent) s.xfer
    rw [← hacks]
    exact ha
  · omega
  · rw [hok] at hfail
    cases hfail

namespace Marked

variable {s : Wire}

lemma acksSound (h : s.Marked) : s.AcksSound := by
  refine ⟨(List.pairwise_append.mp h.book.increasing).1,
    fun a ha => h.book.known a (List.mem_append_left _ ha),?_⟩
  intro hf hpos
  obtain ⟨hu,hsent⟩ := h.flushed hf
  have hnone : s.waitingAcks = [] := by rw [waitingAcks, hu]; rfl
  refine ⟨?_,fun a ha => ?_⟩
  · rcases h.book.last with hzero | hmem
    · omega
    · rw [hnone, List.append_nil, hsent] at hmem
      exact hmem
  · have := h.book.le a (List.mem_append_left _ ha)
    omega

lemma updateRecvSn (h : s.Marked) (sn : ℤ) : (s.ackStep (.updateRecvSn sn)).Marked := by
  have hw : (s.ackStep (.updateRecvSn sn)).waitingAcks = s.waitingAcks := by
    simp [waitingAcks, ackStep, AckOp.toWire, step, Xfer.unsent]
  have ha : (s.ackStep (.updateRecvSn sn)).xfer.sentAckSn = s.xfer.sentAckSn := by
    simp only [ackStep, AckOp.toWire, step, Xfer.updateRecvSn]
    split <;> rfl
  have hr : (s.ackStep (.updateRecvSn sn)).xfer.recvSn = max s.xfer.recvSn sn :=
    Xfer.updateRecvSn_recvSn _ _
  refine ⟨h.inv.step _,?_,fun hf => absurd hf (by simp [ackStep, AckOp.toWire, step])⟩
  rw [hw, ha, hr]
  exact h.book.receive sn

/-- A queued request takes the acknowledgement that is due. -/
lemma addQos1Json (h : s.Marked) (typ : PacketType) (text : String) :
    (s.ackStep (.addQos1Json typ (.ok text))).Marked := by
  obtain ⟨past,hc⟩ := h.inv.cut
  have hunsent : (s.ackStep (.addQos1Json typ (.ok text))).xfer.unsent =
      s.xfer.unsent ++ [(s.xfer.tailSn+1,s.xfer.nextPacket typ text none)] := by
    simp only [ackStep, AckOp.toWire, step, add, Xfer.addQos1Json_ok, Xfer.unsent,
      Xfer.fillAck_sendIndex]
    exact List.drop_append_of_le_length hc.valid.index
  have hsent : (s.ackStep (.addQos1Json typ (.ok text))).xfer.sentAckSn =
      (Xfer.fillAck none s.xfer).2.sentAckSn := by
    simp [ackStep, AckOp.toWire, step, add, Xfer.addQos1Json_ok]
  have hrecv : (s.ackStep (.addQos1Json typ (.ok text))).xfer.recvSn =
      (Xfer.fillAck none s.xfer).2.recvSn := by
    simp [ackStep, AckOp.toWire, step, add, Xfer.addQos1Json_ok]
  have hall : (s.ackStep (.addQos1Json typ (.ok text))).sentAcks ++
      (s.ackStep (.addQos1Json typ (.ok text))).waitingAcks =
        (s.sentAcks ++ s.waitingAcks) ++ (Xfer.fillAck none s.xfer).1.toList := by
    have hone : ([(s.xfer.tailSn+1,s.xfer.nextPacket typ text none)].map Prod.snd).filterMap
        Packet.ack = (Xfer.fillAck none s.xfer).1.toList := by
      cases hack : (Xfer.fillAck none s.xfer).1 <;> simp [Xfer.nextPacket, hack]
    rw [waitingAcks, hunsent, List.map_append, List.filterMap_append, hone, ← List.append_assoc]
    rfl
  refine ⟨h.inv.step _,?_,fun hf => absurd hf (by simp [ackStep, AckOp.toWire, step, add])⟩
  rw [hall, hsent, hrecv]
  by_cases hdue : s.xfer.sentAckSn < s.xfer.recvSn
  · have hfill : Xfer.fillAck none s.xfer =
        (some s.xfer.recvSn,{ s.xfer with sentAckSn := s.xfer.recvSn }) := by
      simp [Xfer.fillAck, hdue]
    rw [hfill]
    exact h.book.take hdue
  · have hfill : Xfer.fillAck none s.xfer = (none,s.xfer) := by simp [Xfer.fillAck, hdue]
    rw [hfill, Option.toList_none, List.append_nil]
    exact h.book

/-- A body that does not serialize takes an acknowledgement only where one is due. -/
lemma addQos1Json_error (h : s.Marked) (typ : PacketType) (e : Error)
    (hdue : s.xfer.recvSn ≤ s.xfer.sentAckSn) : (s.ackStep (.addQos1Json typ (.error e))).Marked := by
  have hfill : Xfer.fillAck none s.xfer = (none,s.xfer) := by
    simp [Xfer.fillAck, Int.not_lt.mpr hdue]
  have hx : (s.ackStep (.addQos1Json typ (.error e))).xfer = s.xfer := by
    simp only [ackStep, AckOp.toWire, step, add, Xfer.addQos1Json_error, hfill]
  refine ⟨h.inv.step _,?_,fun hf => absurd hf (by simp [ackStep, AckOp.toWire, step, add])⟩
  rw [waitingAcks, hx]
  exact h.book

lemma updateRecvAck (h : s.Marked) (behind : ℕ) : (s.ackStep (.updateRecvAck behind)).Marked := by
  obtain ⟨past,hc⟩ := h.inv.cut
  have hbelow : s.xfer.AckBelow (s.lastSent - behind) := by
    apply hc.ackBelow
    change s.lastSent - behind ≤ s.lastSent
    omega
  refine ⟨h.inv.step _,?_,fun hf => absurd hf (by simp [ackStep, AckOp.toWire, step])⟩
  have hw : (s.ackStep (.updateRecvAck behind)).waitingAcks = s.waitingAcks := by
    simp only [waitingAcks, ackStep, AckOp.toWire, step,
      (Xfer.updateRecvAck_window hc.valid hbelow).2.2]
  rw [hw]
  exact h.book

lemma flushXfer (h : s.Marked) (answers : ℕ → SendResult) :
    (s.ackStep (.flushXfer answers)).Marked := by
  have hinv := h.inv.step (.flushXfer answers)
  have hrecv := (Xfer.flushXfer_fields (s.conn.answering answers) s.xfer).2.2.2
  have hdone := Xfer.unsent_of_flushXfer_ok (c := s.conn.answering answers) (x := s.xfer)
  have hacks := flushXfer_acks (s.conn.answering answers) s.xfer
  have hbook : AckBook (ackTrail (s.conn.answering answers) s.xfer) s.xfer.sentAckSn s.xfer.recvSn
      s.received := h.book
  simp only [ackStep, AckOp.toWire, step, flushBy] at hinv ⊢
  rcases hr : Xfer.flushXfer.run (s.conn.answering answers,s.xfer) with ⟨r,c,x⟩
  rw [hr] at hinv hrecv hdone hacks
  dsimp only at hinv hrecv hdone hacks ⊢
  rw [← hrecv] at hbook hacks
  have hsent : r = .ok () → ackTrail c x = c.sent.filterMap Packet.ack := by
    intro hok
    rw [ackTrail, hdone hok]
    exact List.append_nil _
  refine ⟨hinv,?_,fun hok => ?_⟩
  · change AckBook (ackTrail c x) x.sentAckSn x.recvSn s.received
    rcases hacks with ⟨-,hok,hacks,hmark⟩ | ⟨hlt,hok,hacks,hmark⟩ | ⟨-,hacks,hmark⟩
    · rw [hsent hok, hacks, hmark]
      exact hbook
    · rw [hsent hok, hacks, hmark]
      exact hbook.take hlt
    · rw [hacks, hmark]
      exact hbook
  · rcases hacks with ⟨hle,hok,-,hmark⟩ | ⟨-,hok,-,hmark⟩ | ⟨hfail,-⟩
    · exact ⟨hdone hok,hmark.trans (le_antisymm hbook.due hle)⟩
    · exact ⟨hdone hok,hmark⟩
    · rw [hfail] at hok
      cases hok

lemma step (h : s.Marked) {op : AckOp} (hg : s.KeepsAck op) : (s.ackStep op).Marked := by
  cases op with
  | updateRecvSn sn => exact h.updateRecvSn sn
  | addQos1Json typ body =>
    cases body with
    | ok text => exact h.addQos1Json typ text
    | error e => exact h.addQos1Json_error typ e hg
  | updateRecvAck behind => exact h.updateRecvAck behind
  | flushXfer answers => exact h.flushXfer answers

/-- After a body that did not serialize, a flush that returns `Ok` leaves out the acknowledgement. -/
lemma loses (h : s.Marked) {op : AckOp} (hg : ¬ s.KeepsAck op) :
    ∃ ops, ¬ (Machine.run ackStep (s.ackStep op) ops).AcksSound := by
  cases op with
  | addQos1Json typ body =>
    cases body with
    | ok text => exact absurd trivial hg
    | error e =>
      have hdue : s.xfer.sentAckSn < s.xfer.recvSn := Int.not_le.mp hg
      have hfill : Xfer.fillAck none s.xfer =
          (some s.xfer.recvSn,{ s.xfer with sentAckSn := s.xfer.recvSn }) := by
        simp [Xfer.fillAck, hdue]
      have hx : (s.ackStep (.addQos1Json typ (.error e))).xfer =
          { s.xfer with sentAckSn := s.xfer.recvSn } := by
        simp only [ackStep, AckOp.toWire, Wire.step, add, Xfer.addQos1Json_error, hfill]
      refine ⟨[.flushXfer fun _ => .sent],fun hs => ?_⟩
      obtain ⟨hok,hsub,hrecv⟩ := flush_all_sent (s := s.ackStep (.addQos1Json typ (.error e)))
        (by rw [hx])
      have hnonneg := h.book.nonneg
      have hmem := (hs.complete hok (by rw [run_cons, run_nil, hrecv, hx]; dsimp only; omega)).1
      rw [run_cons, run_nil, hrecv, hx] at hmem
      have hacks : (s.ackStep (.addQos1Json typ (.error e))).waitingAcks = s.waitingAcks := by
        simp only [waitingAcks, hx, Xfer.unsent]
      have hold := hsub _ hmem
      rw [hacks] at hold
      have hle := h.book.le _ hold
      dsimp only at hle
      omega
  | _ => exact absurd trivial hg

end Marked

/-- Acknowledgements are sound, never repeated and never forgotten in the runs in which no body fails
to serialize while one is due. Any other step after such a run may be followed by a flush that
forgets it. -/
theorem acks_exact (ops : List AckOp) :
    (EveryStep ackStep KeepsAck new ops → Always ackStep AcksSound new ops) ∧
    ∀ op, EveryStep ackStep KeepsAck new ops → ¬ KeepsAck (Machine.run ackStep new ops) op →
      ∃ more, ¬ Always ackStep AcksSound new (ops ++ op::more) := by
  have hexact : Exact ackStep KeepsAck AcksSound new :=
    exact_of_invariant (fun _ h => h.acksSound) (fun _ _ h hg => h.step hg)
      (fun _ _ h hg => h.loses hg) marked_new
  exact ⟨hexact.keeps ops,fun op => hexact.loses ops op⟩

/-- The packet with the number 5 is received, a request does not serialize, and the flush that
returns `Ok` has acknowledged nothing. -/
theorem failed_request_forgets_ack : ¬ (Machine.run ackStep new [.updateRecvSn 5,
    .addQos1Json .request (.error (.msg "")),.flushXfer fun _ => .sent]).AcksSound := by
  intro h
  have hnone : 5 ∉ (Machine.run ackStep new [.updateRecvSn 5,
      .addQos1Json .request (.error (.msg "")),.flushXfer fun _ => .sent]).sentAcks := by decide
  exact hnone (h.complete (by decide) (by decide)).1

end Wire
end VvClient
