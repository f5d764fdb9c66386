import VvClient.Client.Acks

/-! What an operation on the queue that fails does to the acknowledgement that is owed. It is
remembered by `sent_ack_sn` alone, so it is forgotten where that mark has passed it unwritten. -/
namespace VvClient

open Machine

namespace Wire

/-- What was received last is acknowledged neither on the wire nor in a packet that waits. -/
structure Owed (s : Wire) : Prop where
  received : 0 < s.xfer.recvSn
  unsent : s.xfer.recvSn ∉ s.sentAcks
  unqueued : s.xfer.recvSn ∉ s.waitingAcks

/-- The call returns an error. -/
def fails (s : Wire) : WireOp → Bool
  | .addQos1Json typ body msgId => !((Xfer.addQos1Json typ body msgId).run s.xfer).1.isOk
  | .addQos1Typed typ body msgId => !((Xfer.addQos1Typed typ body msgId).run s.xfer).1.isOk
  | .sendPush0 body answers =>
    !((Xfer.sendPush0 body).run (s.conn.answering answers,s.xfer)).1.isOk
  | .flushXfer answers => !(Xfer.flushXfer.run (s.conn.answering answers,s.xfer)).1.isOk
  | .flush answers => !(Xfer.flush.run (s.conn.answering answers,s.xfer)).1.isOk
  | .updateRecvSn _ => false
  | .updateRecvAck _ => false

end Wire

def WireOp.isFlush : WireOp → Bool
  | flushXfer _ => true
  | flush _ => true
  | _ => false

namespace Wire

/-- After the call, once a flush returns `Ok`, the acknowledgement that was owed is on the wire, and
`add_qos1_json` has left the queue as it was. -/
structure Remembers (s : Wire) (op : WireOp) : Prop where
  acked : s.Owed → ∀ tries : List WireOp, (∀ o ∈ tries, o.isFlush = true) →
    (run step (s.step op) tries).flushed = true →
      s.xfer.recvSn ∈ (run step (s.step op) tries).sentAcks
  unchanged : ∀ typ body msgId, op = .addQos1Json typ body msgId → (s.step op).xfer = s.xfer

/-- A request that does not serialize takes no acknowledgement. -/
def KeepsMark (x : Xfer) : WireOp → Prop
  | .addQos1Json _ (.error _) none => x.recvSn ≤ x.sentAckSn
  | .addQos1Json _ (.error _) (some ack) => ack ≤ x.sentAckSn
  | _ => True

/-- What is owed counts as due, and the call leaves it so. -/
structure CanRemember (s : Wire) (op : WireOp) : Prop where
  due : s.Owed → s.xfer.sentAckSn < s.xfer.recvSn
  mark : KeepsMark s.xfer op

/-- What was received last is acknowledged, in a packet that waits at least, or counts as due. -/
def Kept (c : Conn) (x : Xfer) : Prop := x.recvSn ∈ ackTrail c x ∨ x.sentAckSn < x.recvSn

lemma owed_iff {s : Wire} :
    s.Owed ↔ 0 < s.xfer.recvSn ∧ s.xfer.recvSn ∉ ackTrail s.conn s.xfer := by
  constructor
  · rintro ⟨hpos,hsent,hqueued⟩
    refine ⟨hpos,fun hmem => ?_⟩
    rcases List.mem_append.mp hmem with h | h
    · exact hsent h
    · exact hqueued h
  · rintro ⟨hpos,hnot⟩
    exact ⟨hpos,fun h => hnot (List.mem_append_left _ h),fun h => hnot (List.mem_append_right _ h)⟩

/-- A flush keeps what is kept, and one that returns `Ok` has written it. -/
lemma flushXfer_kept {c : Conn} {x : Xfer} (h : Kept c x) :
    Kept (Xfer.flushXfer.run (c,x)).2.1 (Xfer.flushXfer.run (c,x)).2.2 ∧
    ((Xfer.flushXfer.run (c,x)).1.isOk = true →
      x.recvSn ∈ (Xfer.flushXfer.run (c,x)).2.1.sent.filterMap Packet.ack) := by
  have hrecv := (Xfer.flushXfer_fields c x).2.2.2
  unfold Kept
  rw [hrecv]
  rcases flushXfer_acks c x with ⟨hle,hok,hacks,hmark⟩ | ⟨-,hok,hacks,hmark⟩ | ⟨hfail,hacks,hmark⟩
  · have hmem : x.recvSn ∈ (Xfer.flushXfer.run (c,x)).2.1.sent.filterMap Packet.ack := by
      rw [hacks]
      exact h.resolve_right (not_lt.mpr hle)
    exact ⟨Or.inl (List.mem_append_left _ hmem),fun _ => hmem⟩
  · have hmem : x.recvSn ∈ (Xfer.flushXfer.run (c,x)).2.1.sent.filterMap Packet.ack := by
      rw [hacks]
      exact List.mem_append_right _ (List.mem_singleton_self _)
    exact ⟨Or.inl (List.mem_append_left _ hmem),fun _ => hmem⟩
  · rw [hacks, hmark, hfail]
    exact ⟨h,fun hf => absurd hf Bool.false_ne_true⟩

lemma step_isFlush (s : Wire) {op : WireOp} (ho : op.isFlush = true) :
    ∃ answers, s.step op = s.flushBy Xfer.flushXfer answers := by
  cases op with
  | flushXfer answers => exact ⟨answers,rfl⟩
  | flush answers => exact ⟨answers,by simp only [step, flushBy, Xfer.flush_eq_flushXfer]⟩
  | _ => cases ho

/-- Any number of flushes, of which the last returns `Ok`. -/
lemma run_flushes_kept {s : Wire} (h : Kept s.conn s.xfer)
    (hf : s.flushed = true → s.xfer.recvSn ∈ s.sentAcks) {tries : List WireOp}
    (ht : ∀ o ∈ tries, o.isFlush = true) (hok : (run step s tries).flushed = true) :
    s.xfer.recvSn ∈ (run step s tries).sentAcks := by
  induction tries generalizing s with
  | nil => exact hf hok
  | cons o tries ih =>
    obtain ⟨ho,ht⟩ := List.forall_mem_cons.mp ht
    obtain ⟨answers,hstep⟩ := step_isFlush s ho
    obtain ⟨hkept,hwritten⟩ := flushXfer_kept (c := s.conn.answering answers) h
    have hrecv := (Xfer.flushXfer_fields (s.conn.answering answers) s.xfer).2.2.2
    rw [run_cons, hstep] at hok ⊢
    have hsame : (s.flushBy Xfer.flushXfer answers).xfer.recvSn = s.xfer.recvSn := hrecv
    rw [← hsame]
    refine ih hkept (fun hflushed => ?_) ht hok
    rw [hsame]
    exact hwritten hflushed

/-- Whether the acknowledgement is written in the end is decided by what the call leaves. -/
lemma acked_iff {s : Wire} (hf : s.flushed = false) :
    (∀ tries : List WireOp, (∀ o ∈ tries, o.isFlush = true) → (run step s tries).flushed = true →
      s.xfer.recvSn ∈ (run step s tries).sentAcks) ↔ Kept s.conn s.xfer := by
  constructor
  · intro h
    by_contra hnot
    obtain ⟨hacks,hdue⟩ := not_or.mp hnot
    have hok := flushXfer_allSent (c := s.conn.answering fun _ => .sent) s.xfer rfl
    have hmem := h [.flushXfer fun _ => .sent] (by simp [WireOp.isFlush]) (congrArg Except.isOk hok)
    rcases flushXfer_acks (s.conn.answering fun _ => .sent) s.xfer with
      ⟨-,-,hall,-⟩ | ⟨hlt,-⟩ | ⟨hfail,-⟩
    · apply hacks
      change s.xfer.recvSn ∈ ackTrail (s.conn.answering fun _ => .sent) s.xfer
      rw [← hall]
      exact hmem
    · exact hdue hlt
    · rw [hok] at hfail
      cases hfail
  · intro h tries ht hok
    exact run_flushes_kept h (fun hflushed => absurd (hf.symm.trans hflushed) Bool.false_ne_true) ht hok

/-- Where nothing acknowledges it yet, a flush keeps what was received last just if it is due. -/
lemma flushXfer_kept_iff {c : Conn} {x : Xfer} (h : x.recvSn ∉ ackTrail c x) :
    Kept (Xfer.flushXfer.run (c,x)).2.1 (Xfer.flushXfer.run (c,x)).2.2 ↔ x.sentAckSn < x.recvSn := by
  constructor
  · intro hkept
    by_contra hdue
    have hrecv := (Xfer.flushXfer_fields c x).2.2.2
    have hdone := Xfer.unsent_of_flushXfer_ok (c := c) (x := x)
    rcases flushXfer_acks c x with ⟨-,hok,hacks,hmark⟩ | ⟨hlt,-⟩ | ⟨-,hacks,hmark⟩
    · unfold Kept at hkept
      rw [ackTrail, hdone hok, hacks, hmark, hrecv, List.map_nil, List.filterMap_nil,
        List.append_nil] at hkept
      exact hkept.elim h hdue
    · exact hdue hlt
    · unfold Kept at hkept
      rw [hacks, hmark, hrecv] at hkept
      exact hkept.elim h hdue
  · exact fun hdue => (flushXfer_kept (Or.inr hdue)).1

/-- Where the flush before it has returned `Ok`, a packet outside the queue takes no acknowledgement. -/
lemma fillAck_flushed {c : Conn} {x : Xfer} (h : (Xfer.flushXfer.run (c,x)).1 = .ok ()) :
    Xfer.fillAck none (Xfer.flushXfer.run (c,x)).2.2 = (none,(Xfer.flushXfer.run (c,x)).2.2) := by
  have hrecv := (Xfer.flushXfer_fields c x).2.2.2
  have hle : (Xfer.flushXfer.run (c,x)).2.2.recvSn ≤ (Xfer.flushXfer.run (c,x)).2.2.sentAckSn := by
    rcases flushXfer_acks c x with ⟨hle,-,-,hmark⟩ | ⟨-,-,-,hmark⟩ | ⟨hfail,-⟩
    · rw [hrecv, hmark]
      exact hle
    · rw [hrecv, hmark]
    · rw [h] at hfail
      cases hfail
  simp [Xfer.fillAck, not_lt.mpr hle]

/-- Beyond its flush a `send_push0` does nothing to what is kept, unless it writes its packet. -/
lemma push0_kept (s : Wire) (body : Except Error String) (answers : ℕ → SendResult) :
    (s.push0 body answers).xfer.recvSn = s.xfer.recvSn ∧
    (s.fails (.sendPush0 body answers) = true →
      (Kept (s.push0 body answers).conn (s.push0 body answers).xfer ↔
        Kept (Xfer.flushXfer.run (s.conn.answering answers,s.xfer)).2.1
          (Xfer.flushXfer.run (s.conn.answering answers,s.xfer)).2.2)) := by
  have hrecv := (Xfer.flushXfer_fields (s.conn.answering answers) s.xfer).2.2.2
  have hfill := fillAck_flushed (c := s.conn.answering answers) (x := s.xfer)
  have hflush := Xfer.flush_eq_flushXfer (s.conn.answering answers,s.xfer)
  simp only [push0, fails, Xfer.sendPush0]
  rcases hr : Xfer.flushXfer.run (s.conn.answering answers,s.xfer) with ⟨r,c,x⟩
  rw [hr] at hrecv hfill hflush
  cases r with
  | error e =>
    rw [Xfer.sendQos0_error hflush]
    exact ⟨hrecv,fun _ => Iff.rfl⟩
  | ok _ =>
    cases body with
    | error e =>
      rw [Xfer.sendQos0_body_error hflush]
      exact ⟨hrecv,fun _ => Iff.rfl⟩
    | ok text =>
      have hx : (Xfer.fillAck none x).2 = x := congrArg Prod.snd (hfill rfl)
      rw [Xfer.sendQos0_ok hflush, hx]
      refine ⟨hrecv,fun hfail => ?_⟩
      have hanswer : c.answer ≠ .sent := by
        intro hsent
        rw [(Conn.sendPacket_sent hsent).1] at hfail
        cases hfail
      have hsent := (Conn.sendPacket_unsent (p := x.qos0Packet .push0 text) hanswer).2
      simp only [Kept, ackTrail, hsent, Xfer.unsent]

/-- A request that does not serialize leaves the queue as it was just if it takes no
acknowledgement. -/
lemma fillAck_same_iff (typ : PacketType) (e : Error) (msgId : Option ℤ) (x : Xfer) :
    (Xfer.fillAck msgId x).2 = x ↔ KeepsMark x (.addQos1Json typ (.error e) msgId) := by
  cases msgId with
  | none =>
    by_cases h : x.sentAckSn < x.recvSn
    · simp only [Xfer.fillAck, h, if_true, KeepsMark, not_le.mpr h, iff_false]
      intro hx
      have := congrArg Xfer.sentAckSn hx
      dsimp only at this
      omega
    · simp [Xfer.fillAck, h, KeepsMark, not_lt.mp h]
  | some ack =>
    by_cases h : x.sentAckSn < ack
    · simp only [Xfer.fillAck, h, if_true, KeepsMark, not_le.mpr h, iff_false]
      intro hx
      have := congrArg Xfer.sentAckSn hx
      dsimp only at this
      omega
    · simp [Xfer.fillAck, h, KeepsMark, not_lt.mp h]

/-- What a call that failed must leave, beside the mark of a request that does not serialize. -/
lemma remembers_of_kept_iff {s : Wire} {op : WireOp} (hjson : ∀ typ body msgId,
    op ≠ .addQos1Json typ body msgId) (hf : (s.step op).flushed = false)
    (hrecv : (s.step op).xfer.recvSn = s.xfer.recvSn)
    (hkept : s.Owed → (Kept (s.step op).conn (s.step op).xfer ↔ s.xfer.sentAckSn < s.xfer.recvSn)) :
    s.Remembers op ↔ s.CanRemember op := by
  have hmark : KeepsMark s.xfer op := by
    cases op with
    | addQos1Json typ body msgId => exact absurd rfl (hjson typ body msgId)
    | _ => trivial
  have hacked := acked_iff hf
  rw [hrecv] at hacked
  constructor
  · intro h
    exact ⟨fun ho => (hkept ho).mp (hacked.mp (h.acked ho)),hmark⟩
  · intro h
    exact ⟨fun ho => hacked.mpr ((hkept ho).mpr (h.due ho)),fun typ body msgId hop =>
      absurd hop (hjson typ body msgId)⟩

lemma step_flush_failed {s : Wire} {answers : ℕ → SendResult}
    (h : (Xfer.flushXfer.run (s.conn.answering answers,s.xfer)).1.isOk = false) {op : WireOp}
    (hop : s.step op = s.flushBy Xfer.flushXfer answers)
    (hjson : ∀ typ body msgId, op ≠ .addQos1Json typ body msgId) :
    s.Remembers op ↔ s.CanRemember op := by
  have hrecv := (Xfer.flushXfer_fields (s.conn.answering answers) s.xfer).2.2.2
  refine remembers_of_kept_iff hjson (hop ▸ h) (hop ▸ hrecv) fun ho => ?_
  have hnot : s.xfer.recvSn ∉ ackTrail (s.conn.answering answers) s.xfer := (owed_iff.mp ho).2
  rw [hop]
  exact flushXfer_kept_iff hnot

/-- Every call that fails, in every state. -/
lemma remembers_iff (s : Wire) (op : WireOp) (h : s.fails op = true) :
    s.Remembers op ↔ s.CanRemember op := by
  cases op with
  | addQos1Json typ body msgId =>
    cases body with
    | ok text =>
      rw [fails, Xfer.addQos1Json_ok] at h
      cases h
    | error e =>
      have hx : (s.step (.addQos1Json typ (.error e) msgId)).xfer = (Xfer.fillAck msgId s.xfer).2 := by
        simp only [step, add, Xfer.addQos1Json_error]
      have hsame := fillAck_same_iff typ e msgId s.xfer
      constructor
      · intro hr
        have hunchanged := hr.unchanged typ _ msgId rfl
        have hacked := acked_iff (s := s.step (.addQos1Json typ (.error e) msgId)) rfl
        rw [hunchanged] at hacked
        refine ⟨fun ho => ?_,hsame.mp (hx.symm.trans hunchanged)⟩
        exact (hacked.mp (hr.acked ho)).resolve_left (owed_iff.mp ho).2
      · intro hc
        have hunchanged := hx.trans (hsame.mpr hc.mark)
        have hacked := acked_iff (s := s.step (.addQos1Json typ (.error e) msgId)) rfl
        rw [hunchanged] at hacked
        exact ⟨fun ho => hacked.mpr (Or.inr (hc.due ho)),fun _ _ _ _ => hunchanged⟩
  | addQos1Typed typ body msgId =>
    cases body with
    | ok text =>
      rw [fails, Xfer.addQos1Typed_ok, Xfer.addQos1Json_ok] at h
      cases h
    | error e =>
      have hx : (s.step (.addQos1Typed typ (.error e) msgId)).xfer = s.xfer := by
        simp only [step, add, Xfer.addQos1Typed_error]
      refine remembers_of_kept_iff (by simp) rfl (by rw [hx]) fun ho => ?_
      rw [hx]
      exact or_iff_right (owed_iff.mp ho).2
  | sendPush0 body answers =>
    obtain ⟨hrecv,hkept⟩ := push0_kept s body answers
    refine remembers_of_kept_iff (by simp) rfl hrecv fun ho => ?_
    have hnot : s.xfer.recvSn ∉ ackTrail (s.conn.answering answers) s.xfer := (owed_iff.mp ho).2
    exact (hkept h).trans (flushXfer_kept_iff hnot)
  | flushXfer answers =>
    have hfail : (Xfer.flushXfer.run (s.conn.answering answers,s.xfer)).1.isOk = false := by
      simpa [fails] using h
    exact step_flush_failed hfail rfl (by simp)
  | flush answers =>
    have hfail : (Xfer.flushXfer.run (s.conn.answering answers,s.xfer)).1.isOk = false := by
      simpa [fails, Xfer.flush_eq_flushXfer] using h
    exact step_flush_failed hfail (by simp only [step, flushBy, Xfer.flush_eq_flushXfer]) (by simp)
  | updateRecvSn sn => cases h
  | updateRecvAck behind => cases h

end Wire

/-- What can happen to a queue and its connection: calls, and acknowledgements of any height. -/
inductive QueueOp
  | call (op : WireOp)
  | updateRecvAck (sn : ℤ)
  | initRecvAck (sn : ℤ)
  | clearSendAck

namespace Wire

def queueStep (s : Wire) : QueueOp → Wire
  | .call op => s.step op
  | .updateRecvAck sn => { s with xfer := s.xfer.updateRecvAck sn, flushed := false }
  | .initRecvAck sn => { s with xfer := s.xfer.initRecvAck sn, flushed := false }
  | .clearSendAck => { s with xfer := s.xfer.clearSendAck, flushed := false }

/-- A call that fails has forgotten nothing. -/
def FailsSafely (s : Wire) : QueueOp → Prop
  | .call op => s.fails op = true → s.Remembers op
  | _ => True

/-- A packet acknowledges nothing above what was received. -/
def KnownAck (x : Xfer) : WireOp → Prop
  | .addQos1Json _ _ (some ack) => ack ≤ x.recvSn
  | .addQos1Typed _ _ (some ack) => ack ≤ x.recvSn
  | _ => True

/-- The acknowledgements of the peer cover what was sent only, those of the packets what was received
only, and a request that does not serialize takes none. -/
def Careful (s : Wire) : QueueOp → Prop
  | .call (.updateRecvAck behind) => s.xfer.AckBelow (s.lastSent - behind)
  | .call op => KeepsMark s.xfer op ∧ KnownAck s.xfer op
  | .updateRecvAck sn => s.xfer.AckBelow sn
  | .initRecvAck sn => s.xfer.AckBelow sn
  | .clearSendAck => True

/-- The mark is not ahead of what was received, and what it has passed is acknowledged. -/
structure Accounted (c : Conn) (x : Xfer) : Prop where
  valid : x.Valid
  bound : x.sentAckSn ≤ x.recvSn
  nonneg : 0 ≤ x.recvSn
  kept : 0 < x.recvSn → Kept c x

namespace Accounted

variable {c : Conn} {x : Xfer}

lemma new : Accounted Wire.new.conn Wire.new.xfer :=
  ⟨Xfer.Valid.new,le_refl 0,le_refl 0,fun h => absurd h (lt_irrefl 0)⟩

/-- A change of the queue that leaves the waiting packets and both numbers. -/
lemma same (h : Accounted c x) {y : Xfer} (hy : y.Valid) (hu : y.unsent = x.unsent)
    (hs : y.sentAckSn = x.sentAckSn) (hr : y.recvSn = x.recvSn) : Accounted c y := by
  refine ⟨hy,by rw [hs, hr]; exact h.bound,by rw [hr]; exact h.nonneg,fun hpos => ?_⟩
  rw [Kept, ackTrail, hu, hs, hr]
  exact h.kept (hr ▸ hpos)

/-- More packets wait. -/
lemma more (h : Accounted c x) {y : Xfer} (hy : y.Valid) (before after : List (ℤ × Packet))
    (hu : y.unsent = before ++ x.unsent ++ after) (hs : y.sentAckSn = x.sentAckSn)
    (hr : y.recvSn = x.recvSn) : Accounted c y := by
  refine ⟨hy,by rw [hs, hr]; exact h.bound,by rw [hr]; exact h.nonneg,fun hpos => ?_⟩
  rw [hr] at hpos
  rw [Kept, hs, hr]
  refine (h.kept hpos).imp_left fun hmem => ?_
  rw [ackTrail, hu]
  rcases List.mem_append.mp hmem with hmem | hmem
  · exact List.mem_append_left _ hmem
  · apply List.mem_append_right
    rw [List.map_append, List.map_append, List.filterMap_append, List.filterMap_append]
    exact List.mem_append_left _ (List.mem_append_right _ hmem)

lemma fillAck_none (h : Accounted c x) {y : Xfer} (hy : y.Valid) {e : ℤ × Packet}
    (he : e.2.ack = (Xfer.fillAck none x).1) (hu : y.unsent = x.unsent ++ [e])
    (hs : y.sentAckSn = (Xfer.fillAck none x).2.sentAckSn) (hr : y.recvSn = x.recvSn) :
    Accounted c y := by
  by_cases hdue : x.sentAckSn < x.recvSn
  · have hfill : Xfer.fillAck none x = (some x.recvSn,{ x with sentAckSn := x.recvSn }) := by
      simp [Xfer.fillAck, hdue]
    rw [hfill] at he hs
    refine ⟨hy,by rw [hs, hr],by rw [hr]; exact h.nonneg,fun _ => Or.inl ?_⟩
    rw [ackTrail, hu, hr, List.map_append, List.filterMap_append]
    refine List.mem_append_right _ (List.mem_append_right _ ?_)
    simp [he]
  · have hfill : Xfer.fillAck none x = (none,x) := by simp [Xfer.fillAck, hdue]
    rw [hfill] at hs
    exact h.more hy [] _ hu hs hr

/-- A packet that acknowledges what was received, or less. -/
lemma fillAck_some (h : Accounted c x) {ack : ℤ} (hack : ack ≤ x.recvSn) {y : Xfer} (hy : y.Valid)
    {e : ℤ × Packet} (he : e.2.ack = some ack) (hu : y.unsent = x.unsent ++ [e])
    (hs : y.sentAckSn = max x.sentAckSn ack) (hr : y.recvSn = x.recvSn) : Accounted c y := by
  have hbound := h.bound
  refine ⟨hy,by rw [hs, hr]; exact max_le hbound hack,by rw [hr]; exact h.nonneg,fun hpos => ?_⟩
  rw [hr] at hpos
  rw [Kept, hs, hr, ackTrail, hu, List.map_append, List.filterMap_append, ← List.append_assoc]
  rcases h.kept hpos with hmem | hdue
  · exact Or.inl (List.mem_append_left _ hmem)
  · rcases lt_or_eq_of_le hack with hlt | rfl
    · exact Or.inr (max_lt hdue hlt)
    · exact Or.inl (List.mem_append_right _ (by simp [he]))

/-- A request is queued. -/
lemma addQos1Json (h : Accounted c x) (typ : PacketType) (text : String) (msgId : Option ℤ)
    (hack : ∀ ack, msgId = some ack → ack ≤ x.recvSn) :
    Accounted c ((Xfer.addQos1Json typ (.ok text) msgId).run x).2 := by
  have hvalid := h.valid.addQos1Json typ (.ok text) msgId
  have hunsent : ((Xfer.addQos1Json typ (.ok text) msgId).run x).2.unsent =
      x.unsent ++ [(x.tailSn+1,x.nextPacket typ text msgId)] := by
    rw [Xfer.addQos1Json_ok, Xfer.unsent, Xfer.fillAck_sendIndex]
    exact List.drop_append_of_le_length h.valid.index
  cases msgId with
  | none =>
    refine h.fillAck_none hvalid rfl hunsent ?_ ?_
    · rw [Xfer.addQos1Json_ok]
    · rw [Xfer.addQos1Json_ok]
      dsimp only
      rw [Xfer.fillAck]
      split <;> rfl
  | some ack =>
    refine h.fillAck_some (hack ack rfl) hvalid rfl hunsent ?_ ?_
    · rw [Xfer.addQos1Json_ok]
      dsimp only
      rw [Xfer.fillAck]
      split_ifs with hlt
      · exact (max_eq_right (le_of_lt hlt)).symm
      · exact (max_eq_left (not_lt.mp hlt)).symm
    · rw [Xfer.addQos1Json_ok]
      dsimp only
      rw [Xfer.fillAck]
      split <;> rfl

lemma updateRecvSn (h : Accounted c x) (sn : ℤ) : Accounted c (x.updateRecvSn sn) := by
  by_cases hgt : sn > x.recvSn
  · have hx : x.updateRecvSn sn = { x with recvSn := sn } := if_pos hgt
    have hvalid := h.valid.updateRecvSn sn
    have hbound := h.bound
    have hnonneg := h.nonneg
    rw [hx] at hvalid ⊢
    exact ⟨hvalid,le_of_lt (lt_of_le_of_lt hbound hgt),le_of_lt (lt_of_le_of_lt hnonneg hgt),
      fun _ => Or.inr (lt_of_le_of_lt hbound hgt)⟩
  · have hx : x.updateRecvSn sn = x := if_neg hgt
    rwa [hx]

lemma updateRecvAck (h : Accounted c x) {sn : ℤ} (hsn : x.AckBelow sn) :
    Accounted c (x.updateRecvAck sn) :=
  h.same (h.valid.updateRecvAck hsn) (Xfer.updateRecvAck_window h.valid hsn).2.2 rfl rfl

/-- All that the peer did not acknowledge waits again. -/
lemma initRecvAck (h : Accounted c x) {sn : ℤ} (hsn : x.AckBelow sn) :
    Accounted c (x.initRecvAck sn) := by
  have hacked := h.updateRecvAck hsn
  have hvalid := hacked.valid.congr (y := x.initRecvAck sn) rfl (Nat.zero_le _) rfl
  refine hacked.more hvalid ((x.updateRecvAck sn).que.take (x.updateRecvAck sn).sendIndex) [] ?_ rfl rfl
  rw [List.append_nil, Xfer.unsent, Xfer.unsent, List.take_append_drop]
  rfl

lemma clearSendAck (h : Accounted c x) : Accounted c x.clearSendAck := by
  refine ⟨h.valid.congr rfl h.valid.index rfl,h.nonneg,h.nonneg,fun hpos => Or.inr ?_⟩
  exact hpos

lemma flushXfer (h : Accounted c x) :
    Accounted (Xfer.flushXfer.run (c,x)).2.1 (Xfer.flushXfer.run (c,x)).2.2 := by
  have hrecv := (Xfer.flushXfer_fields c x).2.2.2
  refine ⟨h.valid.flushXfer c,?_,by rw [hrecv]; exact h.nonneg,fun hpos => ?_⟩
  · have hbound := h.bound
    rw [hrecv]
    rcases flushXfer_acks c x with ⟨-,-,-,hmark⟩ | ⟨-,-,-,hmark⟩ | ⟨-,-,hmark⟩ <;> rw [hmark]
    · exact hbound
    · exact hbound
  · rw [hrecv] at hpos
    exact (flushXfer_kept (h.kept hpos)).1

/-- A packet with a number, but outside the queue, may be written. -/
lemma skip (h : Accounted c x) {c' : Conn} (hc : ∃ ps, c'.sent = c.sent ++ ps) :
    Accounted c' { x with tailSn := x.tailSn + 1 } := by
  obtain ⟨ps,hps⟩ := hc
  refine ⟨⟨h.valid.index,h.valid.ordered,fun e he => ?_⟩,h.bound,h.nonneg,fun hpos => ?_⟩
  · have := h.valid.bounded e he
    dsimp only
    omega
  · refine (h.kept hpos).imp_left fun hmem => ?_
    rw [ackTrail, hps, List.filterMap_append]
    rcases List.mem_append.mp hmem with hmem | hmem
    · exact List.mem_append_left _ (List.mem_append_left _ hmem)
    · exact List.mem_append_right _ hmem

end Accounted

lemma push0_accounted {s : Wire} (h : Accounted s.conn s.xfer) (body : Except Error String)
    (answers : ℕ → SendResult) :
    Accounted (s.push0 body answers).conn (s.push0 body answers).xfer := by
  have hflushed := Accounted.flushXfer (c := s.conn.answering answers) (x := s.xfer)
    ⟨h.valid,h.bound,h.nonneg,h.kept⟩
  have hfill := fillAck_flushed (c := s.conn.answering answers) (x := s.xfer)
  have hflush := Xfer.flush_eq_flushXfer (s.conn.answering answers,s.xfer)
  simp only [push0, Xfer.sendPush0]
  rcases hr : Xfer.flushXfer.run (s.conn.answering answers,s.xfer) with ⟨r,c,x⟩
  rw [hr] at hflushed hfill hflush
  cases r with
  | error e =>
    rw [Xfer.sendQos0_error hflush]
    exact hflushed
  | ok _ =>
    cases body with
    | error e =>
      rw [Xfer.sendQos0_body_error hflush]
      exact hflushed
    | ok text =>
      have hx : (Xfer.fillAck none x).2 = x := congrArg Prod.snd (hfill rfl)
      rw [Xfer.sendQos0_ok hflush, hx]
      refine hflushed.skip ?_
      by_cases ha : c.answer = .sent
      · exact ⟨_,(Conn.sendPacket_sent ha).2⟩
      · exact ⟨[],((Conn.sendPacket_unsent ha).2).trans (List.append_nil _).symm⟩

/-- A careful step keeps the account. -/
lemma queueStep_accounted {s : Wire} (h : Accounted s.conn s.xfer) {op : QueueOp} (hg : s.Careful op) :
    Accounted (s.queueStep op).conn (s.queueStep op).xfer := by
  cases op with
  | updateRecvAck sn => exact h.updateRecvAck hg
  | initRecvAck sn => exact h.initRecvAck hg
  | clearSendAck => exact h.clearSendAck
  | call op =>
    have hflush : ∀ answers, Accounted (s.flushBy Xfer.flushXfer answers).conn
        (s.flushBy Xfer.flushXfer answers).xfer := fun answers =>
      Accounted.flushXfer (c := s.conn.answering answers) ⟨h.valid,h.bound,h.nonneg,h.kept⟩
    cases op with
    | addQos1Json typ body msgId =>
      cases body with
      | ok text =>
        refine h.addQos1Json typ text msgId ?_
        rintro ack rfl
        exact hg.2
      | error e =>
        have hx : (s.queueStep (.call (.addQos1Json typ (.error e) msgId))).xfer = s.xfer := by
          simp only [queueStep, step, add, Xfer.addQos1Json_error]
          exact (fillAck_same_iff typ e msgId s.xfer).mpr hg.1
        rw [hx]
        exact h
    | addQos1Typed typ body msgId =>
      cases body with
      | ok text =>
        refine h.addQos1Json typ text msgId ?_
        rintro ack rfl
        exact hg.2
      | error e => exact h
    | sendPush0 body answers => exact push0_accounted h body answers
    | flushXfer answers => exact hflush answers
    | flush answers =>
      have hsame : s.step (.flush answers) = s.flushBy Xfer.flushXfer answers := by
        simp only [step, flushBy, Xfer.flush_eq_flushXfer]
      change Accounted (s.step (.flush answers)).conn (s.step (.flush answers)).xfer
      rw [hsame]
      exact hflush answers
    | updateRecvSn sn => exact h.updateRecvSn sn
    | updateRecvAck behind => exact h.updateRecvAck hg

/-- Where the account is kept, a careful call that fails forgets nothing. -/
lemma failsSafely {s : Wire} (h : Accounted s.conn s.xfer) {op : QueueOp} (hg : s.Careful op) :
    s.FailsSafely op := by
  cases op with
  | call op =>
    intro hf
    have hmark : KeepsMark s.xfer op := by
      cases op with
      | updateRecvAck behind => trivial
      | _ => exact hg.1
    refine (remembers_iff s op hf).mpr ⟨fun ho => ?_,hmark⟩
    obtain ⟨hpos,hnot⟩ := owed_iff.mp ho
    exact (h.kept hpos).resolve_left hnot
  | _ => trivial

/-- A call that fails has forgotten nothing just where what is owed counts as due and the call takes
no acknowledgement that it does not queue. It is so in every careful run. -/
theorem failed_call_remembers (s : Wire) (op : WireOp) (ops : List QueueOp) :
    (s.fails op = true → (s.Remembers op ↔ s.CanRemember op)) ∧
    (EveryStep queueStep Careful new ops → EveryStep queueStep FailsSafely new ops) := by
  refine ⟨remembers_iff s op,fun hg => ?_⟩
  refine everyStep_of_guard (I := fun s : Wire => Accounted s.conn s.xfer) ?_ Accounted.new hg
  exact fun s op h hop => ⟨queueStep_accounted h hop,failsSafely h hop⟩

/-- The packet with the number 5 was received, and a request does not serialize. -/
theorem failed_request_not_remembered :
    (Machine.run queueStep new [.call (.updateRecvSn 5)]).fails
      (.addQos1Json .request (.error (.msg "")) none) = true ∧
    ¬ (Machine.run queueStep new [.call (.updateRecvSn 5)]).Remembers
      (.addQos1Json .request (.error (.msg "")) none) := by
  refine ⟨rfl,fun h => ?_⟩
  have howed : (Machine.run queueStep new [.call (.updateRecvSn 5)]).Owed :=
    ⟨by decide,by decide,by decide⟩
  have hmem := h.acked howed [.flushXfer fun _ => .sent] (by simp [WireOp.isFlush]) (by decide)
  exact absurd hmem (by decide)

end Wire
end VvClient
