import Mathlib.Data.List.Basic
import VvClient.Client.Conn
import VvClient.Client.Xfer

/-! Sending what waits in the transfer queue, in the two ways the source has: `flush` with a
closure, and `flush_xfer` over the iterators `SendIter` and `AckIter`. -/
namespace VvClient

structure SendIter where
  owner : Xfer
  pending : Bool

/-- The entry that was yielded last counts as sent only when `next` is called again. -/
def SendIter.next (it : SendIter) : Option Packet × SendIter :=
  let owner := if it.pending then { it.owner with sendIndex := it.owner.sendIndex + 1 } else it.owner
  match owner.que[owner.sendIndex]? with
  | some v => (some v.2,⟨owner,true⟩)
  | none => (none,⟨owner,false⟩)

structure AckIter where
  owner : Xfer
  pending : Bool

def AckIter.next (it : AckIter) : Option Packet × AckIter :=
  if it.pending then (none,⟨{ it.owner with sentAckSn := it.owner.recvSn },false⟩)
  else if it.owner.sentAckSn < it.owner.recvSn then
    (some (Packet.ackOnly it.owner.recvSn),⟨it.owner,true⟩)
  else (none,⟨it.owner,false⟩)

/-- `for packet in iter { conn.send_packet(packet).await?; }` with at most `fuel` calls of
`next`. A failure drops the iterator where it stands. -/
def forSend {ι : Type} (next : ι → Option Packet × ι) : ℕ → Prog (Conn × ι) Stop Unit
  | 0 => Prog.fail .pending
  | fuel+1 => ⟨fun s =>
    match next s.2 with
    | (none,it) => (.ok (),(s.1,it))
    | (some p,it) =>
      match (Conn.sendPacket p).run s.1 with
      | (.ok _,c) => (forSend next fuel).run (c,it)
      | (.error e,c) => (.error e,(c,it))⟩

namespace Xfer

/-- The first loop of `flush_xfer`. -/
def flushXferQue : Prog (Conn × Xfer) Stop Unit := ⟨fun s =>
  match (forSend SendIter.next (s.2.que.length + 1)).run (s.1,⟨s.2,false⟩) with
  | (r,(c,it)) => (r,(c,it.owner))⟩

/-- `Task::flush_xfer_ack`, which is also the second loop of `flush_xfer`. -/
def flushXferAck : Prog (Conn × Xfer) Stop Unit := ⟨fun s =>
  match (forSend AckIter.next 2).run (s.1,⟨s.2,false⟩) with
  | (r,(c,it)) => (r,(c,it.owner))⟩

/-- `Task::flush_xfer` -/
def flushXfer : Prog (Conn × Xfer) Stop Unit := do
  flushXferQue
  flushXferAck

/-- The loop of `Xfer::flush`. -/
def flushQue : ℕ → Prog (Conn × Xfer) Stop Unit
  | 0 => Prog.fail .pending
  | fuel+1 => ⟨fun s =>
    match s.2.que[s.2.sendIndex]? with
    | none => (.ok (),s)
    | some item =>
      match (Conn.sendPacket item.2).run s.1 with
      | (.ok _,c) => (flushQue fuel).run (c,{ s.2 with sendIndex := s.2.sendIndex + 1 })
      | (.error e,c) => (.error e,(c,s.2))⟩

def checkSendAck : Prog (Conn × Xfer) Stop Unit := ⟨fun s =>
  if s.2.sentAckSn < s.2.recvSn then
    match (Conn.sendPacket (Packet.ackOnly s.2.recvSn)).run s.1 with
    | (.ok _,c) => (.ok (),(c,{ s.2 with sentAckSn := s.2.recvSn }))
    | (.error e,c) => (.error e,(c,s.2))
  else (.ok (),s)⟩

/-- `Xfer::flush` -/
def flush : Prog (Conn × Xfer) Stop Unit := do
  flushQue ((← Prog.get).2.que.length + 1)
  checkSendAck

def onXfer {ε α : Type} (m : Prog Xfer ε α) : Prog (Conn × Xfer) ε α :=
  Prog.zoom Prod.snd (fun x s => (s.1,x)) m

def onConn {ε α : Type} (m : Prog Conn ε α) : Prog (Conn × Xfer) ε α :=
  Prog.zoom Prod.fst (fun c s => (c,s.2)) m

def sendQos0 (typ : PacketType) (body : Except Error String) : Prog (Conn × Xfer) Stop Unit := do
  flush
  let sn := (← Prog.get).2.tailSn + 1
  let text ← Prog.ofExcept (body.mapError Stop.err)
  let ack := (fillAck none (← Prog.get).2).1
  onXfer (Prog.modify fun x => (fillAck none x).2)
  let packet : Packet := { Packet.qos0 typ text with sn := some sn, ack := ack }
  onXfer (Prog.modify fun x => { x with tailSn := sn })
  onConn (Conn.sendPacket packet)

def sendPush0 (body : Except Error String) : Prog (Conn × Xfer) Stop Unit := sendQos0 .push0 body

end Xfer

/-- Sending a list of packets until one fails: the outcome, the connection afterwards and how
many were sent. This says what both loops do. -/
def sendAll : List Packet → Conn → Except Stop Unit × Conn × ℕ
  | [],c => (.ok (),c,0)
  | p::ps,c =>
    match (Conn.sendPacket p).run c with
    | (.ok _,c') => ((sendAll ps c').1,(sendAll ps c').2.1,(sendAll ps c').2.2 + 1)
    | (.error e,c') => (.error e,c',0)

theorem sendAll_count_le (ps : List Packet) (c : Conn) : (sendAll ps c).2.2 ≤ ps.length := by
  induction ps generalizing c with
  | nil => exact Nat.le_refl 0
  | cons p ps ih =>
    unfold sendAll
    split
    · exact Nat.succ_le_succ (ih _)
    · exact Nat.zero_le _

/-- What was sent is the beginning of the list, as far as the count says. -/
theorem sendAll_sent (ps : List Packet) (c : Conn) :
    (sendAll ps c).2.1.sent = c.sent ++ ps.take (sendAll ps c).2.2 := by
  induction ps generalizing c with
  | nil => simp [sendAll]
  | cons p ps ih =>
    by_cases h : c.answer = .sent
    · obtain ⟨hok,hsent⟩ := Conn.sendPacket_sent (p := p) h
      rcases hs : (Conn.sendPacket p).run c with ⟨r,c'⟩
      rw [hs] at hok hsent
      obtain rfl : r = .ok () := hok
      simp only [sendAll, hs, ih, hsent, List.take_succ_cons, List.append_assoc,
        List.singleton_append]
    · obtain ⟨⟨e,he⟩,hsent⟩ := Conn.sendPacket_unsent (p := p) h
      rcases hs : (Conn.sendPacket p).run c with ⟨r,c'⟩
      rw [hs] at he hsent
      obtain rfl : r = .error e := he
      simpa only [sendAll, hs, List.take_zero, List.append_nil] using hsent

theorem sendPacket_error {p : Packet} {c : Conn} {e : Stop}
    (h : ((Conn.sendPacket p).run c).1 = .error e) : e = .err (.msg "send failed") ∨ e = .elapsed := by
  have h' : c.answer.toExcept = .error e := h
  cases ha : c.answer <;> rw [ha] at h' <;> cases h'
  · exact .inl rfl
  · exact .inr rfl

theorem sendAll_error {ps : List Packet} {c : Conn} {e : Stop} (h : (sendAll ps c).1 = .error e) :
    e = .err (.msg "send failed") ∨ e = .elapsed := by
  induction ps generalizing c with
  | nil => cases h
  | cons p ps ih =>
    unfold sendAll at h
    split at h
    · exact ih h
    · next e' c' hs =>
      cases h
      exact sendPacket_error (congrArg Prod.fst hs)

theorem sendAll_ok_iff (ps : List Packet) (c : Conn) :
    (sendAll ps c).1 = .ok () ↔ (sendAll ps c).2.2 = ps.length := by
  induction ps generalizing c with
  | nil => simp [sendAll]
  | cons p ps ih =>
    unfold sendAll
    split
    · simp only [ih, List.length_cons, Nat.add_right_cancel_iff]
    · simp

lemma sendAll_answers (ps : List Packet) (c : Conn) : (sendAll ps c).2.1.answers = c.answers := by
  induction ps generalizing c with
  | nil => rfl
  | cons p ps ih =>
    unfold sendAll
    split
    · next c' hs => exact (ih c').trans (congrArg (fun r => r.2.answers) hs).symm
    · next c' hs => exact (congrArg (fun r => r.2.answers) hs).symm

namespace SendIter

theorem next_pending (x : Xfer) :
    next ⟨x,true⟩ = next ⟨{ x with sendIndex := x.sendIndex + 1 },false⟩ := rfl

theorem next_some {x : Xfer} {v : ℤ × Packet} (h : x.que[x.sendIndex]? = some v) :
    next ⟨x,false⟩ = (some v.2,⟨x,true⟩) := by simp [next, h]

theorem next_none {x : Xfer} (h : x.que[x.sendIndex]? = none) :
    next ⟨x,false⟩ = (none,⟨x,false⟩) := by simp [next, h]

end SendIter

lemma forSend_succ {ι : Type} {next : ι → Option Packet × ι} {fuel : ℕ} {c : Conn} {it it' : ι}
    (h : next it = next it') :
    (forSend next (fuel+1)).run (c,it) = (forSend next (fuel+1)).run (c,it') := by
  simp only [forSend, h]

namespace Xfer

lemma unsent_of_none {x : Xfer} (h : x.que[x.sendIndex]? = none) : x.unsent = [] :=
  List.drop_eq_nil_of_le (List.getElem?_eq_none_iff.mp h)

lemma unsent_of_some {x : Xfer} {v : ℤ × Packet} (h : x.que[x.sendIndex]? = some v) :
    x.unsent = v::({ x with sendIndex := x.sendIndex + 1 } : Xfer).unsent := by
  obtain ⟨hi,rfl⟩ := List.getElem?_eq_some_iff.mp h
  exact List.drop_eq_getElem_cons hi

lemma forSend_sendIter (fuel : ℕ) (c : Conn) (x : Xfer) (hf : x.unsent.length < fuel) :
    ((forSend SendIter.next fuel).run (c,⟨x,false⟩)).1 = (sendAll (x.unsent.map (·.2)) c).1 ∧
    ((forSend SendIter.next fuel).run (c,⟨x,false⟩)).2.1 = (sendAll (x.unsent.map (·.2)) c).2.1 ∧
    ((forSend SendIter.next fuel).run (c,⟨x,false⟩)).2.2.owner =
      { x with sendIndex := x.sendIndex + (sendAll (x.unsent.map (·.2)) c).2.2 } := by
  induction fuel generalizing c x with
  | zero => exact absurd hf (Nat.not_lt_zero _)
  | succ fuel ih =>
    cases hq : x.que[x.sendIndex]? with
    | none =>
      simp [forSend, SendIter.next_none hq, unsent_of_none hq, sendAll]
    | some v =>
      have hu := unsent_of_some hq
      rw [hu, List.length_cons] at hf
      rcases hs : (Conn.sendPacket v.2).run c with ⟨r,c'⟩
      cases r with
      | error e => simp [forSend, SendIter.next_some hq, hs, hu, sendAll]
      | ok _ =>
        obtain ⟨fuel,rfl⟩ : ∃ n, fuel = n+1 := ⟨fuel-1,by omega⟩
        have hstep : (forSend SendIter.next (fuel+1+1)).run (c,⟨x,false⟩) =
            (forSend SendIter.next (fuel+1)).run (c',⟨{ x with sendIndex := x.sendIndex + 1 },false⟩) := by
          conv_lhs => unfold forSend
          simp only [SendIter.next_some hq, hs]
          exact forSend_succ (SendIter.next_pending x)
        have h := ih c' { x with sendIndex := x.sendIndex + 1 } (by omega)
        rw [hstep, hu]
        simp only [List.map_cons, sendAll, hs]
        refine ⟨h.1,h.2.1,h.2.2.trans ?_⟩
        simp only [mk.injEq, true_and, and_true]
        omega

lemma unsent_length_lt (x : Xfer) : x.unsent.length < x.que.length + 1 := by
  simp only [unsent, List.length_drop]
  omega

/-- The first loop of `flush_xfer` sends what is unsent and moves the index by what was sent. -/
theorem flushXferQue_eq (c : Conn) (x : Xfer) :
    flushXferQue.run (c,x) =
      ((sendAll (x.unsent.map (·.2)) c).1,((sendAll (x.unsent.map (·.2)) c).2.1,
        { x with sendIndex := x.sendIndex + (sendAll (x.unsent.map (·.2)) c).2.2 })) := by
  obtain ⟨h1,h2,h3⟩ := forSend_sendIter (x.que.length + 1) c x (unsent_length_lt x)
  refine Prod.ext h1 (Prod.ext h2 h3)

lemma flushQue_spec (fuel : ℕ) (c : Conn) (x : Xfer) (hf : x.unsent.length < fuel) :
    (flushQue fuel).run (c,x) =
      ((sendAll (x.unsent.map (·.2)) c).1,((sendAll (x.unsent.map (·.2)) c).2.1,
        { x with sendIndex := x.sendIndex + (sendAll (x.unsent.map (·.2)) c).2.2 })) := by
  induction fuel generalizing c x with
  | zero => exact absurd hf (Nat.not_lt_zero _)
  | succ fuel ih =>
    cases hq : x.que[x.sendIndex]? with
    | none => simp [flushQue, hq, unsent_of_none hq, sendAll]
    | some v =>
      have hu := unsent_of_some hq
      rw [hu, List.length_cons] at hf
      rcases hs : (Conn.sendPacket v.2).run c with ⟨r,c'⟩
      cases r with
      | error e => simp [flushQue, hq, hs, hu, sendAll]
      | ok _ =>
        have h := ih c' { x with sendIndex := x.sendIndex + 1 } (by omega)
        simp only [flushQue, hq, hs, h, hu, List.map_cons, sendAll]
        simp only [Nat.add_assoc, Nat.add_comm 1]

theorem flushQue_eq_flushXferQue (c : Conn) (x : Xfer) :
    (flushQue (x.que.length + 1)).run (c,x) = flushXferQue.run (c,x) :=
  (flushQue_spec _ c x (unsent_length_lt x)).trans (flushXferQue_eq c x).symm

/-- Both ways of sending the acknowledgement commit it only after it was sent. -/
theorem flushXferAck_eq_checkSendAck (c : Conn) (x : Xfer) :
    flushXferAck.run (c,x) = checkSendAck.run (c,x) := by
  by_cases h : x.sentAckSn < x.recvSn
  · rcases hs : (Conn.sendPacket (Packet.ackOnly x.recvSn)).run c with ⟨r,c'⟩
    cases r <;> simp [flushXferAck, checkSendAck, forSend, AckIter.next, h, hs]
  · simp [flushXferAck, checkSendAck, forSend, AckIter.next, h]

/-- A flush fails only by a write that fails or is given up. -/
theorem flushXfer_error {c : Conn} {x : Xfer} {e : Stop} (h : (flushXfer.run (c,x)).1 = .error e) :
    e = .err (.msg "send failed") ∨ e = .elapsed := by
  have hq := flushXferQue_eq c x
  cases hr : (sendAll (x.unsent.map (·.2)) c).1 with
  | error e' =>
    rw [hr] at hq
    rw [flushXfer, Prog.run_bind_error hq] at h
    cases h
    exact sendAll_error hr
  | ok _ =>
    rw [hr] at hq
    rw [flushXfer, Prog.run_bind_ok hq, flushXferAck_eq_checkSendAck] at h
    simp only [checkSendAck] at h
    split at h
    · split at h
      · cases h
      · next e' c' hs =>
        cases h
        exact sendPacket_error (congrArg Prod.fst hs)
    · cases h

theorem flush_eq_flushXfer (s : Conn × Xfer) : flush.run s = flushXfer.run s := by
  obtain ⟨c,x⟩ := s
  have h : flush.run (c,x) = (flushQue (x.que.length + 1) >>= fun _ => checkSendAck).run (c,x) := rfl
  rw [h, flushXfer, Prog.run_bind, Prog.run_bind, flushQue_eq_flushXferQue]
  split
  · next s' _ => exact (flushXferAck_eq_checkSendAck s'.1 s'.2).symm
  · rfl

end Xfer
end VvClient
