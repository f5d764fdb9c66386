import Mathlib
import VvClient.Client.SendPosition
import VvClient.Client.Task
import VvClient.Lib.Machine
import VvClient.Lib.Sequence
import VvClient.Lib.Window

/-! The client and the server over connections that break. What was written and then lost is not
written again, so the server has every request exactly as long as nothing is lost. -/
namespace VvClient

/-- The client's queue and connection, the numbers that the server received over the connections
before, and the packets that the current connection has to carry. -/
structure Link where
  xfer : Xfer
  conn : Conn
  received : List ℤ
  owed : List Packet

inductive LinkOp
  | addQos1Json (typ : PacketType) (body : Except Error String) (msgId : Option ℤ)
  | flushXfer
  /-- The connection breaks after `kept` of its packets arrived, and `reconnect_session` gets its
  response on a new one, with the number `sn`. The server may leave out that it has nothing. -/
  | reconnectSession (kept : ℕ) (absent : Bool) (sn : Option ℤ) (request : String)
      (answers : ℕ → SendResult)

namespace Link

def new (request : String) (answers : ℕ → SendResult) : Link :=
  ⟨Xfer.new,Conn.opened request answers,[],[]⟩

/-- The requests written on the current connection. -/
def written (s : Link) : List Packet := s.conn.sent.filter fun p => p.sn?.isSome

/-- What the server has received when `kept` packets of the current connection arrive. -/
def heard (s : Link) (kept : ℕ) : List ℤ :=
  s.received ++ (s.conn.sent.take kept).filterMap Packet.sn?

/-- The server acknowledges what it has without a gap. -/
def ackOf (received : List ℤ) (absent : Bool) : Option ℤ :=
  if absent = true ∧ contiguous received = 0 then none else some (contiguous received)

def step (s : Link) : LinkOp → Link
  | .addQos1Json typ body msgId =>
    let x := ((Xfer.addQos1Json typ body msgId).run s.xfer).2
    { s with xfer := x, owed := s.owed ++ (x.que.drop s.xfer.que.length).map (·.2) }
  | .flushXfer =>
    let r := (Xfer.flushXfer.run (s.conn,s.xfer)).2
    { s with xfer := r.2, conn := r.1 }
  | .reconnectSession kept absent sn request answers =>
    let received := s.heard kept
    let x := s.xfer.takeNumbers (ackOf received absent) sn
    let r := (Xfer.flushXfer.run (Conn.opened request answers,x)).2
    { xfer := r.2
      conn := r.1
      received := received
      owed := (s.xfer.que.filter fun e => (contiguous received : ℤ) < e.1).map (·.2) }

/-- Nothing is skipped: whatever part of the current connection arrives, the server has received
`1,2,3,..` apart from repeats, and the connection carries what it owes, in order. -/
structure Complete (s : Link) : Prop where
  noGap : ∀ kept, ∃ n, firsts (s.heard kept) = numbers 0 n
  carried : s.written ++ s.xfer.unsent.map (·.2) = s.owed

/-- The connection that breaks has delivered all its requests. -/
def NothingLost (s : Link) : LinkOp → Prop
  | .reconnectSession kept _ _ _ _ => ∀ p ∈ s.conn.sent.drop kept, p.sn? = none
  | _ => True

/-- What is written on a connection and what waits, as a sender's window. -/
def window (c : Conn) (x : Xfer) : Window Packet :=
  ⟨c.sent.filter fun p => p.sn?.isSome,x.unsent.map (·.2)⟩

/-- The server has received the first `base` requests over older connections, and the queue holds
the ones after, cut where the current connection stands. -/
structure Synced (s : Link) (base : ℕ) : Prop where
  index : s.xfer.sendIndex ≤ s.xfer.que.length
  numbered : s.xfer.que.map (·.1) = numbers base s.xfer.que.length
  tail : s.xfer.tailSn = base + s.xfer.que.length
  keyed : ∀ e ∈ s.xfer.que, e.2.sn? = some e.1
  received : s.received = numbers 0 base
  cut : window s.conn s.xfer = Window.split (s.xfer.que.map (·.2)) s.xfer.sendIndex
  owed : s.owed = s.xfer.que.map (·.2)

variable {s : Link} {base : ℕ}

lemma Synced.valid (h : s.Synced base) : s.xfer.Valid := by
  refine ⟨h.index,h.numbered ▸ numbers_pairwise _ _,?_⟩
  intro e he
  have hm : e.1 ∈ numbers base s.xfer.que.length := h.numbered ▸ List.mem_map_of_mem he
  rw [h.tail]
  exact (mem_numbers.mp hm).2

lemma filterMap_sn? {que : List (ℤ × Packet)} (hk : ∀ e ∈ que, e.2.sn? = some e.1) :
    (que.map (·.2)).filterMap Packet.sn? = que.map (·.1) := by
  induction que with
  | nil => rfl
  | cons e que ih =>
    rw [List.forall_mem_cons] at hk
    rw [List.map_cons, List.filterMap_cons_some hk.1, ih hk.2, List.map_cons]

lemma filterMap_sn?_filter (ps : List Packet) :
    (ps.filter fun p => p.sn?.isSome).filterMap Packet.sn? = ps.filterMap Packet.sn? := by
  rw [List.filterMap_filter]
  apply List.filterMap_congr
  intro p _
  cases p.sn? <;> rfl

/-- The numbers written on the current connection follow those received before. -/
lemma Synced.written_sns (h : s.Synced base) :
    s.conn.sent.filterMap Packet.sn? = numbers base s.xfer.sendIndex := by
  have hw : s.written = (s.xfer.que.take s.xfer.sendIndex).map (·.2) :=
    (congrArg Window.sent h.cut).trans List.map_take.symm
  rw [← filterMap_sn?_filter]
  change s.written.filterMap Packet.sn? = _
  rw [hw, filterMap_sn? (fun e he => h.keyed e (List.mem_of_mem_take he)), List.map_take,
    h.numbered, numbers_take h.index]

/-- What the server has when some of the connection arrives: `1,..,base+j`. -/
lemma Synced.heard_eq (h : s.Synced base) (kept : ℕ) :
    ∃ j, j ≤ s.xfer.sendIndex ∧ s.heard kept = numbers 0 (base+j) ∧
      (j = s.xfer.sendIndex ↔ ∀ p ∈ s.conn.sent.drop kept, p.sn? = none) := by
  have hp : (s.conn.sent.take kept).filterMap Packet.sn? <+: numbers base s.xfer.sendIndex :=
    h.written_sns ▸ (List.take_prefix _ _).filterMap _
  obtain ⟨hj,hle⟩ := prefix_numbers hp
  refine ⟨_,hle,?_,?_⟩
  · rw [heard, h.received, numbers_add, Nat.zero_add, ← hj]
  · have hlen := congrArg List.length h.written_sns
    rw [← List.take_append_drop kept s.conn.sent, List.filterMap_append, List.length_append,
      length_numbers] at hlen
    rw [← List.filterMap_eq_nil_iff, ← List.length_eq_zero_iff]
    omega

lemma Synced.complete (h : s.Synced base) : s.Complete := by
  refine ⟨?_,?_⟩
  · intro kept
    obtain ⟨j,-,hj,-⟩ := h.heard_eq kept
    exact ⟨base+j,hj ▸ firsts_numbers _ _⟩
  · change (window s.conn s.xfer).entries = s.owed
    rw [h.cut, Window.entries_split, h.owed]

lemma Synced.new (request : String) (answers : ℕ → SendResult) : (new request answers).Synced 0 := by
  refine ⟨Nat.le_refl _,rfl,rfl,?_,rfl,rfl,rfl⟩
  simp [Link.new, Xfer.new]

/-- A flush moves the cut, and what is written with it. -/
lemma flushXfer_window (c : Conn) {x : Xfer} (hx : x.sendIndex ≤ x.que.length)
    (hk : ∀ e ∈ x.que, e.2.sn? = some e.1) :
    ∃ n, x.sendIndex + n ≤ x.que.length ∧
      (Xfer.flushXfer.run (c,x)).2.2.sendIndex = x.sendIndex + n ∧
      window (Xfer.flushXfer.run (c,x)).2.1 (Xfer.flushXfer.run (c,x)).2.2 =
        (window c x).advance n := by
  obtain ⟨hq,hi,-,-⟩ := Xfer.flushXfer_fields c x
  obtain ⟨acks,hacks,hs⟩ := Xfer.flushXfer_sent c x
  have hn := Xfer.sendAll_unsent_le hx c
  generalize (sendAll (x.unsent.map (·.2)) c).2.2 = n at hi hs hn
  refine ⟨n,hn,hi,?_⟩
  have ha : (acks.filter fun p => p.sn?.isSome) = [] := by
    rw [List.filter_eq_nil_iff]
    intro p hp
    simp [hacks p hp, Packet.ackOnly, Packet.sn?]
  have hu : ((x.unsent.map (·.2)).take n).filter (fun p => p.sn?.isSome) =
      (x.unsent.map (·.2)).take n := by
    rw [List.filter_eq_self]
    intro p hp
    obtain ⟨e,he,rfl⟩ := List.mem_map.mp (List.mem_of_mem_take hp)
    simp [hk e (List.mem_of_mem_drop he)]
  apply Window.ext
  · simp only [window, Window.advance, hs, List.filter_append, ha, hu, List.append_nil]
  · simp only [window, Window.advance, Xfer.unsent, hq, hi, List.map_drop, List.drop_drop]

lemma Synced.flushXfer (h : s.Synced base) : (step s .flushXfer).Synced base := by
  obtain ⟨hq,-,ht,-⟩ := Xfer.flushXfer_fields s.conn s.xfer
  obtain ⟨n,hn,hi,hw⟩ := flushXfer_window s.conn h.index h.keyed
  refine ⟨?_,?_,?_,?_,h.received,?_,?_⟩
  · simpa only [step, hq, hi] using hn
  · simpa only [step, hq] using h.numbered
  · simpa only [step, hq, ht] using h.tail
  · simpa only [step, hq] using h.keyed
  · simp only [step, hq, hi]
    rw [hw, h.cut, Window.split_advance]
  · simpa only [step, hq] using h.owed

lemma Synced.addQos1Json (h : s.Synced base) (typ : PacketType) (body : Except Error String)
    (msgId : Option ℤ) : (step s (.addQos1Json typ body msgId)).Synced base := by
  have hv := h.valid.addQos1Json typ body msgId
  cases body with
  | error e =>
    rw [Xfer.addQos1Json_error] at hv
    simp only [step, Xfer.addQos1Json_error]
    have hu : (Xfer.fillAck msgId s.xfer).2.unsent = s.xfer.unsent := by simp [Xfer.unsent]
    refine ⟨hv.index,?_,?_,?_,h.received,?_,?_⟩
    · simpa using h.numbered
    · simpa using h.tail
    · simpa using h.keyed
    · simpa [window, hu] using h.cut
    · simpa using h.owed
  | ok text =>
    rw [Xfer.addQos1Json_ok] at hv
    simp only [step, Xfer.addQos1Json_ok]
    have hi : s.xfer.sendIndex ≤ (s.xfer.que.map (·.2)).length := by simpa using h.index
    have ht := h.tail
    refine ⟨hv.index,?_,?_,?_,h.received,?_,?_⟩
    · simp only [List.map_append, List.map_cons, List.map_nil, List.length_append,
        List.length_cons, List.length_nil, h.numbered, numbers_succ, ht]
      simp
    · simp only [List.length_append, List.length_cons, List.length_nil, ht]
      omega
    · intro e he
      rcases List.mem_append.mp he with he | he
      · exact h.keyed e he
      · rw [List.mem_singleton.mp he]
        exact Packet.sn?_eq_some.mpr ⟨rfl,by simp only; omega⟩
    · have hc := h.cut
      simp only [window, Xfer.fillAck_sendIndex, List.map_append, List.map_cons, List.map_nil,
        Window.split_push hi, ← hc, Window.push, Xfer.unsent, List.drop_append_of_le_length h.index]
    · simp only [h.owed, List.drop_left, List.map_append]

lemma Synced.covered_eq (h : s.Synced base) {j : ℕ} (hj : j ≤ s.xfer.que.length) :
    Xfer.covered ((base+j : ℕ) : ℤ) s.xfer.que = j := by
  have ht := takeWhile_numbers (b := base) hj
  rw [← h.numbered, List.takeWhile_map] at ht
  have hl := congrArg List.length ht
  rwa [List.length_map, length_numbers] at hl

/-- What the server has not received without a gap is the rest of the queue. -/
lemma Synced.filter_eq (h : s.Synced base) {j : ℕ} (hj : j ≤ s.xfer.que.length) :
    (s.xfer.que.filter fun e => ((base+j : ℕ) : ℤ) < e.1) = s.xfer.que.drop j := by
  have htake : (s.xfer.que.take j).filter (fun e => ((base+j : ℕ) : ℤ) < e.1) = [] := by
    rw [List.filter_eq_nil_iff]
    intro e he
    have hm : e.1 ∈ numbers base j := by
      rw [← numbers_take hj, ← h.numbered, ← List.map_take]
      exact List.mem_map_of_mem he
    have := mem_numbers.mp hm
    rw [decide_eq_true_eq]
    omega
  have hdrop : (s.xfer.que.drop j).filter (fun e => ((base+j : ℕ) : ℤ) < e.1) =
      s.xfer.que.drop j := by
    rw [List.filter_eq_self]
    intro e he
    have hm : e.1 ∈ numbers (base+j) (s.xfer.que.length-j) := by
      rw [← numbers_drop hj, ← h.numbered, ← List.map_drop]
      exact List.mem_map_of_mem he
    have := mem_numbers.mp hm
    exact decide_eq_true (by omega)
  conv_lhs => rw [← List.take_append_drop j s.xfer.que]
  rw [List.filter_append, htake, hdrop, List.nil_append]

/-- The response takes the acknowledged requests off the queue and leaves the cut where it is. -/
lemma Synced.takeNumbers (h : s.Synced base) {j : ℕ} (hj : j ≤ s.xfer.sendIndex) (absent : Bool)
    (sn : Option ℤ) {x : Xfer} (hx : x = s.xfer.takeNumbers (ackOf (numbers 0 (base+j)) absent) sn) :
    x.que = s.xfer.que.drop j ∧ x.sendIndex = s.xfer.sendIndex - j ∧ x.tailSn = s.xfer.tailSn := by
  subst hx
  rw [ackOf, contiguous_numbers]
  split_ifs with ha
  · obtain rfl : j = 0 := by omega
    exact ⟨Xfer.takeNumbers_none_que _ _,Xfer.takeNumbers_none_sendIndex _ _,
      Xfer.takeNumbers_tailSn _ _ _⟩
  · have hc := h.covered_eq (hj.trans h.index)
    have hb := (Xfer.covered_le_iff h.valid ((base+j : ℕ) : ℤ)).mp (hc.le.trans hj)
    obtain ⟨hq,hi,-⟩ := Xfer.updateRecvAck_window h.valid hb
    rw [hc] at hq hi
    rw [Xfer.takeNumbers_que, Xfer.takeNumbers_sendIndex]
    exact ⟨hq,hi,Xfer.takeNumbers_tailSn _ _ _⟩

/-- A reconnect after which the server has `1,..,base+j`: what it owes is everything after, what
it has written and will write is what was not sent before. -/
lemma Synced.reconnect (h : s.Synced base) {kept j : ℕ} (hj : j ≤ s.xfer.sendIndex)
    (hh : s.heard kept = numbers 0 (base+j)) (absent : Bool) (sn : Option ℤ) (request : String)
    (answers : ℕ → SendResult) {t : Link}
    (ht : t = step s (.reconnectSession kept absent sn request answers)) :
    t.owed = (s.xfer.que.drop j).map (·.2) ∧ t.received = numbers 0 (base+j) ∧
      t.xfer.que = s.xfer.que.drop j ∧ t.xfer.tailSn = s.xfer.tailSn ∧
      ∃ n, s.xfer.sendIndex - j + n ≤ s.xfer.que.length - j ∧
        t.xfer.sendIndex = s.xfer.sendIndex - j + n ∧ window t.conn t.xfer =
          (Window.mk [] ((s.xfer.que.drop s.xfer.sendIndex).map (·.2))).advance n := by
  subst ht
  have hx := h.takeNumbers hj absent sn rfl
  simp only [step, hh]
  generalize s.xfer.takeNumbers (ackOf (numbers 0 (base+j)) absent) sn = x at hx
  obtain ⟨hq,hi,ht⟩ := hx
  have hk : ∀ e ∈ x.que, e.2.sn? = some e.1 :=
    fun e he => h.keyed e (List.mem_of_mem_drop (hq ▸ he))
  have hl : x.que.length = s.xfer.que.length - j := by rw [hq, List.length_drop]
  have hidx : x.sendIndex ≤ x.que.length := by
    have := h.index
    omega
  obtain ⟨hq',-,ht',-⟩ := Xfer.flushXfer_fields (Conn.opened request answers) x
  obtain ⟨n,hn,hi',hw⟩ := flushXfer_window (Conn.opened request answers) hidx hk
  refine ⟨?_,trivial,hq'.trans hq,ht'.trans ht,n,by omega,hi'.trans (by rw [hi]),?_⟩
  · rw [contiguous_numbers, h.filter_eq (hj.trans h.index)]
  · rw [hw]
    congr 1
    apply Window.ext
    · rfl
    · simp only [window, Xfer.unsent, hq, hi, List.drop_drop]
      rw [Nat.add_sub_cancel' hj]

/-- One step without loss keeps the two sides together. -/
lemma Synced.step (h : s.Synced base) {op : LinkOp} (hg : s.NothingLost op) :
    ∃ base', (step s op).Synced base' := by
  cases op with
  | addQos1Json typ body msgId => exact ⟨base,h.addQos1Json typ body msgId⟩
  | flushXfer => exact ⟨base,h.flushXfer⟩
  | reconnectSession kept absent sn request answers =>
    obtain ⟨j,hj,hh,hlost⟩ := h.heard_eq kept
    obtain rfl := hlost.mpr hg
    obtain ⟨howed,hr,hq,ht,n,hn,hi,hw⟩ := h.reconnect hj hh absent sn request answers rfl
    rw [Nat.sub_self, Nat.zero_add] at hi hn
    have hl := h.index
    refine ⟨base+s.xfer.sendIndex,?_,?_,?_,?_,hr,?_,?_⟩
    · rw [hi, hq, List.length_drop]
      exact hn
    · rw [hq, List.map_drop, h.numbered, numbers_drop hl, List.length_drop]
    · rw [hq, ht, h.tail, List.length_drop]
      omega
    · rw [hq]
      exact fun e he => h.keyed e (List.mem_of_mem_drop he)
    · have hs := Window.split_advance ((s.xfer.que.drop s.xfer.sendIndex).map (·.2)) 0 n
      rw [Nat.zero_add] at hs
      rw [hw, hi, hq, hs]
      rfl
    · rw [howed, hq]

/-- A request that was lost is owed and neither written nor waiting. -/
lemma Synced.not_complete (h : s.Synced base) {op : LinkOp} (hg : ¬ s.NothingLost op) :
    ¬ (Link.step s op).Complete := by
  intro hc
  cases op with
  | addQos1Json typ body msgId => exact hg trivial
  | flushXfer => exact hg trivial
  | reconnectSession kept absent sn request answers =>
    obtain ⟨j,hj,hh,hlost⟩ := h.heard_eq kept
    obtain ⟨howed,-,-,-,n,-,-,hw⟩ := h.reconnect hj hh absent sn request answers rfl
    have hcar : (window _ _).entries = _ := hc.carried
    rw [hw, howed, Window.entries_advance] at hcar
    have hlen := congrArg List.length hcar
    simp only [Window.entries, List.nil_append, List.length_map, List.length_drop] at hlen
    have hl := h.index
    exact hg (hlost.mp (by omega))

open Machine

/-- Whole runs: no request is skipped exactly when no connection breaks with a written request
that did not arrive. -/
theorem complete_iff_nothing_lost (request : String) (answers : ℕ → SendResult) (ops : List LinkOp) :
    Always step Complete (new request answers) ops ↔
      EveryStep step NothingLost (new request answers) ops := by
  refine always_iff (I := fun s => ∃ base, s.Synced base) ?_ ?_ ?_ ⟨0,.new request answers⟩ ops
  · rintro s ⟨base,h⟩
    exact h.complete
  · rintro s op ⟨base,h⟩ hg
    exact h.step hg
  · rintro s op ⟨base,h⟩ hg
    exact h.not_complete hg

/-- Two requests are written, the first arrives, and the connection breaks: the second is never
written on the next connection. -/
theorem lost_request_skipped :
    let ops : List LinkOp := [.addQos1Json .request (.ok "a") none,.addQos1Json .request (.ok "b") none,
      .flushXfer,.reconnectSession 2 false none "r" fun _ => .sent,
      .addQos1Json .request (.ok "c") none,.flushXfer]
    let s := run step (new "o" fun _ => .sent) ops
    firsts (s.heard 2) = [1,3] ∧ ¬ s.Complete := by
  refine ⟨by decide,?_⟩
  intro h
  exact absurd h.carried (by decide)

end Link

namespace Task

open Prog

variable {δ α : Type} (serde : Serde) (fuel : ℕ)

/-- A `reconnect_session` that succeeds leaves the queue and the connection that the step of the
link leaves when the response has the link's acknowledgement. -/
def Resumes (answers : ℕ → SendResult) (l : Link) (r : Except Stop Unit) (s : Task δ × Session) :
    Prop :=
  r = .ok () → ∃ (request : String) (p : Packet), ∀ kept absent,
    p.ack = Link.ackOf (l.heard kept) absent →
      s.2.conn = (l.step (.reconnectSession kept absent p.sn? request answers)).conn ∧
      s.2.xfer = (l.step (.reconnectSession kept absent p.sn? request answers)).xfer

lemma resumes_error {answers : ℕ → SendResult} {l : Link} (stop : Stop) (s : Task δ × Session) :
    Resumes answers l (.error stop) s := fun h => by cases h

lemma onTask_same {x : Xfer} (m : Prog (Task δ) Stop α) :
    Triple (fun s : Task δ × Session => s.2.xfer = x) (onTask m) (fun _ s => s.2.xfer = x) :=
  fun _ h => h

lemma sendRequest_opened {answers : ℕ → SendResult} {request text : String} {t t' : Task δ} {c : Conn}
    (h : (withContext text (onConn (Conn.sendPacket
      ⟨some PacketType.request.asNum,none,some request,none⟩) (Conn.fresh answers))).run t =
        (.ok c,t')) : c = Conn.opened request answers := by
  cases ha : answers 0 <;>
    simp [withContext, onConn, Conn.sendPacket, Conn.fresh, Conn.answer, ha, SendResult.toExcept,
      Except.map, Except.mapError] at h
  exact h.1.symm

/-- The worker's reconnect takes the step of the link, whichever acknowledgement the response has. -/
theorem reconnectSession_resumes (answers : ℕ → SendResult) (l : Link) :
    Triple (fun s : Task δ × Session => s.2.xfer = l.xfer)
      (reconnectSession serde fuel (Conn.fresh answers)) (Resumes answers l) := by
  refine Triple.bind (onTask_same _) (fun _ => ?_) fun e s _ => resumes_error e s
  intro s hs
  simp only [run_get_bind]
  generalize serde.reconnectRequest _ = request
  refine Triple.bind (P := fun s => s.2.xfer = l.xfer)
    (R := fun r s => s.2.xfer = l.xfer ∧ ∀ c, r = .ok c → c = Conn.opened request answers)
    (fun s hs => ⟨hs,fun c hc => sendRequest_opened (t := s.1) (Prod.ext hc rfl)⟩)
    (fun c => ?_) (fun e s _ => resumes_error e s) s hs
  intro s hs
  obtain rfl := hs.2 c rfl
  refine Triple.loop (I := fun s => s.2.xfer = l.xfer) (Triple.bind (onTask_same _) (fun r => ?_)
    fun e s _ => resumes_error e s) (fun s _ => resumes_error _ s) fuel s hs.1
  cases r with
  | none =>
    refine Triple.bind (onTask_same _) (fun b => ?_) fun e s _ => resumes_error e s
    cases b with
    | true => exact fun s h => resumes_error _ s
    | false => exact fun s h => h
  | some p =>
    refine Triple.bind (onTask_same _) (fun _ => ?_) fun e s _ => resumes_error e s
    refine Triple.bind (R := fun _ s => s.2.xfer = l.xfer) (fun s h => h) (fun connId => ?_)
      fun e s _ => resumes_error e s
    intro s hx
    rcases hr : Xfer.flushXfer.run (Conn.opened request answers,l.xfer.takeNumbers p.ack p.sn?)
      with ⟨r,c,y⟩
    cases r with
    | ok u =>
      simp [run_bind, hx, onSession, onTask, Session.onWire, Session.startHeartbeat, hr]
      intro _
      refine ⟨request,p,fun kept absent ha => ?_⟩
      simp [Link.step, ← ha, hr]
    | error e =>
      simp [run_bind, hx, onSession, onTask, Session.onWire, Session.startHeartbeat, hr]
      exact resumes_error _ _
end Task
end VvClient
