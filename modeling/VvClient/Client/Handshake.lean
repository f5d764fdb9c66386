import VvClient.Client.Join
import VvClient.Client.Reconnect

/-! How a connection begins: with the request that opens or resumes the session, which is the only
request on it without a number. -/
namespace VvClient

open Prog

/-- Every packet that waits has a number. -/
def Xfer.Numbered (x : Xfer) : Prop := ∀ e ∈ x.que, e.2.sn ≠ none

/-- The delegate queues requests with numbers only. -/
structure Delegate.Numbers {δ : Type} (d : Delegate δ) : Prop where
  opening : Keeps (fun s => s.2.Numbered) d.onOpening
  opened : ∀ sessionId, Keeps (fun s => s.2.Numbered) (d.onOpened sessionId)
  process : Keeps (fun s => s.2.Numbered) d.onProcess
  response : ∀ ack response, Keeps (fun s => s.2.Numbered) (d.onResponse ack response)
  push : ∀ push, Keeps (fun s => s.2.Numbered) (d.onPush push)

/-- On the connection, `p` was written first, and no request without a number behind it; nor does one
wait for the connection. -/
structure Begun (p : Packet) (w : Conn × Xfer) : Prop where
  sent : ∃ rest, w.1.sent = p::rest ∧ ∀ q ∈ rest, q.typ = none ∨ q.sn ≠ none
  numbered : w.2.Numbered

namespace Xfer

lemma Numbered.new : new.Numbered := fun _ he => absurd he List.not_mem_nil

lemma Numbered.addQos1Json {x : Xfer} (hx : x.Numbered) (typ : PacketType) (body : Except Error String)
    (msgId : Option ℤ) : ((addQos1Json typ body msgId).run x).2.Numbered := by
  cases body with
  | error e =>
    rw [addQos1Json_error]
    intro e he
    exact hx e (fillAck_que msgId x ▸ he)
  | ok text =>
    rw [addQos1Json_ok]
    intro e he
    rcases List.mem_append.mp he with he | he
    · exact hx e he
    · rw [List.mem_singleton.mp he]
      exact Option.some_ne_none _

lemma Numbered.takeNumbers {x : Xfer} (hx : x.Numbered) (ack sn : Option ℤ) :
    (x.takeNumbers ack sn).Numbered :=
  fun e he => hx e ((takeNumbers_que_suffix ack sn x).subset he)

end Xfer

namespace Begun
variable {p : Packet} {c : Conn} {x : Xfer}

/-- Packets of the queue and acknowledgements are written behind. -/
lemma behind (h : Begun p (c,x)) {c' : Conn} {x' : Xfer} {ps : List Packet} (hc : c'.sent = c.sent ++ ps)
    (hps : ∀ q ∈ ps, q.typ = none ∨ q.sn ≠ none) (hx : x'.que = x.que) : Begun p (c',x') := by
  obtain ⟨rest,hsent,hrest⟩ := h.sent
  dsimp only at hsent
  refine ⟨⟨rest ++ ps,?_,fun q hq => ?_⟩,fun e he => h.numbered e (hx ▸ he)⟩
  · rw [hc, hsent, List.cons_append]
  · rcases List.mem_append.mp hq with hq | hq
    · exact hrest q hq
    · exact hps q hq

lemma flushAck : Keeps (Begun p) Xfer.flushXferAck := by
  rintro ⟨c,x⟩ h
  obtain ⟨acks,hacks,hsent⟩ := Xfer.checkSendAck_sent c x
  rw [Xfer.flushXferAck_eq_checkSendAck]
  refine h.behind hsent (fun q hq => ?_) (Xfer.checkSendAck_fields c x).1
  rw [hacks q hq]
  exact .inl rfl

lemma flush : Keeps (Begun p) Xfer.flushXfer := by
  rintro ⟨c,x⟩ h
  obtain ⟨acks,hacks,hsent⟩ := Xfer.flushXfer_sent c x
  rw [List.append_assoc] at hsent
  refine h.behind hsent (fun q hq => ?_) (Xfer.flushXfer_fields c x).1
  rcases List.mem_append.mp hq with hq | hq
  · obtain ⟨e,he,rfl⟩ := List.mem_map.mp (List.mem_of_mem_take hq)
    exact .inr (h.numbered e (List.mem_of_mem_drop he))
  · rw [hacks q hq]
    exact .inl rfl

/-- A new connection begins with the first packet that is written on it. -/
lemma first (hc : c.log = []) (hx : x.Numbered) (ha : c.answer = .sent) :
    Begun p (((Conn.sendPacket p).run c).2,x) := by
  refine ⟨⟨[],?_,fun q hq => absurd hq List.not_mem_nil⟩,hx⟩
  rw [(Conn.sendPacket_sent ha).2, Conn.sent, hc]
  rfl

end Begun

namespace Task

variable {δ α : Type}

abbrev HasConfig (cfg : JoinConfig) (t : Task δ) : Prop := t.config = cfg

section Waits
variable (cfg : JoinConfig) (serde : Serde) (mode : RecvCancelMode) (fuel : ℕ)

lemma wait_config : Keeps (HasConfig (δ := δ) cfg) wait := by
  intro t h
  unfold wait
  cases hw : t.env.waits with
  | nil =>
    simp only [hw]
    exact h
  | cons w ws =>
    simp only [hw]
    exact h

lemma checkGuard_config : Keeps (HasConfig (δ := δ) cfg) (checkGuard (α := α)) := fun _ h => h

lemma shouldBreak_config : Keeps (HasConfig (δ := δ) cfg) (shouldBreak mode) := fun _ h => h

lemma recvRaw_config : Keeps (HasConfig (δ := δ) cfg) (recvRaw fuel mode) := by
  refine Keeps.loop (Keeps.bind (wait_config cfg) fun w => ?_) fuel
  cases w with
  | token => exact Keeps.bind (shouldBreak_config cfg mode) fun _ => Keeps.pure _
  | dropped => exact checkGuard_config cfg
  | text raw => exact Keeps.pure _
  | noText => exact Keeps.pure _
  | _ => exact Keeps.fail _

lemma recvPacket_config : Keeps (HasConfig (δ := δ) cfg) (recvPacket serde fuel mode) := by
  refine Keeps.bind (recvRaw_config cfg mode fuel) fun r => ?_
  cases r with
  | none => exact Keeps.pure _
  | some raw =>
    dsimp only
    cases serde.packet raw with
    | none => exact Keeps.fail _
    | some p => exact Keeps.pure _

lemma sleep_config (d : ℕ) : Keeps (HasConfig (δ := δ) cfg) (sleep fuel mode d) := by
  refine Keeps.get_bind fun t => Keeps.get_bind fun t' => ?_
  split
  · exact checkGuard_config cfg
  · refine Keeps.loop (Keeps.bind (wait_config cfg) fun w => ?_) fuel
    cases w with
    | token =>
      refine Keeps.bind (shouldBreak_config cfg mode) fun b => ?_
      cases b with
      | true => exact Keeps.pure _
      | false => exact Keeps.pure _
    | dropped => exact checkGuard_config cfg
    | timer => exact Keeps.bind (fun _ h => h) fun _ => Keeps.pure _
    | _ => exact Keeps.fail _

/-- A connection is new where it is made. -/
abbrev Connects (cfg : JoinConfig) : Except Stop Conn → Task δ → Prop :=
  Leaves (fun conn t => conn.log = [] ∧ HasConfig cfg t) (HasConfig cfg)

/-- A part that the connection does not come from. -/
lemma config_kept {m : Prog (Task δ) Stop α} (hm : Keeps (HasConfig cfg) m) :
    Triple (HasConfig cfg) m (Leaves (fun _ => HasConfig cfg) (HasConfig cfg)) :=
  leaves_of_keeps hm fun _ h => h

lemma connectTo_connects : Triple (HasConfig (δ := δ) cfg) (connectTo serde fuel mode) (Connects cfg) := by
  refine Triple.get_bind fun t => Triple.get_bind fun t' => ?_
  split
  · exact fun t h => h
  · refine quits_loop (fun _ h => h) (quits_bind (config_kept cfg (wait_config cfg)) fun w => ?_) fuel
    cases w with
    | token =>
      refine quits_bind (config_kept cfg (shouldBreak_config cfg mode)) fun b => ?_
      cases b with
      | true => exact leaves_fail fun _ h => h
      | false => exact quits_pure fun _ h => h
    | dropped => exact fun t h => h
    | connected answers => exact quits_pure fun _ h => ⟨rfl,h⟩
    | _ => exact leaves_fail fun _ h => h

/-- What the retrying loops do after a failure. -/
lemma retry_config {O : α → Task δ → Prop} (e : Error) (text : String) : Triple (HasConfig cfg)
    (do
      if ← shouldBreak mode then Prog.fail (.err e)
      else if ← sleep fuel mode (← Prog.get).config.connection.retryInterval then return none
      else Prog.fail (.err (.msg text)))
    (Leaves (Round O (HasConfig cfg)) (HasConfig cfg)) := by
  refine quits_bind (config_kept cfg (shouldBreak_config cfg mode)) fun b => ?_
  cases b with
  | true => exact leaves_fail fun _ h => h
  | false =>
    refine Triple.get_bind fun t => quits_bind (config_kept cfg (sleep_config cfg mode fuel _)) fun b => ?_
    cases b with
    | true => exact quits_pure fun _ h => h
    | false => exact leaves_fail fun _ h => h

lemma connectLoop_connects : Triple (HasConfig (δ := δ) cfg) (connectLoop serde fuel mode)
    (Connects cfg) := by
  refine quits_bind (config_kept cfg (shouldBreak_config cfg mode)) fun b => ?_
  cases b with
  | true => exact leaves_fail fun _ h => h
  | false =>
    refine quits_loop (fun _ h => h) (quits_catching (connectTo_connects cfg serde mode fuel) ?_ ?_) fuel
    · exact fun conn => quits_pure fun _ h => h
    · exact fun e => retry_config cfg mode fuel e _

lemma connectLoop_config : Keeps (HasConfig (δ := δ) cfg) (connectLoop serde fuel mode) := by
  refine keeps_of_leaves ((connectLoop_connects cfg serde mode fuel).post fun r t h => ?_)
  cases r with
  | ok conn => exact h.2
  | error e => exact leaves_error.mpr (leaves_error.mp h)

end Waits

section Open
variable (cfg : JoinConfig) {d : Delegate δ} (hd : d.Numbers) (serde : Serde) (fuel : ℕ)

/-- The connection has begun with the open request. -/
abbrev Opening (cfg : JoinConfig) (w : Conn × Xfer) (t : Task δ) : Prop :=
  Begun (.handshake cfg.openRequest) w ∧ HasConfig cfg t

lemma openSessionSend_begins {conn : Conn} (hc : conn.log = []) : Triple (HasConfig (δ := δ) cfg)
    (openSessionSend conn) (Leaves (fun conn => Opening cfg (conn,Xfer.new)) (HasConfig cfg)) := by
  rintro t rfl
  have hrun : (openSessionSend conn).run t = ((((Conn.sendPacket
      (.handshake t.config.openRequest)).run conn).1.map fun _ => ((Conn.sendPacket
        (.handshake t.config.openRequest)).run conn).2).mapError (Stop.context "send_packet failed"),t) := rfl
  rw [hrun]
  cases ha : conn.answer with
  | sent =>
    rw [(Conn.sendPacket_sent ha).1]
    exact ⟨Begun.first hc Xfer.Numbered.new ha,rfl⟩
  | _ =>
    obtain ⟨⟨e,he⟩,-⟩ := Conn.sendPacket_unsent (p := .handshake t.config.openRequest)
      (c := conn) (by simp [ha])
    rw [he]
    exact leaves_error.mpr rfl

include hd in
lemma callOpening_begins (conn : Conn) : Triple (Opening cfg (conn,Xfer.new)) (callOpening d)
    (Leaves (fun xfer => Opening cfg (conn,xfer)) (HasConfig cfg)) := by
  rintro t ⟨hb,hcfg⟩
  have hx := hd.opening (t.listener,Xfer.new) Xfer.Numbered.new
  have hres : ((callOpening d).run t).1 = ((d.onOpening.run (t.listener,Xfer.new)).1.map fun _ =>
      (d.onOpening.run (t.listener,Xfer.new)).2.2).mapError .err := rfl
  rw [hres]
  cases (d.onOpening.run (t.listener,Xfer.new)).1 with
  | ok _ => exact ⟨⟨hb.sent,hx⟩,hcfg⟩
  | error e => exact hcfg

lemma flushOn_begins (conn : Conn) (xfer : Xfer) : Triple (Opening cfg (conn,xfer))
    (flushOn (δ := δ) conn xfer) (Leaves (Opening cfg) (HasConfig cfg)) := by
  rintro t ⟨hb,hcfg⟩
  have hflushed := Begun.flush (conn,xfer) hb
  have hres : ((flushOn conn xfer).run t).1 = (Xfer.flushXfer.run (conn,xfer)).1.map fun _ =>
      (Xfer.flushXfer.run (conn,xfer)).2 := rfl
  rw [hres]
  cases (Xfer.flushXfer.run (conn,xfer)).1 with
  | ok _ => exact ⟨hflushed,hcfg⟩
  | error e => exact leaves_error.mpr hcfg

/-- A part that only waits. -/
lemma opening_kept {w : Conn × Xfer} {m : Prog (Task δ) Stop α} (hm : Keeps (HasConfig cfg) m) :
    Triple (Opening cfg w) m (Leaves (fun _ => Opening cfg w) (HasConfig cfg)) :=
  leaves_of_keeps (fun t h => ⟨h.1,hm t h.2⟩) fun _ h => h.2

include hd in
lemma openSession_begins {conn : Conn} (hc : conn.log = []) : Triple (HasConfig cfg)
    (openSession d fuel conn) (Leaves (fun r => Opening cfg (r.1,r.2.2)) (HasConfig cfg)) := by
  refine quits_bind (quits_context _ (openSessionSend_begins cfg hc)) fun conn => ?_
  refine quits_bind (callOpening_begins cfg hd conn) fun xfer => ?_
  refine quits_bind (flushOn_begins cfg conn xfer) fun w => ?_
  refine quits_loop (fun _ h => h.2) (quits_bind (quits_context _ (opening_kept cfg
    (recvRaw_config cfg .connect fuel))) fun raw => ?_) fuel
  cases raw with
  | some raw => exact quits_bind (opening_kept cfg fun _ h => h) fun _ => quits_pure fun _ h => h
  | none =>
    refine quits_bind (opening_kept cfg (shouldBreak_config cfg .connect)) fun b => ?_
    cases b with
    | true => exact leaves_fail fun _ h => h.2
    | false => exact quits_pure fun _ h => h

include hd in
lemma openLoop_begins : Triple (HasConfig cfg) (openLoop d serde fuel)
    (Leaves (fun r => Opening cfg (r.1,r.2.2)) (HasConfig cfg)) := by
  refine quits_loop (fun _ h => h) (quits_bind (connectLoop_connects cfg serde .connect fuel)
    fun conn => ?_) fuel
  rintro t ⟨hc,hcfg⟩
  refine quits_catching (openSession_begins cfg hd fuel hc) (fun r => ?_) (fun e => ?_) t hcfg
  · exact quits_pure fun _ h => h
  · exact retry_config cfg .connect fuel e _

include hd in
/-- The session that is opened works on a connection that has begun with the open request. -/
lemma phaseOpen_begins : Triple (HasConfig cfg) (phaseOpen d serde fuel)
    (Leaves (fun session => Opening cfg (session.conn,session.xfer)) (HasConfig cfg)) := by
  refine Triple.get_bind fun t => quits_bind (quits_timeout _ (fun _ h => h)
    (openLoop_begins cfg hd serde fuel)) fun r => ?_
  obtain ⟨conn,raw,xfer⟩ := r
  cases hp : serde.packet raw with
  | none =>
    simp only [hp]
    exact leaves_fail fun _ h => h.2
  | some packet =>
    simp only [hp]
    refine quits_bind (opening_kept cfg (Keeps.withContext _ (Keeps.ofExcept _))) fun ids =>
      Triple.get_bind fun t => Triple.get_bind fun t' => ?_
    refine quits_bind (opening_kept cfg (Keeps.catching fun _ h => h)) fun _ => quits_pure fun _ h => ?_
    exact ⟨⟨h.1.sent,hd.opened ids.1 (t'.listener,xfer) h.1.numbered⟩,h.2⟩

end Open

/-- What the packet `p` that began the connection is, where `c` are the numbers of the last attempt
and of the latest accepted one: the open request, or the request of the latest accepted attempt. -/
structure Greets (serde : Serde) (cfg : JoinConfig) (c : ℤ × ℤ) (sessionId : String) (p : Packet) :
    Prop where
  counted : 0 ≤ c.2 ∧ c.2 ≤ c.1
  request : (c.2 = 0 ∧ p = .handshake cfg.openRequest) ∨ ∃ last, 0 ≤ last ∧ last < c.2 ∧
    p = requestPacket serde ⟨sessionId,cfg.token,c.2,last,reconnectMagic⟩

/-- The session works on a connection that began with `p`. -/
structure Underway (cfg : JoinConfig) (c : ℤ × ℤ) (sessionId : String) (p : Packet)
    (s : Task δ × Session) : Prop where
  config : HasConfig cfg s.1
  seqs : HasSeqs c s
  sessionId : s.2.sessionId = sessionId
  begun : Begun p (s.2.conn,s.2.xfer)

/-- The connection of the session began with a request for this session. -/
def Greeted (serde : Serde) (cfg : JoinConfig) (s : Task δ × Session) : Prop :=
  ∃ c sessionId p, Greets serde cfg c sessionId p ∧ Underway cfg c sessionId p s

section Work
variable {cfg : JoinConfig} {c : ℤ × ℤ} {sessionId : String} {p : Packet} {d : Delegate δ}
  (hd : d.Numbers) (serde : Serde) (fuel : ℕ)

lemma underway_waits {m : Prog (Task δ) Stop α} (hcfg : Keeps (HasConfig cfg) m)
    (hm : ∀ {J : Task δ → Prop}, Resting J → Keeps J m) :
    Keeps (Underway cfg c sessionId p) (onTask m) :=
  fun s h => ⟨hcfg s.1 h.config,hm (seqs_resting c) s.1 h.seqs,h.sessionId,h.begun⟩

/-- The session goes on on its connection. -/
def Steady (sessionId : String) (p : Packet) (s : Session) : Prop :=
  s.sessionId = sessionId ∧ Begun p (s.conn,s.xfer)

lemma underway_session {m : Prog Session Stop α} (hm : Keeps (Steady sessionId p) m) :
    Keeps (Underway (δ := δ) cfg c sessionId p) (onSession m) := by
  intro s h
  obtain ⟨hid,hb⟩ := hm s.2 ⟨h.sessionId,h.begun⟩
  exact ⟨h.config,h.seqs,hid,hb⟩

lemma steady_wire {m : Prog (Conn × Xfer) Stop α} (hm : Keeps (Begun p) m) :
    Keeps (Steady sessionId p) (Session.onWire m) := fun s h => ⟨h.1,hm (s.conn,s.xfer) h.2⟩

lemma steady_tick (cfg : ConnectionConfig) (body : String) (now : ℕ) :
    Keeps (Steady sessionId p) (Session.handleHeartbeatTick cfg body now) := by
  unfold Session.handleHeartbeatTick
  split
  · exact Keeps.pure _
  refine Keeps.get_bind fun s => ?_
  split
  · exact Keeps.fail _
  refine Keeps.get_bind fun s => ?_
  split
  · refine Keeps.get_bind fun s => ?_
    split
    · refine Keeps.bind (fun s h => ?_) fun sn => ?_
      · exact ⟨h.1,h.2.sent,h.2.numbered.addQos1Json .request (.ok body) none⟩
      · exact Keeps.bind (Keeps.modify fun _ h => h) fun _ =>
          Keeps.bind (Keeps.modify fun _ h => h) fun _ => steady_wire Begun.flush
    · exact Keeps.pure _
  · exact Keeps.pure _

lemma steady_heartbeat (ack : ℤ) (response : ServerResponse) : Keeps (Steady sessionId p)
    (Prog.mapError Stop.err (Session.tryHandleHeartbeatResponse ack response)) := by
  intro s h
  obtain ⟨pending,hs⟩ := Session.tryHandle_keeps ack response s
  rw [run_mapError, hs]
  exact h

/-- A call of the delegate leaves the connection alone. -/
lemma underway_call {call : Call} {m : Prog (δ × Xfer) Error Unit}
    (hm : Keeps (fun s => s.2.Numbered) m) : Keeps (Underway cfg c sessionId p) (callWith call m) :=
  fun s h => ⟨h.config,h.seqs,h.sessionId,h.begun.sent,hm (s.1.listener,s.2.xfer) h.begun.numbered⟩

lemma underway_hear (h : Heard) : Keeps (Underway (δ := δ) cfg c sessionId p) (onTask (hear h)) :=
  fun _ hs => ⟨hs.config,hs.seqs,hs.sessionId,hs.begun⟩

include hd in
lemma underway_inPhase : KeptInPhase d serde fuel (Underway cfg c sessionId p) where
  recv := underway_waits (recvPacket_config cfg serde .work fuel) fun hJ => hJ.recvPacket serde .work fuel
  mode := underway_waits (shouldBreak_config cfg .work) fun hJ => hJ.shouldBreak .work
  clock _ _ h := ⟨h.config,h.seqs,h.sessionId,h.begun⟩
  hears p' := underway_hear (.work p')
  noteClosed _ _ h := ⟨h.config,h.seqs,h.sessionId,h.begun⟩
  process := underway_call hd.process
  response _ ack rsp := underway_call (hd.response ack rsp)
  push _ x := underway_call (hd.push x)
  flush := underway_session (steady_wire Begun.flush)
  flushAck := underway_session (steady_wire Begun.flushAck)
  closeFrame := underway_session (steady_wire fun _ h => h)
  tick cfg now := underway_session (steady_tick cfg _ now)
  heartbeat ack rsp := underway_session (steady_heartbeat ack rsp)
  onRecv _ := underway_session fun _ h => h
  numbers ack sn := underway_session fun _ h => ⟨h.1,h.2.sent,h.2.numbered.takeNumbers ack sn⟩

variable {serde} in
/-- What keeps the connection keeps how it began. -/
lemma greeted_kept {m : Prog (Task δ × Session) Stop α}
    (hm : ∀ c sessionId p, Keeps (Underway cfg c sessionId p) m) : Keeps (Greeted serde cfg) m := by
  rintro s ⟨c,sessionId,p,hg,hu⟩
  exact ⟨c,sessionId,p,hg,hm c sessionId p s hu⟩

lemma greeted_waits {m : Prog (Task δ) Stop α} (hcfg : Keeps (HasConfig cfg) m)
    (hm : ∀ {J : Task δ → Prop}, Resting J → Keeps J m) : Keeps (Greeted serde cfg) (onTask m) :=
  greeted_kept fun _ _ _ => underway_waits hcfg hm

lemma reconnectSession_config (conn : Conn) : Keeps (fun s : Task δ × Session => HasConfig cfg s.1)
    (reconnectSession serde fuel conn) := by
  refine Keeps.bind (fun _ h => h) fun _ => Keeps.get_bind fun s => ?_
  refine Keeps.bind (fun _ h => h) fun conn => ?_
  refine Keeps.loop (Keeps.bind (fun s h => recvPacket_config cfg serde .work fuel s.1 h)
    fun r => ?_) fuel
  cases r with
  | none =>
    refine Keeps.bind (fun _ h => h) fun b => ?_
    cases b with
    | true => exact Keeps.fail _
    | false => exact Keeps.pure _
  | some packet =>
    refine Keeps.bind (fun _ h => h) fun _ => Keeps.bind (Keeps.withContext _ (Keeps.ofExcept _))
      fun connId => Keeps.bind (fun _ h => h) fun _ => Keeps.get_bind fun s => ?_
    exact Keeps.bind (fun _ h => h) fun _ => Keeps.bind (fun _ h => h) fun _ =>
      Keeps.bind (fun _ h => h) fun _ => Keeps.pure _

/-- An attempt that is accepted has written its request. -/
lemma sent_of_accepted {conn : Conn} {s : Task δ × Session}
    (h : accepted serde s.1 ((reconnectSession serde fuel conn).run s).2.1 = true) :
    conn.answer = .sent := by
  by_contra ha
  obtain ⟨⟨e,he⟩,-⟩ := Conn.sendPacket_unsent (p := requestPacket serde (reconnectRequest s)) ha
  have hrun : ((reconnectSession serde fuel conn).run s).2 =
      ({ s.1 with reconnectTrySeq := s.1.reconnectTrySeq+1 },s.2) := by
    rw [reconnectSession_sends, run_bind]
    simp only [onTask, onConn, run_zoom, withContext, run_mapError, he, Except.map, Except.mapError]
  rw [hrun] at h
  simp [accepted] at h

/-- An attempt on a new connection leaves the session on its connection, or takes over the new one,
which has begun with the request of the attempt. -/
lemma reconnectSession_greets {conn : Conn} (hc : conn.log = []) :
    Keeps (Greeted serde cfg) (reconnectSession (δ := δ) serde fuel conn) := by
  rintro s ⟨c,sessionId,p,hg,hu⟩
  have hcfg := reconnectSession_config serde fuel conn s hu.config
  have ha := reconnectSession_attempted serde fuel conn s
  obtain ⟨htry,hlast⟩ := Prod.mk.inj hu.seqs
  have htry' := ha.trySeq.trans (congrArg (· + 1) htry)
  obtain ⟨hpos,hle⟩ := hg.counted
  cases hacc : accepted serde s.1 ((reconnectSession serde fuel conn).run s).2.1 with
  | false =>
    obtain ⟨-,hsame⟩ := ha.untouched hacc
    refine ⟨(c.1+1,c.2),sessionId,p,⟨⟨hpos,by dsimp only; omega⟩,hg.request⟩,hcfg,?_,?_,?_⟩
    · exact Prod.ext htry' (hsame.lastSuccess.trans hlast)
    · rw [hsame.session]
      exact hu.sessionId
    · rw [hsame.session]
      exact hu.begun
  | true =>
    obtain ⟨q,connId,-,-,-,hres⟩ := ha.resumed hacc
    have hfirst : Begun (requestPacket serde (reconnectRequest s))
        (((Conn.sendPacket (requestPacket serde (reconnectRequest s))).run conn).2,
          s.2.xfer.takeNumbers q.ack q.sn?) :=
      Begun.first hc (hu.begun.numbered.takeNumbers _ _) (sent_of_accepted serde fuel hacc)
    have hlast' := hres.lastSuccess.trans htry'
    refine ⟨(c.1+1,c.1+1),sessionId,requestPacket serde (reconnectRequest s),?_,hcfg,
      Prod.ext htry' hlast',hres.sessionId.trans hu.sessionId,?_⟩
    · refine ⟨⟨by dsimp only; omega,le_rfl⟩,.inr ⟨c.2,hpos,by dsimp only; omega,?_⟩⟩
      rw [reconnectRequest, hu.sessionId, hu.config, htry, hlast]
    · rw [hres.wire]
      exact Begun.flush _ hfirst

lemma connectLoop_greeted : Triple (Greeted serde cfg) (onTask (connectLoop (δ := δ) serde fuel .work))
    (Leaves (fun conn s => conn.log = [] ∧ Greeted serde cfg s) (Greeted serde cfg)) := by
  intro s h
  have hafter := greeted_waits serde (connectLoop_config cfg serde .work fuel)
    (fun hJ => hJ.connectLoop serde .work fuel) s h
  obtain ⟨c,sessionId,p,hg,hu⟩ := h
  have hconn := connectLoop_connects cfg serde .work fuel s.1 hu.config
  have hres : ((onTask (connectLoop serde fuel .work)).run s).1 =
    ((connectLoop serde fuel .work).run s.1).1 := rfl
  rw [hres]
  cases hr : ((connectLoop serde fuel .work).run s.1).1 with
  | ok conn =>
    rw [hr] at hconn
    exact ⟨hconn.1,hafter⟩
  | error e => exact leaves_error.mpr hafter

lemma phaseReconnect_greeted : Keeps (Greeted serde cfg) (phaseReconnect (δ := δ) serde fuel) := by
  refine keeps_of_leaves (Triple.get_bind fun s => quits_timeout _ (fun _ h => h) (quits_loop
    (fun _ h => h) (quits_bind (connectLoop_greeted serde fuel) fun conn => ?_) fuel))
  have hattempt : Triple (fun s => conn.log = [] ∧ Greeted serde cfg s)
      (reconnectSession (δ := δ) serde fuel conn)
      (Leaves (fun _ => Greeted serde cfg) (Greeted serde cfg)) :=
    fun s h => leaves_of_keeps (reconnectSession_greets serde fuel h.1) (fun _ h => h) s h.2
  refine quits_catching hattempt (fun _ => quits_pure fun _ h => h) fun e => ?_
  refine quits_bind (leaves_of_keeps (greeted_waits serde (shouldBreak_config cfg .work)
    fun hJ => hJ.shouldBreak .work) fun _ h => h) fun b => ?_
  cases b with
  | true => exact leaves_fail fun _ h => h
  | false =>
    simp only [Bool.false_eq_true, if_false]
    split
    · exact leaves_fail fun _ h => h
    · refine Triple.get_bind fun s => quits_bind (leaves_of_keeps (greeted_waits serde
        (sleep_config cfg .work fuel _) fun hJ => hJ.sleep .work fuel _) fun _ h => h) fun b => ?_
      cases b with
      | true => exact quits_pure fun _ h => h
      | false => exact leaves_fail fun _ h => h

lemma afterWork_greeted (r : Except Error Unit) :
    Keeps (Greeted serde cfg) (afterWork (δ := δ) serde fuel r) := by
  have hreconnect : Keeps (Greeted serde cfg) (do
      phaseReconnect serde fuel
      return none : Prog (Task δ × Session) Stop (Option Unit)) :=
    Keeps.bind (phaseReconnect_greeted serde fuel) fun _ => Keeps.pure _
  refine Keeps.bind (greeted_waits serde (fun _ h => h) fun hJ => hJ.isClosed) fun b => ?_
  cases b with
  | true =>
    refine Keeps.bind ?_ fun _ => hreconnect
    cases r with
    | ok _ => exact fun _ h => h
    | error e => exact greeted_kept fun _ _ _ => underway_hear (.rxClosed e)
  | false =>
    cases r with
    | ok _ => exact hreconnect
    | error e =>
      simp only [Bool.false_eq_true, if_false]
      split
      · exact Keeps.pure _
      · exact hreconnect

include hd in
/-- On whichever connection the session works, it began with a request for this session. -/
lemma workLoop_greeted : Keeps (Greeted serde cfg) (workLoop d serde fuel) := by
  have hwork : Keeps (Greeted serde cfg) (phaseWork d serde fuel) :=
    greeted_kept fun _ _ _ => (underway_inPhase hd serde fuel).phaseWork
  refine Keeps.loop (Keeps.bind (Keeps.catching hwork) fun r => Keeps.get_bind fun s => ?_) fuel
  split
  · exact Keeps.pure _
  · exact afterWork_greeted serde fuel r

include hd in
/-- The session of a new worker, in every state that the worker reaches with it. -/
theorem session_greeted {listener : δ} {now : ℕ} {waits : List (ℕ × Wait)} {modes : ℕ → ShutdownMode}
    {drops : ℕ → Bool} {session : Session}
    (h : ((phaseOpen d serde fuel).run (Task.new cfg listener now waits modes drops)).1 = .ok session) :
    Greeted serde cfg ((workLoop d serde fuel).run
      (((phaseOpen d serde fuel).run (Task.new cfg listener now waits modes drops)).2,session)).2 := by
  have hopen := phaseOpen_begins cfg hd serde fuel (Task.new cfg listener now waits modes drops) rfl
  rw [h] at hopen
  refine workLoop_greeted hd serde fuel _ ⟨(0,0),session.sessionId,_,⟨⟨le_rfl,le_rfl⟩,.inl ⟨rfl,rfl⟩⟩,
    hopen.2,?_,rfl,hopen.1⟩
  exact seqs_phaseOpen (0,0) d serde fuel _ rfl

end Work

end Task
end VvClient
