import VvClient.Client.SendPosition
import VvClient.Client.Waits

/-! The attempts to resume a session. An attempt takes effect as a whole or leaves the session as it
was, and the numbers in its request count the attempts before it. -/
namespace VvClient

/-- A reply that resumes the session. -/
def Heard.accepts (serde : Serde) : Heard → Bool
  | .reconnectReply p => (parseReconnectResponsePacket serde p).isOk
  | _ => false

namespace Task

variable {δ α : Type}

/-- The request of the attempt that begins in the state. -/
def reconnectRequest (s : Task δ × Session) : ReconnectRequest :=
  ⟨s.2.sessionId,s.1.config.token,s.1.reconnectTrySeq+1,s.1.reconnectLastSuccessSeq,reconnectMagic⟩

def requestPacket (serde : Serde) (req : ReconnectRequest) : Packet :=
  ⟨some PacketType.request.asNum,none,some (serde.reconnectRequest req),none⟩

/-- The task has heard a reply that resumes the session between the two states. -/
def accepted (serde : Serde) (t t' : Task δ) : Bool :=
  (t'.env.heard.drop t.env.heard.length).any (Heard.accepts serde)

/-- Nothing of the attempt is left but its number. -/
structure Untouched (s s' : Task δ × Session) : Prop where
  session : s'.2 = s.2
  lastSuccess : s'.1.reconnectLastSuccessSeq = s.1.reconnectLastSuccessSeq

/-- The reply `p` has taken effect on the new connection: its numbers are applied, what is due is
flushed, and the heartbeat starts anew. -/
structure Resumed (p : Packet) (connId : String) (conn : Conn) (s s' : Task δ × Session) : Prop where
  sessionId : s'.2.sessionId = s.2.sessionId
  connId : s'.2.connId = connId
  wire : (s'.2.conn,s'.2.xfer) =
    (Xfer.flushXfer.run (conn,s.2.xfer.takeNumbers p.ack p.sn?)).2
  safe : s.2.xfer.Valid → ∀ ack, p.ack = some ack → s.2.xfer.AckBelow ack → s.2.xfer.AckSafe ack
  started : s'.2.heartbeatStarted = true
  rxAt : s'.2.lastRxAt = s'.1.env.now
  hbAt : s'.2.lastHbAt = s'.1.env.now
  pendingHb : s'.2.pendingHbSn = none
  lastSuccess : s'.1.reconnectLastSuccessSeq = s'.1.reconnectTrySeq

/-- What an attempt on the connection `conn` that begins in `s` may come to: the result `r` and the
state `s'`. -/
structure Attempted (serde : Serde) (conn : Conn) (s : Task δ × Session) (r : Except Stop Unit)
    (s' : Task δ × Session) : Prop where
  trySeq : s'.1.reconnectTrySeq = s.1.reconnectTrySeq+1
  untouched : accepted serde s.1 s'.1 = false → (∃ stop, r = .error stop) ∧ Untouched s s'
  resumed : accepted serde s.1 s'.1 = true → ∃ p connId,
    s'.1.env.heard.getLast? = some (.reconnectReply p) ∧
    parseReconnectResponsePacket serde p = .ok connId ∧
    r = (Xfer.flushXfer.run (conn,s.2.xfer.takeNumbers p.ack p.sn?)).1 ∧
    Resumed p connId conn s s'

section Attempt
variable (serde : Serde) (fuel : ℕ)

/-- The end of a round of `reconnect_session`, with a packet. -/
def takeReply (conn : Conn) (packet : Packet) : Prog (Task δ × Session) Stop (Option Unit) := do
  onTask (hear (.reconnectReply packet))
  let connId ← Prog.withContext "parse_reconnect_response_packet failed"
    (Prog.ofExcept ((parseReconnectResponsePacket serde packet).mapError .err))
  onSession (Prog.modify fun s => { s with xfer := s.xfer.takeNumbers packet.ack packet.sn? })
  let now := (← Prog.get).1.env.now
  onSession (Prog.modify fun s => ({ s with conn := conn, connId := connId } : Session).startHeartbeat now)
  onTask (Prog.modify fun t => { t with reconnectLastSuccessSeq := t.reconnectTrySeq })
  onSession (Session.onWire Xfer.flushXfer)
  return some ()

/-- The loop of `reconnect_session`. -/
def awaitReply (conn : Conn) : Prog (Task δ × Session) Stop Unit :=
  Prog.loop .pending (do
    match ← onTask (Prog.withContext "recv reconnect response failed"
      (recvPacket serde fuel .work)) with
    | none =>
      if ← onTask (shouldBreak .work) then Prog.fail (.err (.msg "reconnect canceled"))
      else return none
    | some packet => takeReply serde conn packet) fuel

open Prog

/-- The attempt has begun, and no reply has accepted it so far. -/
structure Pending (t₀ t : Task δ) : Prop where
  trySeq : t.reconnectTrySeq = t₀.reconnectTrySeq+1
  lastSuccess : t.reconnectLastSuccessSeq = t₀.reconnectLastSuccessSeq
  heard : ∃ hs, t.env.heard = t₀.env.heard ++ hs ∧ ∀ h ∈ hs, h.accepts serde = false

variable {serde}

lemma Pending.hear {t₀ t : Task δ} (h : Pending serde t₀ t) {x : Heard} (hx : x.accepts serde = false) :
    Pending serde t₀ ((Task.hear x).run t).2 := by
  obtain ⟨hs,hh,ha⟩ := h.heard
  refine ⟨h.trySeq,h.lastSuccess,hs ++ [x],by simp [Task.hear,hh],?_⟩
  intro y hy
  rcases List.mem_append.1 hy with hy | hy
  · exact ha y hy
  · rw [List.mem_singleton.1 hy,hx]

lemma Pending.accepted_eq {t₀ t : Task δ} (h : Pending serde t₀ t) : accepted serde t₀ t = false := by
  obtain ⟨hs,hh,ha⟩ := h.heard
  simp only [accepted,hh,List.drop_left,List.any_eq_false]
  exact fun x hx => by simp [ha x hx]

lemma pending_resting (t₀ : Task δ) : Resting (Pending serde t₀) where
  same t t' _ htry hlast _ hheard h := by
    obtain ⟨hs,hh,ha⟩ := h.heard
    exact ⟨htry.trans h.trySeq,hlast.trans h.lastSuccess,hs,hheard.trans hh,ha⟩
  dropped t h := h.hear rfl

/-- A failure before an accepting reply. -/
lemma attempted_error {conn : Conn} {s s' : Task δ × Session} (e : Stop)
    (h : Pending serde s.1 s'.1) (hs : s'.2 = s.2) : Attempted serde conn s (.error e) s' where
  trySeq := h.trySeq
  untouched _ := ⟨⟨e,rfl⟩,hs,h.lastSuccess⟩
  resumed ha := by simp [h.accepted_eq] at ha

/-- A part that only waits, before an accepting reply. -/
lemma pending_bind {conn : Conn} {s : Task δ × Session} {m : Prog (Task δ) Stop α}
    {f : α → Prog (Task δ × Session) Stop (Option Unit)}
    {Q : Except Stop (Option Unit) → Task δ × Session → Prop}
    (hm : ∀ {J : Task δ → Prop}, Resting J → Keeps J m)
    (hf : ∀ a, Triple (fun s' => Pending serde s.1 s'.1 ∧ s'.2 = s.2) (f a) Q)
    (hQ : ∀ e s', Attempted serde conn s (.error e) s' → Q (.error e) s') :
    Triple (fun s' => Pending serde s.1 s'.1 ∧ s'.2 = s.2) (onTask m >>= f) Q := by
  have hkeep : Keeps (fun s' => Pending serde s.1 s'.1 ∧ s'.2 = s.2) (onTask m) :=
    fun s' h => ⟨hm (pending_resting s.1) s'.1 h.1,h.2⟩
  have hm' : Triple (fun s' => Pending serde s.1 s'.1 ∧ s'.2 = s.2) (onTask m)
      (fun _ s' => Pending serde s.1 s'.1 ∧ s'.2 = s.2) := hkeep
  exact Triple.bind hm' hf fun e s' h => hQ e s' (attempted_error e h.1 h.2)

variable (serde)

/-- What one round of the loop of `reconnect_session` comes to. -/
def AttemptRound (conn : Conn) (s : Task δ × Session) :
    Except Stop (Option Unit) → Task δ × Session → Prop
  | .ok none,s' => Pending serde s.1 s'.1 ∧ s'.2 = s.2
  | .ok (some _),s' => Attempted serde conn s (.ok ()) s'
  | .error e,s' => Attempted serde conn s (.error e) s'

/-- The session that takes over the connection with the reply `p`, before it is flushed. -/
def takeOver (p : Packet) (connId : String) (conn : Conn) (now : ℕ) (s : Session) : Session :=
  ({ s with xfer := s.xfer.takeNumbers p.ack p.sn?, conn := conn, connId := connId } :
    Session).startHeartbeat now

lemma takeOver_flushed {conn : Conn} {p : Packet} {connId : String} {s : Task δ × Session}
    {t : Task δ} (hp : parseReconnectResponsePacket serde p = .ok connId)
    (htry : t.reconnectTrySeq = s.1.reconnectTrySeq+1)
    (hlast : t.reconnectLastSuccessSeq = t.reconnectTrySeq) {hs : List Heard}
    (hheard : t.env.heard = s.1.env.heard ++ (hs ++ [.reconnectReply p])) :
    let m : Prog (Task δ × Session) Stop Unit := onSession (Session.onWire Xfer.flushXfer)
    let s' := (t,takeOver p connId conn t.env.now s.2)
    Attempted serde conn s (m.run s').1 (m.run s').2 := by
  have hacc : accepted serde s.1 t = true := by
    simp [accepted,hheard,Heard.accepts,hp,Except.isOk,Except.toBool]
  refine ⟨htry,fun h => absurd (hacc.symm.trans h) (by decide),fun _ => ⟨p,connId,?_,hp,rfl,?_⟩⟩
  · exact (congrArg List.getLast? hheard).trans (by simp)
  · exact {
      sessionId := rfl
      connId := rfl
      wire := rfl
      safe := fun hx ack _ h => (Xfer.ackSafe_iff hx ack).2 h
      started := rfl
      rxAt := rfl
      hbAt := rfl
      pendingHb := rfl
      lastSuccess := hlast }

variable {serde} in
lemma attemptRound_done {conn : Conn} {s s' : Task δ × Session} {m : Prog (Task δ × Session) Stop Unit}
    (h : Attempted serde conn s (m.run s').1 (m.run s').2) : AttemptRound serde conn s
      ((m >>= fun _ => pure (some ())).run s').1 ((m >>= fun _ => pure (some ())).run s').2 := by
  rw [run_bind]
  rcases hr : m.run s' with ⟨r,s''⟩
  rw [hr] at h
  cases r with
  | ok _ => exact h
  | error e => exact h

lemma takeReply_attempted (conn : Conn) (s : Task δ × Session) (packet : Packet) :
    Triple (fun s' => Pending serde s.1 s'.1 ∧ s'.2 = s.2) (takeReply serde conn packet)
      (AttemptRound serde conn s) := by
  rintro ⟨t,_⟩ ⟨h,rfl⟩
  unfold takeReply
  cases hp : parseReconnectResponsePacket serde packet with
  | error e =>
    have hx : (Heard.reconnectReply packet).accepts serde = false := by
      simp [Heard.accepts,hp,Except.isOk,Except.toBool]
    exact attempted_error _ (h.hear hx) rfl
  | ok connId =>
    obtain ⟨hs,hh,-⟩ := h.heard
    -- the state that is committed before the flush
    let t' : Task δ :=
      { t with
          reconnectLastSuccessSeq := t.reconnectTrySeq
          env := { t.env with heard := t.env.heard ++ [.reconnectReply packet] } }
    let s' := (t',takeOver packet connId conn t'.env.now s.2)
    have hheard : t'.env.heard = s.1.env.heard ++ (hs ++ [.reconnectReply packet]) :=
      (congrArg (· ++ [Heard.reconnectReply packet]) hh).trans (List.append_assoc _ _ _)
    exact attemptRound_done (takeOver_flushed serde (t := t') hp h.trySeq rfl hheard)

/-- An attempt writes its request first, and then it waits for the reply. -/
lemma reconnectSession_sends (conn : Conn) (s : Task δ × Session) :
    (reconnectSession serde fuel conn).run s = (onTask (withContext "send reconnect packet failed"
      (onConn (Conn.sendPacket (requestPacket serde (reconnectRequest s))) conn)) >>=
        awaitReply serde fuel).run
      ({ s.1 with reconnectTrySeq := s.1.reconnectTrySeq+1 },s.2) := rfl

lemma awaitReply_attempted (conn : Conn) (s : Task δ × Session) :
    Triple (fun s' => Pending serde s.1 s'.1 ∧ s'.2 = s.2) (awaitReply serde fuel conn)
      (Attempted serde conn s) := by
  have hfail : ∀ e s', Attempted serde conn s (.error e) s' →
      AttemptRound serde conn s (.error e) s' := fun _ _ h => h
  refine Triple.loop (Triple.post (pending_bind (fun hJ => Keeps.withContext _
    (hJ.recvPacket serde .work fuel)) (fun r => ?_) hfail) ?_) ?_ fuel
  · cases r with
    | some packet => exact takeReply_attempted serde conn s packet
    | none =>
      refine pending_bind (fun hJ => hJ.shouldBreak .work) (fun b => ?_) hfail
      cases b with
      | true => exact Triple.fail fun s' h => attempted_error _ h.1 h.2
      | false => exact Triple.pure fun _ h => h
  · intro r s' h
    match r with
    | .ok none => exact h
    | .ok (some _) => exact h
    | .error e => exact h
  · exact fun s' h => attempted_error _ h.1 h.2

/-- An attempt takes effect as a whole or not at all. -/
theorem reconnectSession_attempted (conn : Conn) (s : Task δ × Session) :
    Attempted serde ((Conn.sendPacket (requestPacket serde (reconnectRequest s))).run conn).2 s
      ((reconnectSession serde fuel conn).run s).1 ((reconnectSession serde fuel conn).run s).2 := by
  have hbegun : Pending serde s.1 { s.1 with reconnectTrySeq := s.1.reconnectTrySeq+1 } :=
    ⟨rfl,rfl,[],(List.append_nil _).symm,by simp⟩
  rw [reconnectSession_sends]
  rcases hr : (Conn.sendPacket (requestPacket serde (reconnectRequest s))).run conn with ⟨r,conn'⟩
  cases r with
  | ok _ =>
    rw [run_bind]
    simp only [onTask,onConn,run_zoom,withContext,run_mapError,hr]
    exact awaitReply_attempted serde fuel conn' s _ ⟨hbegun,rfl⟩
  | error e =>
    rw [run_bind]
    simp only [onTask,onConn,run_zoom,withContext,run_mapError,hr]
    exact attempted_error _ hbegun rfl

end Attempt

open Prog

/-- The number of attempts, and the number of the last one that was accepted. -/
def seqs (t : Task δ) : ℤ × ℤ := (t.reconnectTrySeq,t.reconnectLastSuccessSeq)

abbrev HasSeqs (c : ℤ × ℤ) (s : Task δ × Session) : Prop := s.1.seqs = c

section Seqs
variable (c : ℤ × ℤ) (d : Delegate δ) (serde : Serde) (fuel : ℕ)

lemma seqs_resting : Resting fun t : Task δ => t.seqs = c :=
  ⟨fun _ _ _ htry hlast _ _ h => by rw [seqs,htry,hlast]; exact h,fun _ h => h⟩

lemma seqs_waits {m : Prog (Task δ) Stop α} (hm : ∀ {J : Task δ → Prop}, Resting J → Keeps J m) :
    Keeps (HasSeqs c) (onTask m) :=
  fun s h => hm (seqs_resting c) s.1 h

/-- Work leaves the two numbers alone. -/
lemma seqs_phaseWork : Keeps (HasSeqs c) (phaseWork d serde fuel) :=
  KeptInPhase.phaseWork {
    recv := seqs_waits c fun hJ => hJ.recvPacket serde .work fuel
    mode := seqs_waits c fun hJ => hJ.shouldBreak .work
    clock := fun _ _ h => h
    hears := fun _ _ h => h
    noteClosed := fun _ _ h => h
    process := fun _ h => h
    response := fun _ _ _ _ h => h
    push := fun _ _ _ h => h
    flush := fun _ h => h
    flushAck := fun _ h => h
    closeFrame := fun _ h => h
    tick := fun _ _ _ h => h
    heartbeat := fun _ _ _ h => h
    onRecv := fun _ _ h => h
    numbers := fun _ _ _ h => h }

lemma seqs_phaseOpen : Keeps (fun t : Task δ => t.seqs = c) (phaseOpen d serde fuel) :=
  (seqs_resting c).phaseOpen serde fuel d (fun _ _ h => h) (fun _ _ h => h) fun _ _ _ h => h

end Seqs

end Task

/-- An attempt to resume the session: its request, and whether the server accepted it. -/
structure Attempt where
  request : ReconnectRequest
  accepted : Bool
  deriving DecidableEq, Repr

/-- A task with its session, and the attempts that it has made so far. -/
structure Journal (δ : Type) where
  task : Task δ
  session : Session
  attempts : List Attempt

/-- What a task with a session does between two decisions. -/
inductive Leg
  | work (fuel : ℕ)
  | connect (fuel : ℕ)
  | attempt (fuel : ℕ) (conn : Conn)
  | shouldBreak
  | sleep (fuel d : ℕ)
  | isClosed
  | throwOn (e : Error)

namespace Journal

variable {δ α : Type} (d : Delegate δ) (serde : Serde)

/-- A session was just opened. -/
def start (t : Task δ) (session : Session) : Journal δ :=
  ⟨{ t with reconnectTrySeq := 0, reconnectLastSuccessSeq := 0 },session,[]⟩

def state (j : Journal δ) : Task δ × Session := (j.task,j.session)

def after (j : Journal δ) (m : Prog (Task δ × Session) Stop α) : Journal δ :=
  ⟨(m.run j.state).2.1,(m.run j.state).2.2,j.attempts⟩

def attempt (j : Journal δ) (fuel : ℕ) (conn : Conn) : Journal δ :=
  let j' := j.after (Task.reconnectSession serde fuel conn)
  { j' with attempts :=
      j.attempts ++ [⟨Task.reconnectRequest j.state,Task.accepted serde j.task j'.task⟩] }

def step (j : Journal δ) : Leg → Journal δ
  | .work fuel => j.after (Task.phaseWork d serde fuel)
  | .connect fuel => j.after (Task.onTask (Task.connectLoop serde fuel .work))
  | .attempt fuel conn => j.attempt serde fuel conn
  | .shouldBreak => j.after (Task.onTask (Task.shouldBreak .work))
  | .sleep fuel d => j.after (Task.onTask (Task.sleep fuel .work d))
  | .isClosed => j.after (Task.onTask Task.isClosed)
  | .throwOn e => j.after (Task.onTask (Task.hear (.rxClosed e)))

/-- The number of the latest accepted attempt, zero where there is none. -/
def lastAccepted (attempts : List Attempt) : ℤ :=
  match attempts.reverse.find? (·.accepted) with
  | some a => a.request.trySeq
  | none => 0

/-- What the request of an attempt says about the attempts before it. -/
structure Carries (before : List Attempt) (a : Attempt) : Prop where
  trySeq : a.request.trySeq = before.length+1
  lastSuccessSeq : a.request.lastSuccessSeq = lastAccepted before
  behind : a.request.lastSuccessSeq < a.request.trySeq

def Numbered (attempts : List Attempt) : Prop :=
  ∀ i (h : i < attempts.length), Carries (attempts.take i) attempts[i]

lemma lastAccepted_concat (attempts : List Attempt) (a : Attempt) :
    lastAccepted (attempts ++ [a]) = if a.accepted then a.request.trySeq else lastAccepted attempts := by
  cases ha : a.accepted <;> simp [lastAccepted,ha]

lemma Numbered.concat {attempts : List Attempt} {a : Attempt} (h : Numbered attempts)
    (ha : Carries attempts a) : Numbered (attempts ++ [a]) := by
  intro i hi
  by_cases hlt : i < attempts.length
  · rw [List.getElem_append_left hlt,List.take_append_of_le_length hlt.le]
    exact h i hlt
  · obtain rfl : i = attempts.length := by simp at hi; omega
    simpa using ha

/-- The numbers of the task count its attempts. -/
structure Counts (j : Journal δ) : Prop where
  trySeq : j.task.reconnectTrySeq = j.attempts.length
  lastSuccessSeq : j.task.reconnectLastSuccessSeq = lastAccepted j.attempts
  behind : lastAccepted j.attempts ≤ j.attempts.length
  numbered : Numbered j.attempts

lemma counts_start (t : Task δ) (session : Session) : (start t session).Counts :=
  ⟨rfl,rfl,le_rfl,fun i h => absurd h (Nat.not_lt_zero i)⟩

variable {serde}

/-- The legs without an attempt. -/
lemma Counts.after {j : Journal δ} (h : j.Counts) {m : Prog (Task δ × Session) Stop α}
    (hm : ∀ c, Prog.Keeps (Task.HasSeqs c) m) : (j.after m).Counts := by
  have hc : (j.after m).task.seqs = j.task.seqs := hm j.task.seqs j.state rfl
  obtain ⟨htry,hlast⟩ := Prod.mk.inj hc
  exact ⟨htry.trans h.trySeq,hlast.trans h.lastSuccessSeq,h.behind,h.numbered⟩

lemma Counts.carries {j : Journal δ} (h : j.Counts) (accepted : Bool) :
    Carries j.attempts ⟨Task.reconnectRequest j.state,accepted⟩ where
  trySeq := congrArg (· + 1) h.trySeq
  lastSuccessSeq := h.lastSuccessSeq
  behind := by
    have hb := h.behind
    have htry := h.trySeq
    have hlast := h.lastSuccessSeq
    simp only [Task.reconnectRequest,state]
    omega

lemma Counts.attempt {j : Journal δ} (h : j.Counts) (fuel : ℕ) (conn : Conn) :
    (j.attempt serde fuel conn).Counts := by
  have ha := Task.reconnectSession_attempted serde fuel conn j.state
  have htry : (j.attempt serde fuel conn).task.reconnectTrySeq = (j.attempts.length : ℤ)+1 :=
    ha.trySeq.trans (congrArg (· + 1) h.trySeq)
  have hlast : (j.attempt serde fuel conn).task.reconnectLastSuccessSeq =
      lastAccepted (j.attempt serde fuel conn).attempts := by
    rw [Journal.attempt,lastAccepted_concat]
    split
    next hacc => 
      obtain ⟨_,_,-,-,-,hr⟩ := ha.resumed hacc
      exact hr.lastSuccess.trans ha.trySeq
    next hacc =>
      exact (ha.untouched (Bool.eq_false_of_not_eq_true hacc)).2.lastSuccess.trans h.lastSuccessSeq
  refine ⟨htry.trans (by simp [Journal.attempt]),hlast,?_,h.numbered.concat (h.carries _)⟩
  have hb := h.behind
  have ht := h.trySeq
  rw [Journal.attempt,lastAccepted_concat]
  simp only [List.length_append,List.length_singleton,Task.reconnectRequest,state]
  split <;> omega

lemma Counts.step {j : Journal δ} (h : j.Counts) (leg : Leg) : (j.step d serde leg).Counts := by
  cases leg with
  | work fuel => exact h.after fun c => Task.seqs_phaseWork c d serde fuel
  | connect fuel => exact h.after fun c => Task.seqs_waits c fun hJ => hJ.connectLoop serde .work fuel
  | attempt fuel conn => exact h.attempt fuel conn
  | shouldBreak => exact h.after fun c => Task.seqs_waits c fun hJ => hJ.shouldBreak .work
  | sleep fuel t => exact h.after fun c => Task.seqs_waits c fun hJ => hJ.sleep .work fuel t
  | isClosed => exact h.after fun c => Task.seqs_waits c fun hJ => hJ.isClosed
  | throwOn e => exact h.after fun _ _ hs => hs

variable (serde)

theorem counts_run (t : Task δ) (session : Session) (legs : List Leg) :
    Machine.Always (step d serde) Counts (start t session) legs :=
  Machine.always_of_step (fun _ leg h => h.step d leg) (fun _ h => h) (counts_start t session) legs

/-- The legs lead from the start to the state. -/
def Reached (t : Task δ) (session : Session) (s : Task δ × Session) : Prop :=
  ∃ legs, (Machine.run (step d serde) (start t session) legs).state = s

variable {d serde}

lemma Reached.step {t : Task δ} {session : Session} {s : Task δ × Session}
    (h : Reached d serde t session s) (leg : Leg) {m : Prog (Task δ × Session) Stop α}
    (hleg : ∀ j : Journal δ, (j.step d serde leg).state = (m.run j.state).2) :
    Reached d serde t session (m.run s).2 := by
  obtain ⟨legs,rfl⟩ := h
  refine ⟨legs ++ [leg],?_⟩
  rw [Machine.run_append]
  exact hleg _

lemma reached_atWork (t : Task δ) (session : Session) (fuel : ℕ) :
    Task.KeptAtWork d serde fuel (Reached d serde t session) where
  work _ h := h.step (.work fuel) fun _ => rfl
  attempt conn _ h := h.step (.attempt fuel conn) fun _ => rfl
  connect _ h := h.step (.connect fuel) fun _ => rfl
  mode _ h := h.step .shouldBreak fun _ => rfl
  sleep d _ h := h.step (.sleep fuel d) fun _ => rfl
  closed _ h := h.step .isClosed fun _ => rfl
  thrown e _ h := h.step (.throwOn e) fun _ => rfl

lemma start_state {t : Task δ} (h : t.seqs = (0,0)) (session : Session) :
    (start t session).state = (t,session) := by
  obtain ⟨htry,hlast⟩ := Prod.mk.inj h
  cases t
  simp_all [start,state]

/-- A new worker opens its session without an attempt. -/
lemma start_opened (fuel : ℕ) (config : JoinConfig) (listener : δ) (now : ℕ) (waits : List (ℕ × Wait))
    (modes : ℕ → ShutdownMode) (drops : ℕ → Bool) (session : Session) :
    let t := ((Task.phaseOpen d serde fuel).run (Task.new config listener now waits modes drops)).2
    (start t session).state = (t,session) :=
  start_state (Task.seqs_phaseOpen (0,0) d serde fuel _ rfl) session

/-- Every run of a worker on its session is a run of legs. -/
theorem workLoop_reached (fuel : ℕ) (config : JoinConfig) (listener : δ) (now : ℕ)
    (waits : List (ℕ × Wait)) (modes : ℕ → ShutdownMode) (drops : ℕ → Bool) (session : Session) :
    let t := ((Task.phaseOpen d serde fuel).run (Task.new config listener now waits modes drops)).2
    Reached d serde t session ((Task.workLoop d serde fuel).run (t,session)).2 :=
  (reached_atWork _ session fuel).workLoop _
    ⟨[],start_opened fuel config listener now waits modes drops session⟩

/-- An attempt to resume a session hands its request to the connection, and then it takes effect as
a whole or not at all. The requests of a run number its attempts and name the latest accepted one. -/
theorem reconnect_all_or_nothing (d : Delegate δ) (serde : Serde) :
    (∀ fuel conn s, (Task.reconnectSession (δ := δ) serde fuel conn).run s =
      (Task.onTask (Prog.withContext "send reconnect packet failed" (Task.onConn (Conn.sendPacket
        (Task.requestPacket serde (Task.reconnectRequest s))) conn)) >>= Task.awaitReply serde fuel).run
        ({ s.1 with reconnectTrySeq := s.1.reconnectTrySeq+1 },s.2)) ∧
    (∀ fuel conn s, Task.Attempted serde
      ((Conn.sendPacket (Task.requestPacket serde (Task.reconnectRequest s))).run conn).2 s
      ((Task.reconnectSession (δ := δ) serde fuel conn).run s).1
      ((Task.reconnectSession (δ := δ) serde fuel conn).run s).2) ∧
    (∀ t session legs,
      Machine.Always (step d serde) (fun j => Numbered j.attempts) (start t session) legs) ∧
    ∀ fuel config listener now waits modes drops session,
      let t := ((Task.phaseOpen d serde fuel).run
        (Task.new config listener now waits modes drops)).2
      Reached d serde t session ((Task.workLoop d serde fuel).run (t,session)).2 :=
  ⟨fun fuel conn s => Task.reconnectSession_sends serde fuel conn s,
    fun fuel conn s => Task.reconnectSession_attempted serde fuel conn s,
    fun t session legs => (counts_run d serde t session legs).mono fun _ h => h.numbered,
    fun fuel config listener now waits modes drops session =>
      workLoop_reached fuel config listener now waits modes drops session⟩

end Journal
end VvClient
