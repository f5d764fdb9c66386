import VvClient.Client.Waits
import VvClient.Lib.Machine

/-! The worker as its delegate sees it: the calls that it gets, and what happens to the transfer
queue between them. Every run of the worker is a run of this machine. -/
namespace VvClient

inductive DeskStage
  /-- no queue is ready for a session -/
  | closed
  /-- `on_opening` has filled a queue -/
  | prepared
  /-- the session is open -/
  | opened
  deriving DecidableEq, Repr

structure Desk (δ : Type) where
  listener : δ
  xfer : Xfer
  stage : DeskStage
  /-- everything that was queued in this transfer queue so far -/
  enqueued : List (ℤ × Packet)
  /-- the calls of the delegate, with whether each returned `Ok` -/
  calls : List (Call × Bool)

inductive DeskMove
  | opening
  | opened (sessionId : String)
  | process
  | response (p : Packet) (ack : ℤ) (response : ServerResponse)
  | push (p : Packet) (push : ServerPush)
  | closed (status : Status)
  | heartbeat (body : String)
  | numbers (ack sn : Option ℤ)
  | flush (c : Conn)
  | flushAck (c : Conn)

/-- The body of a heartbeat is one of these. -/
def DeskMove.Beats (B : String → Prop) : DeskMove → Prop
  | heartbeat body => B body
  | _ => True

lemma DeskMove.Beats.mono {B B' : String → Prop} {m : DeskMove} (h : m.Beats B)
    (hB : ∀ body, B body → B' body) : m.Beats B' := by
  cases m with
  | heartbeat body => exact hB body h
  | _ => trivial

lemma DeskMove.beats_any (m : DeskMove) : m.Beats fun _ => True := by cases m <;> trivial

/-- The number of the request for which a response is handed over. -/
def Call.acked : Call → Option ℤ
  | onResponse _ ack _ => some ack
  | _ => none

namespace Desk

variable {δ : Type}

/-- The numbers of the requests for which a response was handed over. -/
def acked (s : Desk δ) : List ℤ := s.calls.filterMap fun c => c.1.acked

def new (listener : δ) : Desk δ := ⟨listener,Xfer.new,.closed,[],[]⟩

/-- What is at the end of a queue that was not there before. -/
def added (x x' : Xfer) : List (ℤ × Packet) := x'.que.drop x.que.length

/-- Call the delegate with the queue. -/
def call (s : Desk δ) (c : Call) (m : Prog (δ × Xfer) Error Unit) : Desk δ :=
  { s with listener := (m.run (s.listener,s.xfer)).2.1
           xfer := (m.run (s.listener,s.xfer)).2.2
           enqueued := s.enqueued ++ added s.xfer (m.run (s.listener,s.xfer)).2.2
           calls := s.calls ++ [(c,(m.run (s.listener,s.xfer)).1.isOk)] }

/-- An opening starts a new queue, which is dropped where `on_opening` fails. -/
def opening (d : Delegate δ) (s : Desk δ) : Desk δ :=
  { { s with xfer := Xfer.new, enqueued := [] }.call .onOpening d.onOpening with
    stage := if (d.onOpening.run (s.listener,Xfer.new)).1.isOk then .prepared else .closed }

/-- A heartbeat request is queued. -/
def heartbeat (s : Desk δ) (body : String) : Desk δ :=
  { s with xfer := ((Xfer.addQos1Json .request (.ok body) none).run s.xfer).2
           enqueued := s.enqueued ++
             added s.xfer ((Xfer.addQos1Json .request (.ok body) none).run s.xfer).2 }

/-- The delegate is told the end. -/
def closed (d : Delegate δ) (s : Desk δ) (status : Status) : Desk δ :=
  { s with listener := ((d.onClosed status).run s.listener).2
           calls := s.calls ++ [(.onClosed status,((d.onClosed status).run s.listener).1.isOk)] }

/-- One move. The session keeps the queue that the last opening has started. -/
def step (d : Delegate δ) (s : Desk δ) : DeskMove → Desk δ
  | .opening => if s.stage = .opened then s else s.opening d
  | .opened sessionId =>
    if s.stage = .prepared then
      { s.call (.onOpened sessionId) (d.onOpened sessionId) with stage := .opened }
    else s
  | .process => if s.stage = .opened then s.call .onProcess d.onProcess else s
  | .response p ack response =>
    if s.stage = .opened then s.call (.onResponse p ack response) (d.onResponse ack response) else s
  | .push p push => if s.stage = .opened then s.call (.onPush p push) (d.onPush push) else s
  | .closed status => s.closed d status
  | .heartbeat body => if s.stage = .opened then s.heartbeat body else s
  | .numbers ack sn =>
    if s.stage = .opened then { s with xfer := s.xfer.takeNumbers ack sn } else s
  | .flush c => { s with xfer := (Xfer.flushXfer.run (c,s.xfer)).2.2 }
  | .flushAck c => { s with xfer := (Xfer.flushXferAck.run (c,s.xfer)).2.2 }

/-- The states that moves lead to, with heartbeats of the given body. -/
def Reachable (d : Delegate δ) (start : δ) (beat : String) (s : Desk δ) : Prop :=
  ∃ moves, (∀ m ∈ moves, m.Beats (· = beat)) ∧ Machine.run (step d) (new start) moves = s

lemma Reachable.step {d : Delegate δ} {start : δ} {beat : String} {s : Desk δ}
    (h : Reachable d start beat s) (m : DeskMove) (hm : m.Beats (· = beat)) :
    Reachable d start beat (s.step d m) := by
  obtain ⟨moves,hmoves,rfl⟩ := h
  refine ⟨moves ++ [m],?_,by rw [Machine.run_append]; rfl⟩
  rw [List.forall_mem_append]
  exact ⟨hmoves,by simpa using hm⟩

end Desk

namespace Task

open Prog

variable {δ α β : Type} (d : Delegate δ) (start : δ) (beat : String)

/-- The session is not open, and delegate and calls are as moves have left them. -/
def Before (l : δ) (calls : List (Call × Bool)) : Prop :=
  ∃ s, Desk.Reachable d start beat s ∧ s.listener = l ∧ s.calls = calls ∧ s.stage ≠ .opened

/-- A queue is prepared for the session. -/
def Prepared (x : Xfer) (l : δ) (calls : List (Call × Bool)) : Prop :=
  ∃ s, Desk.Reachable d start beat s ∧ s.listener = l ∧ s.calls = calls ∧ s.xfer = x ∧ s.stage = .prepared

/-- The session is open. -/
def During (x : Xfer) (l : δ) (calls : List (Call × Bool)) : Prop :=
  ∃ s, Desk.Reachable d start beat s ∧ s.listener = l ∧ s.calls = calls ∧ s.xfer = x ∧ s.stage = .opened

/-- Delegate and calls are as moves have left them, and so is the queue of the session, where one
was opened. -/
def Served (queue : Option Xfer) (l : δ) (calls : List (Call × Bool)) : Prop :=
  ∃ s, Desk.Reachable d start beat s ∧ s.listener = l ∧ s.calls = calls ∧
    ∀ x, queue = some x → s.stage = .opened ∧ s.xfer = x

variable {d start beat}

section Moves
variable {x : Xfer} {l : δ} {calls : List (Call × Bool)}

lemma Prepared.before (h : Prepared d start beat x l calls) : Before d start beat l calls := by
  obtain ⟨s,hr,hl,hc,-,hs⟩ := h
  exact ⟨s,hr,hl,hc,by simp [hs]⟩

lemma Before.served (h : Before d start beat l calls) : Served d start beat none l calls := by
  obtain ⟨s,hr,hl,hc,-⟩ := h
  exact ⟨s,hr,hl,hc,by simp⟩

lemma During.served (h : During d start beat x l calls) : Served d start beat (some x) l calls := by
  obtain ⟨s,hr,hl,hc,hx,hs⟩ := h
  exact ⟨s,hr,hl,hc,by simp [hx, hs]⟩

/-- What an opening leaves, where it succeeds and where it fails. -/
lemma Before.opening (h : Before d start beat l calls) :
    ((d.onOpening.run (l,Xfer.new)).1.isOk → Prepared d start beat (d.onOpening.run (l,Xfer.new)).2.2
      (d.onOpening.run (l,Xfer.new)).2.1
      (calls ++ [(.onOpening,(d.onOpening.run (l,Xfer.new)).1.isOk)])) ∧
    (¬ (d.onOpening.run (l,Xfer.new)).1.isOk → Before d start beat (d.onOpening.run (l,Xfer.new)).2.1
      (calls ++ [(.onOpening,(d.onOpening.run (l,Xfer.new)).1.isOk)])) := by
  obtain ⟨s,hr,rfl,rfl,hs⟩ := h
  have hstep : s.step d .opening = s.opening d := by simp [Desk.step, hs]
  have hreach := hr.step .opening trivial
  rw [hstep] at hreach
  refine ⟨fun hok => ⟨_,hreach,rfl,rfl,rfl,?_⟩,fun hok => ⟨_,hreach,rfl,rfl,?_⟩⟩
  · simp [Desk.opening, hok]
  · simp [Desk.opening, hok]

lemma Prepared.opened (h : Prepared d start beat x l calls) (sessionId : String) :
    During d start beat ((d.onOpened sessionId).run (l,x)).2.2 ((d.onOpened sessionId).run (l,x)).2.1
      (calls ++ [(.onOpened sessionId,((d.onOpened sessionId).run (l,x)).1.isOk)]) := by
  obtain ⟨s,hr,rfl,rfl,rfl,hs⟩ := h
  refine ⟨_,hr.step (.opened sessionId) trivial,?_⟩
  simp [Desk.step, hs, Desk.call]

lemma Prepared.flush (h : Prepared d start beat x l calls) (c : Conn) :
    Prepared d start beat (Xfer.flushXfer.run (c,x)).2.2 l calls := by
  obtain ⟨s,hr,rfl,rfl,rfl,hs⟩ := h
  exact ⟨_,hr.step (.flush c) trivial,rfl,rfl,rfl,hs⟩

lemma During.flush (h : During d start beat x l calls) (c : Conn) :
    During d start beat (Xfer.flushXfer.run (c,x)).2.2 l calls := by
  obtain ⟨s,hr,rfl,rfl,rfl,hs⟩ := h
  exact ⟨_,hr.step (.flush c) trivial,rfl,rfl,rfl,hs⟩

lemma During.flushAck (h : During d start beat x l calls) (c : Conn) :
    During d start beat (Xfer.flushXferAck.run (c,x)).2.2 l calls := by
  obtain ⟨s,hr,rfl,rfl,rfl,hs⟩ := h
  exact ⟨_,hr.step (.flushAck c) trivial,rfl,rfl,rfl,hs⟩

lemma During.numbers (h : During d start beat x l calls) (ack sn : Option ℤ) :
    During d start beat (x.takeNumbers ack sn) l calls := by
  obtain ⟨s,hr,rfl,rfl,rfl,hs⟩ := h
  refine ⟨_,hr.step (.numbers ack sn) trivial,?_⟩
  simp [Desk.step, hs]

lemma During.heartbeat (h : During d start beat x l calls) :
    During d start beat ((Xfer.addQos1Json .request (.ok beat) none).run x).2 l calls := by
  obtain ⟨s,hr,rfl,rfl,rfl,hs⟩ := h
  refine ⟨_,hr.step (.heartbeat beat) rfl,?_⟩
  simp [Desk.step, hs, Desk.heartbeat]

lemma During.process (h : During d start beat x l calls) :
    During d start beat (d.onProcess.run (l,x)).2.2 (d.onProcess.run (l,x)).2.1
      (calls ++ [(.onProcess,(d.onProcess.run (l,x)).1.isOk)]) := by
  obtain ⟨s,hr,rfl,rfl,rfl,hs⟩ := h
  refine ⟨_,hr.step .process trivial,?_⟩
  simp [Desk.step, hs, Desk.call]

lemma During.response (h : During d start beat x l calls) (p : Packet) (ack : ℤ)
    (response : ServerResponse) : During d start beat ((d.onResponse ack response).run (l,x)).2.2
      ((d.onResponse ack response).run (l,x)).2.1
      (calls ++ [(.onResponse p ack response,((d.onResponse ack response).run (l,x)).1.isOk)]) := by
  obtain ⟨s,hr,rfl,rfl,rfl,hs⟩ := h
  refine ⟨_,hr.step (.response p ack response) trivial,?_⟩
  simp [Desk.step, hs, Desk.call]

lemma During.push (h : During d start beat x l calls) (p : Packet) (push : ServerPush) :
    During d start beat ((d.onPush push).run (l,x)).2.2 ((d.onPush push).run (l,x)).2.1
      (calls ++ [(.onPush p push,((d.onPush push).run (l,x)).1.isOk)]) := by
  obtain ⟨s,hr,rfl,rfl,rfl,hs⟩ := h
  refine ⟨_,hr.step (.push p push) trivial,?_⟩
  simp [Desk.step, hs, Desk.call]

lemma Served.closed {queue : Option Xfer} (h : Served d start beat queue l calls) (status : Status) :
    Served d start beat queue ((d.onClosed status).run l).2
      (calls ++ [(.onClosed status,((d.onClosed status).run l).1.isOk)]) := by
  obtain ⟨s,hr,rfl,rfl,hx⟩ := h
  exact ⟨_,hr.step (.closed status) trivial,rfl,rfl,hx⟩

end Moves

/-- How a part of the opening ends: with a result that `O` describes, or with the session not open. -/
def Opens (d : Delegate δ) (start : δ) (beat : String) (O : α → Task δ → Prop) : Except Stop α → Task δ → Prop
  | .ok a,t => O a t
  | .error _,t => Before d start beat t.listener t.env.calls

section Open
variable {O : α → Task δ → Prop} {O' : β → Task δ → Prop} {P : Task δ → Prop}

lemma opens_bind {m : Prog (Task δ) Stop α} {f : α → Prog (Task δ) Stop β}
    (hm : Triple P m (Opens d start beat O)) (hf : ∀ a, Triple (O a) (f a) (Opens d start beat O')) :
    Triple P (m >>= f) (Opens d start beat O') := Triple.bind hm hf fun _ _ h => h

lemma opens_of_keeps {m : Prog (Task δ) Stop α} (hm : Keeps P m)
    (hP : ∀ t, P t → Before d start beat t.listener t.env.calls) : Triple P m (Opens d start beat fun _ => P) := by
  intro t ht
  have h := hm t ht
  cases (m.run t).1 with
  | ok a => exact h
  | error e => exact hP _ h

/-- The parts that only wait. -/
lemma opens_waits {m : Prog (Task δ) Stop α} (A : δ → List (Call × Bool) → Prop)
    (hm : ∀ {J : Task δ → Prop}, Aside J → Keeps J m) (hA : ∀ l calls, A l calls → Before d start beat l calls) :
    Triple (fun t => A t.listener t.env.calls) m (Opens d start beat fun _ t => A t.listener t.env.calls) :=
  opens_of_keeps (hm (aside_calls A)) fun _ h => hA _ _ h

lemma opens_pure {a : α} (h : ∀ t, P t → O a t) : Triple P (pure a) (Opens d start beat O) := Triple.pure h

lemma opens_fail {e : Stop} (h : ∀ t, P t → Before d start beat t.listener t.env.calls) :
    Triple P (Prog.fail e : Prog (Task δ) Stop α) (Opens d start beat O) := Triple.fail h

lemma opens_context {m : Prog (Task δ) Stop α} (text : String) (hm : Triple P m (Opens d start beat O)) :
    Triple P (withContext text m) (Opens d start beat O) := by
  refine Triple.mapError (hm.post ?_)
  intro r t h
  cases r <;> exact h

/-- What a caught part leaves. -/
def Caught (d : Delegate δ) (start : δ) (beat : String) (O : α → Task δ → Prop) : Except Error α → Task δ → Prop
  | .ok a => O a
  | .error _ => fun t => Before d start beat t.listener t.env.calls

lemma opens_catching {m : Prog (Task δ) Stop α} (hm : Triple P m (Opens d start beat O)) :
    Triple P (catching m) (Opens d start beat (Caught d start beat O)) := by
  intro t ht
  have h := hm t ht
  unfold catching
  rcases hr : m.run t with ⟨r,t'⟩
  rw [hr] at h
  cases r with
  | ok a =>
    simp only [hr]
    exact h
  | error stop =>
    cases stop <;>
    · simp only [hr]
      exact h

lemma opens_loop {I : Task δ → Prop} {body : Prog (Task δ) Stop (Option α)}
    (hI : ∀ t, I t → Before d start beat t.listener t.env.calls)
    (hb : Triple I body (Opens d start beat (Round O I))) (fuel : ℕ) :
    Triple I (Prog.loop .pending body fuel) (Opens d start beat O) := by
  refine Triple.loop (hb.post ?_) hI fuel
  intro r t h
  cases r with
  | ok a => cases a <;> exact h
  | error e => exact h

variable (serde : Serde) (fuel : ℕ)

lemma callOpening_opens : Triple (fun t => Before d start beat t.listener t.env.calls) (callOpening d)
    (Opens d start beat fun x t => Prepared d start beat x t.listener t.env.calls) := by
  intro t h
  obtain ⟨hok,herr⟩ := h.opening
  unfold callOpening call
  dsimp only
  cases hr : (d.onOpening.run (t.listener,Xfer.new)).1 with
  | ok _ =>
    rw [hr] at hok
    exact hok rfl
  | error e =>
    rw [hr] at herr
    exact herr (by simp [Except.isOk, Except.toBool])

lemma openSession_opens (conn : Conn) : Triple (fun t => Before d start beat t.listener t.env.calls)
    (openSession d fuel conn)
    (Opens d start beat fun r t => Prepared d start beat r.2.2 t.listener t.env.calls) := by
  have hsend : Keeps (fun t : Task δ => Before d start beat t.listener t.env.calls)
      (withContext "open_session_send failed" (openSessionSend conn)) := fun _ h => h
  refine opens_bind (opens_of_keeps hsend fun _ h => h) fun conn => ?_
  refine opens_bind callOpening_opens fun xfer => ?_
  refine opens_bind (O := fun r t => Prepared d start beat r.2 t.listener t.env.calls) ?_ fun r => ?_
  · intro t h
    have hf := h.flush conn
    unfold flushOn
    dsimp only
    cases (Xfer.flushXfer.run (conn,xfer)).1 with
    | ok _ => exact hf
    | error e => exact h.before
  obtain ⟨conn,xfer⟩ := r
  have hbefore : ∀ l calls, Prepared d start beat xfer l calls → Before d start beat l calls :=
    fun _ _ h => h.before
  refine opens_loop (fun _ h => h.before) ?_ fuel
  refine opens_bind (opens_context _ (opens_waits (Prepared d start beat xfer)
    (fun hJ => hJ.resting.recvRaw .connect fuel) hbefore)) fun raw => ?_
  cases raw with
  | some raw =>
    refine opens_bind (opens_waits (Prepared d start beat xfer)
      (fun hJ => hJ.hear _ (by simp)) hbefore) fun _ => ?_
    exact opens_pure fun _ h => h
  | none =>
    refine opens_bind (opens_waits (Prepared d start beat xfer)
      (fun hJ => hJ.resting.shouldBreak .connect) hbefore) fun b => ?_
    cases b with
    | true => exact opens_fail fun _ h => h.before
    | false => exact opens_pure fun _ h => h

lemma openLoop_opens : Triple (fun t => Before d start beat t.listener t.env.calls) (openLoop d serde fuel)
    (Opens d start beat fun r t => Prepared d start beat r.2.2 t.listener t.env.calls) := by
  refine opens_loop (fun _ h => h) ?_ fuel
  refine opens_bind (opens_waits (Before d start beat) (fun hJ => hJ.resting.connectLoop serde .connect fuel)
    fun _ _ h => h) fun conn => ?_
  refine opens_bind (opens_catching (openSession_opens fuel conn)) fun r => ?_
  cases r with
  | ok r => exact opens_pure fun _ h => h
  | error e =>
    refine opens_bind (opens_waits (Before d start beat) (fun hJ => hJ.resting.shouldBreak .connect)
      fun _ _ h => h) fun b => ?_
    cases b with
    | true => exact opens_fail fun _ h => h
    | false =>
      refine opens_bind (opens_of_keeps (fun _ h => h) fun _ h => h) fun t =>
        opens_bind (opens_waits (Before d start beat) (fun hJ => hJ.resting.sleep .connect fuel _)
          fun _ _ h => h) fun b => ?_
      cases b with
      | true => exact opens_pure fun _ h => h
      | false => exact opens_fail fun _ h => h

lemma phaseOpen_opens : Triple (fun t => Before d start beat t.listener t.env.calls) (phaseOpen d serde fuel)
    (Opens d start beat fun session t => During d start beat session.xfer t.listener t.env.calls) := by
  refine opens_bind (opens_of_keeps (fun _ h => h) fun _ h => h) fun t₀ => ?_
  refine opens_bind (O := fun r t => Prepared d start beat r.2.2 t.listener t.env.calls) ?_ fun r => ?_
  · refine Triple.mapError ((openLoop_opens serde fuel).post ?_)
    intro r t h
    cases r <;> exact h
  obtain ⟨conn,raw,xfer⟩ := r
  cases hp : serde.packet raw with
  | none =>
    simp only [hp]
    exact opens_fail fun _ h => h.before
  | some packet =>
    simp only [hp]
    refine opens_bind (opens_context _ (opens_of_keeps (Keeps.ofExcept _) fun _ h => h.before))
      fun ids => ?_
    intro t h
    have hd := h.opened ids.1
    rw [run_get_bind, run_get_bind]
    unfold catching call
    rw [run_bind]
    dsimp only
    cases hr : ((d.onOpened ids.1).run (t.listener,xfer)).1 with
    | ok _ =>
      rw [hr] at hd
      simp only [Session.opened, Session.startHeartbeat, hr, Except.mapError]
      exact hd
    | error e =>
      rw [hr] at hd
      simp only [Session.opened, Session.startHeartbeat, hr, Except.mapError]
      exact hd

end Open

section Session
variable (d start beat) (serde : Serde) (fuel : ℕ)

/-- The session is open, for a task with its session. -/
abbrev Sits (s : Task δ × Session) : Prop := During d start beat s.2.xfer s.1.listener s.1.env.calls

lemma sits_waits {m : Prog (Task δ) Stop α} (hm : ∀ {J : Task δ → Prop}, Aside J → Keeps J m) :
    Keeps (Sits d start beat) (onTask m) :=
  fun s h => hm (aside_calls (During d start beat s.2.xfer)) s.1 h

/-- A part of the session that does with the queue only what `hm` says. -/
lemma sits_onSession {m : Prog Session Stop α}
    (hm : ∀ l calls, Keeps (fun s : Session => During d start beat s.xfer l calls) m) :
    Keeps (Sits d start beat) (onSession m) := fun s h => hm s.1.listener s.1.env.calls s.2 h

lemma sits_same {m : Prog Session Stop α} (hm : ∀ s, (m.run s).2.xfer = s.xfer) :
    Keeps (Sits d start beat) (onSession m) := by
  apply sits_onSession
  intro l calls s h
  rw [hm]
  exact h

lemma sits_flush : Keeps (Sits d start beat) (onSession (Session.onWire Xfer.flushXfer)) :=
  sits_onSession d start beat fun _ _ s h => h.flush s.conn

lemma sits_callWith {c : Call} {m : Prog (δ × Xfer) Error Unit}
    (hm : ∀ x l calls, During d start beat x l calls → During d start beat (m.run (l,x)).2.2
      (m.run (l,x)).2.1 (calls ++ [(c,(m.run (l,x)).1.isOk)])) :
    Keeps (Sits d start beat) (callWith c m) := fun s h => hm s.2.xfer s.1.listener s.1.env.calls h

lemma sits_tick (cfg : ConnectionConfig) (now : ℕ) :
    Keeps (Sits d start beat) (onSession (Session.handleHeartbeatTick cfg beat now)) := by
  apply sits_onSession
  intro l calls
  unfold Session.handleHeartbeatTick
  split
  · exact Keeps.pure _
  refine Keeps.get_bind fun s => ?_
  split
  · exact Keeps.fail _
  refine Keeps.get_bind fun s => ?_
  split
  · refine Keeps.get_bind fun s => ?_
    split
    · refine Keeps.bind (fun s h => h.heartbeat) fun sn => ?_
      exact Keeps.bind (Keeps.modify fun _ h => h) fun _ =>
        Keeps.bind (Keeps.modify fun _ h => h) fun _ => fun s h => h.flush s.conn
    · exact Keeps.pure _
  · exact Keeps.pure _

lemma sits_tryHandle (ack : ℤ) (response : ServerResponse) :
    Keeps (Sits d start beat) (onSession (Prog.mapError Stop.err
      (Session.tryHandleHeartbeatResponse ack response))) := by
  apply sits_same
  intro s
  obtain ⟨pending,hs⟩ := Session.tryHandle_keeps ack response s
  simp [hs]

lemma sits_inPhase : KeptInPhase d serde fuel (Sits d start serde.heartbeatRequest) where
  recv := sits_waits d start _ fun hJ => hJ.resting.recvPacket serde .work fuel
  mode := sits_waits d start _ fun hJ => hJ.resting.shouldBreak .work
  clock _ _ h := h
  hears _ _ h := h
  noteClosed _ _ h := h
  process := sits_callWith d start _ fun _ _ _ h => h.process
  response p ack rsp := sits_callWith d start _ fun _ _ _ h => h.response p ack rsp
  push p x := sits_callWith d start _ fun _ _ _ h => h.push p x
  flush := sits_flush d start _
  flushAck := sits_onSession d start _ fun _ _ s h => h.flushAck s.conn
  closeFrame := sits_same d start _ fun _ => rfl
  tick := sits_tick d start _
  heartbeat := sits_tryHandle d start _
  onRecv _ := sits_same d start _ fun _ => rfl
  numbers ack sn := sits_onSession d start _ fun _ _ _ h => h.numbers ack sn

lemma sits_reconnectSession (conn : Conn) : Keeps (Sits d start serde.heartbeatRequest) (reconnectSession serde fuel conn) := by
  refine Keeps.bind (fun _ h => h) fun _ => Keeps.get_bind fun s => ?_
  refine Keeps.bind (fun _ h => h) fun conn => ?_
  refine Keeps.loop (Keeps.bind (sits_waits d start _ fun hJ =>
    Keeps.withContext _ (hJ.resting.recvPacket serde .work fuel)) fun r => ?_) fuel
  cases r with
  | none =>
    refine Keeps.bind (sits_waits d start _ fun hJ => hJ.resting.shouldBreak .work) fun b => ?_
    cases b with
    | true => exact Keeps.fail _
    | false => exact Keeps.pure _
  | some packet =>
    refine Keeps.bind (fun _ h => h) fun _ => ?_
    refine Keeps.bind (Keeps.withContext _ (Keeps.ofExcept _)) fun connId => ?_
    refine Keeps.bind (sits_onSession d start _ fun _ _ _ h => h.numbers packet.ack packet.sn?) fun _ => ?_
    refine Keeps.get_bind fun s => Keeps.bind (sits_same d start _ fun _ => rfl) fun _ => ?_
    refine Keeps.bind (fun _ h => h) fun _ => ?_
    exact Keeps.bind (sits_flush d start _) fun _ => Keeps.pure _

lemma sits_atWork : KeptAtWork d serde fuel (Sits d start serde.heartbeatRequest) where
  work := (sits_inPhase d start serde fuel).phaseWork
  attempt := sits_reconnectSession d start serde fuel
  connect := sits_waits d start _ fun hJ => hJ.resting.connectLoop serde .work fuel
  mode := sits_waits d start _ fun hJ => hJ.resting.shouldBreak .work
  sleep t := sits_waits d start _ fun hJ => hJ.resting.sleep .work fuel t
  closed := sits_waits d start _ fun hJ => hJ.resting.isClosed
  thrown _ := sits_waits d start _ fun hJ => hJ.hear _ (by simp)

/-- The transfer queue of the session at the end of a run, where one was opened. -/
def lastQueue (t : Task δ) : Option Xfer :=
  match (phaseOpen d serde fuel).run t with
  | (.ok session,t) => some ((workLoop d serde fuel).run (t,session)).2.2.xfer
  | (.error _,_) => none

lemma tryRun_served {t : Task δ} (h : Before d start serde.heartbeatRequest t.listener t.env.calls) :
    Served d start serde.heartbeatRequest (lastQueue d serde fuel t)
      ((tryRun d serde fuel).run t).2.listener ((tryRun d serde fuel).run t).2.env.calls := by
  have hopen := phaseOpen_opens serde fuel t h
  rcases hr : (phaseOpen d serde fuel).run t with ⟨r,t'⟩
  rw [hr] at hopen
  cases r with
  | ok session =>
    have hw : During d start serde.heartbeatRequest _
        ((workLoop d serde fuel).run (t',session)).2.1.listener
        ((workLoop d serde fuel).run (t',session)).2.1.env.calls :=
      (sits_atWork d start serde fuel).workLoop (t',session) hopen
    have hrun : ((tryRun d serde fuel).run t).2 = ((workLoop d serde fuel).run (t',session)).2.1 := by
      rw [tryRun, run_bind_ok hr, run_zoom]
    simp only [hrun, lastQueue, hr]
    exact hw.served
  | error e =>
    simp only [tryRun, run_bind_error hr, lastQueue, hr]
    exact hopen.served

lemma closeStatus_served {queue : Option Xfer} (r : Except Error Unit) :
    Keeps (fun t : Task δ => Served d start beat queue t.listener t.env.calls) (closeStatus r) := by
  cases r with
  | ok _ => exact Keeps.pure _
  | error e =>
    refine Keeps.get_bind fun t => ?_
    cases t.gotClosed with
    | none => exact Keeps.pure _
    | some status => exact Keeps.bind (Keeps.modify fun _ h => h) fun _ => Keeps.pure _

/-- At every moment of every run of the worker, the delegate, the calls that it got and the queue of
its session are as moves of the desk have left them. -/
theorem run_served (config : JoinConfig) (now : ℕ) (waits : List (ℕ × Wait))
    (modes : ℕ → ShutdownMode) (drops : ℕ → Bool) : Served d start serde.heartbeatRequest
      (lastQueue d serde fuel (Task.new config start now waits modes drops))
      ((run d serde fuel).run (Task.new config start now waits modes drops)).2.listener
      ((run d serde fuel).run (Task.new config start now waits modes drops)).2.env.calls := by
  have hnew : Before d start serde.heartbeatRequest (Task.new config start now waits modes drops).listener
      (Task.new config start now waits modes drops).env.calls :=
    ⟨Desk.new start,⟨[],by simp,rfl⟩,rfl,rfl,by simp [Desk.new]⟩
  have htry := tryRun_served d start serde fuel hnew
  generalize lastQueue d serde fuel (Task.new config start now waits modes drops) = queue at htry ⊢
  have hrest : ∀ r, Keeps (fun t : Task δ =>
      Served d start serde.heartbeatRequest queue t.listener t.env.calls) (do
      let status ← closeStatus r
      let _ ← Prog.catching (Task.call (.onClosed status) (d.onClosed status))) := by
    intro r
    refine Keeps.bind (closeStatus_served d start _ r) fun status => ?_
    exact Keeps.bind (Keeps.catching fun t h => h.closed status) fun _ => Keeps.pure _
  have hcatch := (catching_state (tryRun d serde fuel) (Task.new config start now waits modes drops))
  unfold run
  rw [run_bind]
  rcases hr : (catching (tryRun d serde fuel)).run (Task.new config start now waits modes drops) with ⟨r,t⟩
  rw [hr] at hcatch
  rw [← hcatch] at htry
  cases r with
  | ok r => exact hrest r t htry
  | error e => exact htry

end Session

end Task
end VvClient
