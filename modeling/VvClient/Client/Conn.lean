import VvClient.Proto.Packet

/-! Connections, and how an asynchronous function of the client can end. -/
namespace VvClient

/-- How an asynchronous function ends when it does not return a value. Only `err` is an `Err`
that its caller sees; the others stop the caller too, until the construct that caused them. -/
inductive Stop
  /-- it returns `Err(e)` -/
  | err (e : Error)
  /-- it is dropped because the `timeout` around it has run out -/
  | elapsed
  /-- it is dropped because the `sleep_until` branch of a `select!` around it has won -/
  | timer
  /-- it is still waiting -/
  | pending
  deriving DecidableEq, Repr

namespace Stop

/-- `with_context` on a result. -/
def context (text : String) : Stop → Stop
  | err e => err (e.context text)
  | s => s

@[simp] theorem context_err (text : String) (e : Error) : context text (err e) = err (e.context text) := rfl
@[simp] theorem context_elapsed (text : String) : context text elapsed = elapsed := rfl
@[simp] theorem context_timer (text : String) : context text timer = timer := rfl
@[simp] theorem context_pending (text : String) : context text pending = pending := rfl

end Stop

namespace Prog
variable {σ α : Type}

def withContext (text : String) (m : Prog σ Stop α) : Prog σ Stop α := m.mapError (Stop.context text)

/-- `let r = m.await;`: the result is handed on, unless `m` never returns one. -/
def catching (m : Prog σ Stop α) : Prog σ Stop (Except Error α) := ⟨fun s =>
  match m.run s with
  | (.ok a,s') => (.ok (.ok a),s')
  | (.error (.err e),s') => (.ok (.error e),s')
  | (.error stop,s') => (.error stop,s')⟩

@[simp] theorem catching_state (m : Prog σ Stop α) (s : σ) :
    (m.catching.run s).2 = (m.run s).2 := by
  simp only [catching]
  split <;> simp [*]

theorem catching_ok {m : Prog σ Stop α} {s s' : σ} {a : α} (h : m.run s = (.ok a,s')) :
    m.catching.run s = (.ok (.ok a),s') := by simp only [catching, h]

theorem catching_err {m : Prog σ Stop α} {s s' : σ} {e : Error} (h : m.run s = (.error (.err e),s')) :
    m.catching.run s = (.ok (.error e),s') := by simp only [catching, h]

theorem catching_stop {m : Prog σ Stop α} {s s' : σ} {stop : Stop} (h : m.run s = (.error stop,s'))
    (hs : ∀ e, stop ≠ .err e) : m.catching.run s = (.error stop,s') := by
  cases stop with
  | err e => exact absurd rfl (hs e)
  | _ => simp only [catching, h]

/-- `timeout(d, m).await` with the error that its elapsing is turned into. -/
def timeout (text : String) (m : Prog σ Stop α) : Prog σ Stop α :=
  m.mapError fun stop => match stop with
    | .elapsed => .err (.msg text)
    | stop => stop

namespace Keeps

variable {I : σ → Prop} {m : Prog σ Stop α}

theorem withContext (text : String) (hm : Keeps I m) : Keeps I (withContext text m) := hm

theorem timeout (text : String) (hm : Keeps I m) : Keeps I (timeout text m) := hm

theorem catching (hm : Keeps I m) : Keeps I (catching m) := by
  intro s hs
  rw [catching_state]
  exact hm s hs

end Keeps

end Prog

/-- What comes of one `send_text`: it returns, or its future is dropped while it waits. -/
inductive SendResult
  | sent
  | failed
  | elapsed
  deriving DecidableEq, Repr

def SendResult.toExcept : SendResult → Except Stop Unit
  | .sent => .ok ()
  | .failed => .error (.err (.msg "send failed"))
  | .elapsed => .error .elapsed

/-- A connection: the packets handed to it with what came of each, and what will come of the
next ones. -/
structure Conn where
  log : List (Packet × SendResult)
  answers : ℕ → SendResult

namespace Conn

/-- A connection that was just opened. -/
def fresh (answers : ℕ → SendResult) : Conn := ⟨[],answers⟩

/-- A connection on which the request that opens or resumes the session was written. That
request has no sequence number. -/
def opened (request : String) (answers : ℕ → SendResult) : Conn :=
  ⟨[(⟨some PacketType.request.asNum,none,some request,none⟩,.sent)],answers⟩

/-- The packets written on the connection. -/
def sent (c : Conn) : List Packet := (c.log.filter fun r => r.2 = .sent).map (·.1)

/-- The answer to the next packet. -/
def answer (c : Conn) : SendResult := c.answers c.log.length

def sendPacket (p : Packet) : Prog Conn Stop Unit :=
  ⟨fun c => (c.answer.toExcept,{ c with log := c.log ++ [(p,c.answer)] })⟩

/-- `send_close_frame`; nothing is written on the connection after it. -/
def sendCloseFrame : Prog Conn Stop Unit :=
  ⟨fun c => (c.answer.toExcept.mapError (Stop.context "send close frame failed"),c)⟩

@[simp] theorem fresh_sent (answers : ℕ → SendResult) : (fresh answers).sent = [] := rfl

theorem sendPacket_sent {p : Packet} {c : Conn} (h : c.answer = .sent) :
    ((sendPacket p).run c).1 = .ok () ∧ ((sendPacket p).run c).2.sent = c.sent ++ [p] := by
  simp [sendPacket, h, sent, SendResult.toExcept]

theorem sendPacket_unsent {p : Packet} {c : Conn} (h : c.answer ≠ .sent) :
    (∃ e, ((sendPacket p).run c).1 = .error e) ∧ ((sendPacket p).run c).2.sent = c.sent := by
  constructor
  · cases ha : c.answer with
    | sent => exact absurd ha h
    | failed => exact ⟨_,congrArg SendResult.toExcept ha⟩
    | elapsed => exact ⟨_,congrArg SendResult.toExcept ha⟩
  · simp [sendPacket, sent, h]

@[simp] theorem sendPacket_answers (p : Packet) (c : Conn) :
    ((sendPacket p).run c).2.answers = c.answers := rfl

end Conn
end VvClient
