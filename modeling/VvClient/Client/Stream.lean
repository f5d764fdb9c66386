import VvClient.Client.Conn

/-! The stream of a connection over its WebSocket: how `recv_raw` gets a text out of the frames that
arrive, and what becomes of it when the socket ends. -/
namespace VvClient

/-- A message of the WebSocket. What is in a binary message or a pong is not used. -/
inductive WsMessage
  | text (text : String)
  | binary
  | ping (data : List UInt8)
  | pong
  | close
  deriving DecidableEq, Repr

namespace WsMessage

def text? : WsMessage → Option String
  | .text s => some s
  | _ => none

def isPing : WsMessage → Bool
  | .ping _ => true
  | _ => false

/-- The text of an item of the socket. -/
def itemText (r : Except Error WsMessage) : Option String := r.toOption.bind text?

end WsMessage

/-- The socket: what has arrived and was not read, and what was read so far. -/
structure WsStream where
  incoming : List (Except Error WsMessage)
  /-- nothing arrives any more -/
  ended : Bool
  /-- a close frame was read -/
  closed : Bool
  got : List (Except Error WsMessage)
  /-- what the writes of pongs return, and those that were tried -/
  answers : ℕ → Except Error Unit
  pongs : List (List UInt8)

/-- A socket with all its frames, after which it ends. -/
def WsStream.ofFrames (frames : List WsMessage) (answers : ℕ → Except Error Unit) : WsStream :=
  ⟨frames.map .ok,true,false,[],answers,[]⟩

structure TungStream where
  socket : WsStream
  recvPacket : Option String
  recvPing : Option (List UInt8)
  isClosed : Bool

namespace TungStream

def fromSocket (socket : WsStream) : TungStream := ⟨socket,none,none,false⟩

/-- `socket.next()`: after a close frame, and at the end, it returns `None` each time. -/
def next : Prog TungStream Stop (Option (Except Error WsMessage)) := ⟨fun s =>
  if s.socket.closed then (.ok none,s)
  else match s.socket.incoming with
  | [] => if s.socket.ended then (.ok none,s) else (.error .pending,s)
  | r::rest => (.ok (some r),{ s with
      socket := { s.socket with
        incoming := rest
        closed := r.toOption = some .close
        got := s.socket.got ++ [r] } })⟩

/-- `socket.send(Pong(data))` -/
def sendPong (data : List UInt8) : Prog TungStream Stop Unit := ⟨fun s =>
  ((s.socket.answers s.socket.pongs.length).mapError .err,
    { s with socket := { s.socket with pongs := s.socket.pongs ++ [data] } })⟩

/-- What `wait_next_recv` does with a message; `some` leaves its loop. -/
def onMessage : WsMessage → Prog TungStream Stop (Option Unit)
  | .binary => pure none
  | .close => do
    Prog.modify fun s => { s with isClosed := true }
    return some ()
  | .ping data => do
    Prog.modify fun s => { s with recvPing := some data }
    return none
  | .pong => pure none
  | .text text => do
    Prog.modify fun s => { s with recvPacket := some text }
    return some ()

/-- One round of the loop of `wait_next_recv`. -/
def waitRound : Prog TungStream Stop (Option Unit) := do
  match ← next with
  | some (.ok message) => onMessage message
  | some (.error e) => Prog.fail (.err (e.context "failed to receive message"))
  | none =>
    Prog.modify fun s => { s with isClosed := true }
    return some ()

def waitNextRecv (fuel : ℕ) : Prog TungStream Stop Unit := do
  if (← Prog.get).recvPacket.isSome then return ()
  else Prog.loop .pending waitRound fuel

/-- `self.recv_ping.take()` -/
def takePing : Prog TungStream Stop (Option (List UInt8)) := ⟨fun s =>
  (.ok s.recvPing,{ s with recvPing := none })⟩

/-- `self.recv_packet.take()` -/
def takePacket : Prog TungStream Stop (Option String) := ⟨fun s =>
  (.ok s.recvPacket,{ s with recvPacket := none })⟩

def recvNextPacket : Prog TungStream Stop (Option String) := do
  match ← takePing with
  | some data => Prog.withContext "send pong failed" (sendPong data)
  | none => pure ()
  takePacket

/-- One round of the loop of `Task::recv_raw` while nothing comes over `rx`. -/
def recvRound (fuel : ℕ) : Prog TungStream Stop (Option String) := do
  Prog.withContext "wait_next_recv failed" (waitNextRecv fuel)
  Prog.withContext "wait_next_recv failed" recvNextPacket

def recvRaw (fuel : ℕ) : Prog TungStream Stop String := Prog.loop .pending (recvRound fuel) fuel

end TungStream

open TungStream Prog

/-- The frames that a call of `wait_next_recv` reads over. -/
def skipped (frames : List WsMessage) : List WsMessage :=
  frames.takeWhile fun m => m.text? = none ∧ m ≠ .close

/-- The first text, where no close frame comes before it. -/
def firstText (frames : List WsMessage) : Option String :=
  (frames.drop (skipped frames).length).head?.bind WsMessage.text?

/-- A ping comes before that text, before the close frame or before the end. -/
def pinged (frames : List WsMessage) : Bool := (skipped frames).any WsMessage.isPing

/-- The call of `recv_raw` on a new stream. -/
def received (fuel : ℕ) (frames : List WsMessage) (answers : ℕ → Except Error Unit) :
    Except Stop String := ((recvRaw fuel).run (fromSocket (.ofFrames frames answers))).1

/-- After finitely many rounds `recv_raw` returns the first text, or an error where the stream ends
or closes before a text. -/
structure Returns (frames : List WsMessage) (answers : ℕ → Except Error Unit) : Prop where
  text : ∀ text, firstText frames = some text → ∃ fuel, received fuel frames answers = .ok text
  error : firstText frames = none → ∃ fuel e, received fuel frames answers = .error (.err e)

/-- The stream after a message was read, with what is left to read. -/
def afterRead (m : WsMessage) (rest : List (Except Error WsMessage)) (s : TungStream) : TungStream :=
  { s with socket := { s.socket with
      incoming := rest, closed := m = .close, got := s.socket.got ++ [.ok m] } }

/-- The stream at the end of `wait_next_recv` on a socket with these frames. -/
def waited : List WsMessage → TungStream → TungStream
  | [],s => { s with socket := { s.socket with incoming := [] }, isClosed := true }
  | .text text::frames,s =>
    { afterRead (.text text) (frames.map .ok) s with recvPacket := some text }
  | .close::frames,s => { afterRead .close (frames.map .ok) s with isClosed := true }
  | .ping data::frames,s =>
    waited frames { afterRead (.ping data) (frames.map .ok) s with recvPing := some data }
  | .binary::frames,s => waited frames (afterRead .binary (frames.map .ok) s)
  | .pong::frames,s => waited frames (afterRead .pong (frames.map .ok) s)

lemma skipped_text (t : String) (frames : List WsMessage) : skipped (.text t::frames) = [] := by
  simp [skipped, WsMessage.text?]

lemma skipped_close (frames : List WsMessage) : skipped (.close::frames) = [] := by simp [skipped]

lemma skipped_cons {m : WsMessage} (ht : m.text? = none) (hc : m ≠ .close) (frames : List WsMessage) :
    skipped (m::frames) = m::skipped frames := by simp [skipped, ht, hc]

/-- Nothing comes from the socket any more. -/
def Done (s : TungStream) : Prop :=
  s.socket.closed = true ∨ s.socket.incoming = [] ∧ s.socket.ended = true

lemma waitRound_done {s : TungStream} (h : Done s) :
    waitRound.run s = (.ok (some ()),{ s with isClosed := true }) := by
  have hnext : next.run s = (.ok none,s) := by
    rcases h with hc | ⟨hi,he⟩
    · simp [next, hc]
    · by_cases hc : s.socket.closed = true
      · simp [next, hc]
      · simp [next, hc, hi, he]
  rw [waitRound, run_bind_ok hnext]
  rfl

lemma waitRound_message {s : TungStream} {m : WsMessage} {rest : List (Except Error WsMessage)}
    (hc : s.socket.closed = false) (hi : s.socket.incoming = .ok m::rest) :
    waitRound.run s = (onMessage m).run (afterRead m rest s) := by
  have hnext : next.run s = (.ok (some (.ok m)),afterRead m rest s) := by
    simp [next, hc, hi, afterRead, Except.toOption]
  rw [waitRound, run_bind_ok hnext]

/-- What the loop of `wait_next_recv` does with all the frames of a socket that has ended. -/
lemma waitRound_loop (frames : List WsMessage) (s : TungStream)
    (hi : s.socket.incoming = frames.map .ok) (he : s.socket.ended = true)
    (hc : s.socket.closed = false) (n : ℕ) (hn : frames.length < n) :
    (loop .pending waitRound n).run s = (.ok (),waited frames s) := by
  induction frames generalizing s n with
  | nil =>
    obtain ⟨n,rfl⟩ : ∃ k, n = k+1 := ⟨n-1,by omega⟩
    have hround := waitRound_done (s := s) (Or.inr ⟨hi,he⟩)
    rw [loop, run_bind_ok hround]
    simp only [run_pure, waited]
    rw [← List.map_nil (f := (Except.ok : WsMessage → Except Error WsMessage)), ← hi]
  | cons m frames ih =>
    obtain ⟨n,rfl⟩ : ∃ k, n = k+1 := ⟨n-1,by omega⟩
    rw [List.length_cons] at hn
    have hround := waitRound_message hc hi
    rw [loop, run_bind, hround]
    cases m with
    | text t => rfl
    | close => rfl
    | _ =>
      refine ih _ ?_ ?_ ?_ n (by omega)
      · rfl
      · exact he
      · rfl

section Waited
variable (frames : List WsMessage) (s : TungStream)

lemma waited_recvPacket (hs : s.recvPacket = none) :
    (waited frames s).recvPacket = firstText frames := by
  induction frames generalizing s with
  | nil => exact hs
  | cons m frames ih =>
    cases m with
    | text t => simp [waited, firstText, skipped_text, WsMessage.text?]
    | close => simpa [waited, afterRead, firstText, skipped_close, WsMessage.text?] using hs
    | _ =>
      rw [waited, ih, firstText, firstText, skipped_cons rfl (by simp), List.length_cons,
        List.drop_succ_cons]
      exact hs

lemma waited_recvPing :
    (waited frames s).recvPing.isSome = (s.recvPing.isSome || pinged frames) := by
  induction frames generalizing s with
  | nil => simp [waited, pinged, skipped]
  | cons m frames ih =>
    cases m with
    | text t => simp [waited, afterRead, pinged, skipped_text]
    | close => simp [waited, afterRead, pinged, skipped_close]
    | _ =>
      rw [waited, ih, pinged, pinged, skipped_cons rfl (by simp)]
      simp [afterRead, WsMessage.isPing]

lemma waited_socket (he : s.socket.ended = true) :
    (waited frames s).socket.answers = s.socket.answers ∧
    (waited frames s).socket.pongs = s.socket.pongs ∧ (firstText frames = none → Done (waited frames s)) := by
  induction frames generalizing s with
  | nil => exact ⟨rfl,rfl,fun _ => Or.inr ⟨rfl,he⟩⟩
  | cons m frames ih =>
    cases m with
    | text t => exact ⟨rfl,rfl,fun h => absurd h (by simp [firstText, skipped_text, WsMessage.text?])⟩
    | close => exact ⟨rfl,rfl,fun _ => Or.inl rfl⟩
    | _ =>
      rw [waited, firstText, skipped_cons rfl (by simp), List.length_cons, List.drop_succ_cons]
      apply ih
      exact he

end Waited

/-- Where no ping waits, or its pong is written, `recv_next_packet` hands out what was received. -/
lemma recvNextPacket_ok (s : TungStream)
    (h : s.recvPing.isSome → (s.socket.answers s.socket.pongs.length).isOk) :
    ∃ s', recvNextPacket.run s = (.ok s.recvPacket,s') ∧ s'.recvPacket = none ∧ s'.recvPing = none ∧
      (Done s → Done s') := by
  have htake : takePing.run s = (.ok s.recvPing,{ s with recvPing := none }) := rfl
  rw [recvNextPacket, run_bind_ok htake]
  cases hp : s.recvPing with
  | none => exact ⟨{ s with recvPing := none, recvPacket := none },rfl,rfl,rfl,id⟩
  | some data =>
    obtain ⟨u,hu⟩ : ∃ u, s.socket.answers s.socket.pongs.length = .ok u := by
      cases ha : s.socket.answers s.socket.pongs.length with
      | ok u => exact ⟨u,rfl⟩
      | error e => simp [hp, ha, Except.isOk, Except.toBool] at h
    refine ⟨{ s with
      socket := { s.socket with pongs := s.socket.pongs ++ [data] }
      recvPing := none, recvPacket := none },?_,rfl,rfl,id⟩
    have hpong : (Prog.withContext "send pong failed" (sendPong data)).run { s with recvPing := none } =
        (.ok u,{ s with
          socket := { s.socket with pongs := s.socket.pongs ++ [data] }, recvPing := none }) := by
      simp only [Prog.withContext, run_mapError, sendPong, hu, Except.mapError]
    simp only [run_bind_ok hpong]
    rfl

lemma recvNextPacket_error {s : TungStream} (hp : s.recvPing.isSome)
    (ha : (s.socket.answers s.socket.pongs.length).isOk = false) :
    ∃ e s', recvNextPacket.run s = (.error (.err e),s') := by
  obtain ⟨data,hdata⟩ := Option.isSome_iff_exists.mp hp
  obtain ⟨e,he⟩ : ∃ e, s.socket.answers s.socket.pongs.length = .error e := by
    cases ha' : s.socket.answers s.socket.pongs.length with
    | ok u => simp [ha', Except.isOk, Except.toBool] at ha
    | error e => exact ⟨e,rfl⟩
  refine ⟨e.context "send pong failed",{ s with
    socket := { s.socket with pongs := s.socket.pongs ++ [data] }, recvPing := none },?_⟩
  have htake : takePing.run s = (.ok (some data),{ s with recvPing := none }) := by rw [← hdata]; rfl
  rw [recvNextPacket, run_bind_ok htake]
  apply run_bind_error
  simp only [Prog.withContext, run_mapError, sendPong, he, Except.mapError, Stop.context_err]

lemma recvRound_waited {n : ℕ} {s s' : TungStream} (h : (waitNextRecv n).run s = (.ok (),s')) :
    (recvRound n).run s = (Prog.withContext "wait_next_recv failed" recvNextPacket).run s' := by
  have hwait : (Prog.withContext "wait_next_recv failed" (waitNextRecv n)).run s = (.ok (),s') := by
    rw [Prog.withContext, run_mapError, h]
    rfl
  rw [recvRound, run_bind_ok hwait]

/-- A stream from which nothing comes keeps `recv_raw` in its loop. -/
lemma recvRaw_spins {s : TungStream} (hd : Done s) (hr : s.recvPacket = none) (hp : s.recvPing = none)
    (n k : ℕ) : ((loop .pending (recvRound n) k).run s).1 = .error .pending := by
  induction k generalizing s with
  | zero => rfl
  | succ k ih =>
    cases n with
    | zero => simp [loop, recvRound, waitNextRecv, Prog.withContext, run_bind, hr, Except.mapError]
    | succ n =>
      have hwait : (waitNextRecv (n+1)).run s = (.ok (),{ s with isClosed := true }) := by
        rw [waitNextRecv, run_get_bind, if_neg (by simp [hr]), loop]
        exact run_bind_ok (waitRound_done hd)
      obtain ⟨s',hnext,hr',hp',hd'⟩ := recvNextPacket_ok { s with isClosed := true } (by simp [hp])
      have hround : (recvRound (n+1)).run s = (.ok none,s') := by
        rw [recvRound_waited hwait, Prog.withContext, run_mapError, hnext, ← hr]
        rfl
      rw [loop, run_bind_ok hround]
      exact ih (hd' hd) hr' hp'

/-- With more fuel `recv_raw` ends as it does, once it ends. -/
lemma recvRaw_extends {n k : ℕ} (hnk : n ≤ k) : Extends .pending (recvRaw n) (recvRaw k) := by
  refine Extends.loop (Extends.bind ?_ fun _ => Extends.refl _ _) hnk
  refine Extends.mapError rfl (Extends.bind (Extends.refl _ _) fun s => ?_)
  split
  · exact Extends.refl _ _
  · exact Extends.loop (Extends.refl _ _) hnk

section Received
variable (frames : List WsMessage) (answers : ℕ → Except Error Unit)

lemma received_mono {n k : ℕ} (hnk : n ≤ k) (h : received n frames answers ≠ .error .pending) :
    received k frames answers = received n frames answers :=
  congrArg Prod.fst (recvRaw_extends hnk _ h)

/-- The stream at the end of the first `wait_next_recv`. -/
def firstWait : TungStream := waited frames (fromSocket (.ofFrames frames answers))

lemma firstWait_recvPacket : (firstWait frames answers).recvPacket = firstText frames :=
  waited_recvPacket frames _ rfl

lemma firstWait_recvPing : (firstWait frames answers).recvPing.isSome = pinged frames := by
  rw [firstWait, waited_recvPing]
  rfl

lemma firstWait_answer : (firstWait frames answers).socket.answers
    (firstWait frames answers).socket.pongs.length = answers 0 := by
  obtain ⟨hanswers,hpongs,-⟩ := waited_socket frames (fromSocket (.ofFrames frames answers)) rfl
  rw [firstWait, hanswers, hpongs]
  rfl

lemma firstWait_done (h : firstText frames = none) : Done (firstWait frames answers) :=
  (waited_socket frames (fromSocket (.ofFrames frames answers)) rfl).2.2 h

lemma recvRound_first {n : ℕ} (hn : frames.length < n) :
    (recvRound n).run (fromSocket (.ofFrames frames answers)) =
      (Prog.withContext "wait_next_recv failed" recvNextPacket).run (firstWait frames answers) := by
  apply recvRound_waited
  rw [waitNextRecv, run_get_bind, if_neg (by simp [fromSocket])]
  exact waitRound_loop frames (fromSocket (.ofFrames frames answers)) rfl rfl rfl n hn

/-- A ping that cannot be answered makes an error of the call, a text or not. -/
lemma received_unanswered (hp : pinged frames) (ha : (answers 0).isOk = false) {n : ℕ}
    (hn : frames.length < n) : ∃ e, received n frames answers = .error (.err e) := by
  obtain ⟨k,rfl⟩ : ∃ k, n = k+1 := ⟨n-1,by omega⟩
  obtain ⟨e,s',hnext⟩ := recvNextPacket_error ((firstWait_recvPing frames answers).trans hp)
    (by rw [firstWait_answer, ha])
  have hround : (recvRound (k+1)).run (fromSocket (.ofFrames frames answers)) =
      (.error (.err (e.context "wait_next_recv failed")),s') := by
    rw [recvRound_first frames answers hn, Prog.withContext, run_mapError, hnext]
    rfl
  refine ⟨e.context "wait_next_recv failed",?_⟩
  rw [received, recvRaw, loop, run_bind_error hround]

/-- Otherwise the call returns the first text, or goes round for ever. -/
lemma received_answered (h : pinged frames → (answers 0).isOk) {n : ℕ} (hn : frames.length < n) :
    received n frames answers = (firstText frames).elim (.error .pending) .ok := by
  obtain ⟨k,rfl⟩ : ∃ k, n = k+1 := ⟨n-1,by omega⟩
  obtain ⟨s',hnext,hr,hp,hd⟩ := recvNextPacket_ok (firstWait frames answers)
    (by rw [firstWait_recvPing, firstWait_answer]; exact h)
  have hround : (recvRound (k+1)).run (fromSocket (.ofFrames frames answers)) =
      (.ok (firstText frames),s') := by
    rw [recvRound_first frames answers hn, Prog.withContext, run_mapError, hnext,
      firstWait_recvPacket]
    rfl
  rw [received, recvRaw, loop, run_bind_ok hround]
  cases ht : firstText frames with
  | some text => rfl
  | none => exact recvRaw_spins (hd (firstWait_done frames answers ht)) hr hp (k+1) k

end Received

/-- `recv_raw` returns just where a text comes before the end and the pongs before it are written,
or where no text comes and a pong fails. -/
theorem returns_iff (frames : List WsMessage) (answers : ℕ → Except Error Unit) :
    Returns frames answers ↔
      ((firstText frames).isSome ∧ (pinged frames → (answers 0).isOk)) ∨
      (firstText frames = none ∧ pinged frames ∧ (answers 0).isOk = false) := by
  have hlarge (fuel : ℕ) : frames.length < fuel+(frames.length+1) := by omega
  by_cases h : pinged frames → (answers 0).isOk
  · cases ht : firstText frames with
    | some text =>
      refine ⟨fun _ => Or.inl ⟨rfl,h⟩,fun _ => ⟨fun text' htext => ?_,fun hnone => ?_⟩⟩
      · refine ⟨frames.length+1,?_⟩
        rw [received_answered frames answers h (by omega), htext]
        rfl
      · simp [ht] at hnone
    | none =>
      constructor
      · rintro ⟨-,herr⟩
        obtain ⟨fuel,e,he⟩ := herr ht
        have hmono := received_mono frames answers (n := fuel) (k := fuel+(frames.length+1))
          (by omega) (by simp [he])
        rw [received_answered frames answers h (hlarge fuel), ht, he] at hmono
        simp at hmono
      · rintro (⟨hsome,-⟩ | ⟨-,hping,hfail⟩)
        · simp at hsome
        · simp [h hping] at hfail
  · have hp : pinged frames := by
      by_contra hp
      exact h fun hp' => absurd hp' hp
    have ha : (answers 0).isOk = false := by
      by_contra ha
      exact h fun _ => by simpa using ha
    constructor
    · rintro ⟨htext,-⟩
      cases ht : firstText frames with
      | none => exact Or.inr ⟨rfl,hp,ha⟩
      | some text =>
        obtain ⟨fuel,hfuel⟩ := htext text ht
        obtain ⟨e,he⟩ := received_unanswered frames answers hp ha (hlarge fuel)
        have hmono := received_mono frames answers (n := fuel) (k := fuel+(frames.length+1))
          (by omega) (by simp [hfuel])
        rw [he, hfuel] at hmono
        simp at hmono
    · rintro (⟨-,hans⟩ | ⟨ht,-,-⟩)
      · exact absurd hans h
      · refine ⟨fun text htext => by simp [ht] at htext,fun _ => ?_⟩
        obtain ⟨e,he⟩ := received_unanswered frames answers hp ha (n := frames.length+1) (by omega)
        exact ⟨frames.length+1,e,he⟩

/-- A close frame alone keeps `recv_raw` in its loop. -/
theorem close_frame_not_reported : ¬ Returns [.close] fun _ => .ok () := by
  intro h
  obtain ⟨fuel,e,he⟩ := h.error rfl
  have hanswered := received_answered [.close] (fun _ => .ok ()) (by simp [Except.isOk, Except.toBool])
    (n := fuel+2) (by simp)
  have hmono := received_mono [.close] (fun _ => .ok ()) (n := fuel) (k := fuel+2) (by omega)
    (by simp [he])
  rw [hanswered, he] at hmono
  cases hmono

end VvClient
