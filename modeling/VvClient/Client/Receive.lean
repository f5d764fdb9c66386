import VvClient.Lib.Machine
import VvClient.Client.Stream

/-! Calls of `recv_raw` that may be dropped wherever they wait, while items arrive at the socket. -/
namespace VvClient

open Machine Prog TungStream

/-- Where the current call of `recv_raw` waits: for `socket.next()`, or for the write of a pong. -/
inductive RecvStage
  | idle
  | reading
  | ponging (data : List UInt8)
  deriving DecidableEq

structure Receiver where
  stream : TungStream
  stage : RecvStage
  /-- the texts that the calls have returned -/
  returned : List String
  /-- all that has arrived at the socket -/
  arrived : List (Except Error WsMessage)

inductive RecvMove
  | arrive (r : Except Error WsMessage)
  | endOfStream
  | call
  /-- the future of `socket.next()` is polled -/
  | next
  /-- the write of the pong ends -/
  | pongSent
  /-- the future of the call is dropped: something came over `rx`, or a heartbeat is due -/
  | drop

namespace Receiver

/-- A stream that was just opened; `answers` are what the writes of pongs will return. -/
def new (answers : ℕ → Except Error Unit) : Receiver :=
  ⟨fromSocket ⟨[],false,false,[],answers,[]⟩,.idle,[],[]⟩

/-- The texts that were read from the socket. -/
def readTexts (s : Receiver) : List String := s.stream.socket.got.filterMap WsMessage.itemText

/-- The end of `recv_next_packet`: a text is returned, without one the loop goes round and, as
`recv_packet` is empty, waits for the socket. -/
def finish (s : Receiver) : Receiver :=
  match takePacket.run s.stream with
  | (.ok (some raw),stream) =>
    { s with stream, stage := .idle, returned := s.returned ++ [raw] }
  | (_,stream) => { s with stream, stage := .reading }

/-- `recv_next_packet` begins. -/
def take (s : Receiver) : Receiver :=
  match takePing.run s.stream with
  | (.ok (some data),stream) => { s with stream, stage := .ponging data }
  | (_,stream) => finish { s with stream }

def call (s : Receiver) : Receiver :=
  if s.stream.recvPacket.isSome then s.take else { s with stage := .reading }

def poll (s : Receiver) : Receiver :=
  match waitRound.run s.stream with
  | (.ok (some ()),stream) => take { s with stream }
  | (.ok none,stream) => { s with stream }
  | (.error .pending,stream) => { s with stream }
  | (.error _,stream) => { s with stream, stage := .idle }

def pongSent (s : Receiver) (data : List UInt8) : Receiver :=
  match (sendPong data).run s.stream with
  | (.ok (),stream) => finish { s with stream }
  | (.error _,stream) => { s with stream, stage := .idle }

def arrive (s : Receiver) (r : Except Error WsMessage) : Receiver :=
  if s.stream.socket.ended then s
  else { s with
    arrived := s.arrived ++ [r]
    stream := { s.stream with
      socket := { s.stream.socket with incoming := s.stream.socket.incoming ++ [r] } } }

def step (s : Receiver) : RecvMove → Receiver
  | .arrive r => s.arrive r
  | .endOfStream =>
    { s with stream := { s.stream with socket := { s.stream.socket with ended := true } } }
  | .call => if s.stage = .idle then s.call else s
  | .next => if s.stage = .reading then s.poll else s
  | .pongSent => match s.stage with
    | .ponging data => s.pongSent data
    | _ => s
  | .drop => { s with stage := .idle }

/-- What was read and not returned is held by the stream, and while a call waits for the socket the
stream holds nothing. -/
structure Kept (s : Receiver) : Prop where
  texts : s.returned ++ s.stream.recvPacket.toList = s.readTexts
  items : s.stream.socket.got ++ s.stream.socket.incoming = s.arrived
  free : s.stage = .reading → s.stream.recvPacket = none

/-- A step returns at most one text, and then all that were read are returned. -/
def Prompt (s t : Receiver) : Prop :=
  t.returned = s.returned ∨ (∃ raw, t.returned = s.returned ++ [raw]) ∧ t.returned = t.readTexts

lemma kept_new (answers : ℕ → Except Error Unit) : Kept (new answers) :=
  ⟨rfl,rfl,fun h => by simp [new] at h⟩

/-- What a round of `wait_next_recv` reads is in `recv_packet` where it is a text. -/
lemma waitRound_reads (st : TungStream) (hp : st.recvPacket = none) :
    (waitRound.run st).2.socket.got.filterMap WsMessage.itemText =
      st.socket.got.filterMap WsMessage.itemText ++ (waitRound.run st).2.recvPacket.toList ∧
    (waitRound.run st).2.socket.got ++ (waitRound.run st).2.socket.incoming =
      st.socket.got ++ st.socket.incoming ∧
    ((waitRound.run st).1 ≠ .ok (some ()) → (waitRound.run st).2.recvPacket = none) := by
  by_cases hc : st.socket.closed = true
  · rw [waitRound_done (Or.inl hc)]
    simp [hp]
  have hopen : st.socket.closed = false := by simpa using hc
  cases hi : st.socket.incoming with
  | nil =>
    cases he : st.socket.ended with
    | true =>
      rw [waitRound_done (Or.inr ⟨hi,he⟩)]
      simp [hp, hi]
    | false =>
      have hnext : next.run st = (.error .pending,st) := by simp [next, hopen, hi, he]
      rw [waitRound, run_bind_error hnext]
      simp [hp, hi]
  | cons r rest =>
    cases r with
    | ok m =>
      rw [waitRound_message hopen hi]
      cases m <;> simp [onMessage, afterRead, WsMessage.itemText, WsMessage.text?, Except.toOption, hp]
    | error e =>
      have hnext : next.run st = (.ok (some (.error e)),{ st with
          socket := { st.socket with incoming := rest, got := st.socket.got ++ [.error e] } }) := by
        simp [next, hopen, hi, Except.toOption]
      rw [waitRound, run_bind_ok hnext]
      simp [hp, WsMessage.itemText, Except.toOption]

lemma finish_eq (s : Receiver) : s.finish = { s with
    stream := { s.stream with recvPacket := none }
    stage := if s.stream.recvPacket.isSome then .idle else .reading
    returned := s.returned ++ s.stream.recvPacket.toList } := by
  cases hp : s.stream.recvPacket <;> simp [finish, takePacket, hp]

lemma finish_keeps {s : Receiver} (ht : s.returned ++ s.stream.recvPacket.toList = s.readTexts)
    (hi : s.stream.socket.got ++ s.stream.socket.incoming = s.arrived) :
    Kept s.finish ∧ Prompt s s.finish := by
  rw [finish_eq]
  refine ⟨⟨(List.append_nil _).trans ht,hi,fun _ => rfl⟩,?_⟩
  cases hp : s.stream.recvPacket with
  | none => exact Or.inl (List.append_nil _)
  | some raw => exact Or.inr ⟨⟨raw,rfl⟩,by rw [← hp]; exact ht⟩

/-- A call that goes on does not look at where it waited before. -/
lemma take_stage (s : Receiver) (stage : RecvStage) : take { s with stage } = take s := by
  cases hp : s.stream.recvPing with
  | none => simp [take, takePing, hp, finish_eq]
  | some data => simp [take, takePing, hp]

lemma take_keeps {s : Receiver} (ht : s.returned ++ s.stream.recvPacket.toList = s.readTexts)
    (hi : s.stream.socket.got ++ s.stream.socket.incoming = s.arrived) :
    Kept s.take ∧ Prompt s s.take := by
  cases hp : s.stream.recvPing with
  | none =>
    have htake : s.take = finish { s with stream := { s.stream with recvPing := none } } := by
      simp [take, takePing, hp]
    rw [htake]
    exact finish_keeps ht hi
  | some data =>
    have htake : s.take = { s with
        stage := .ponging data, stream := { s.stream with recvPing := none } } := by
      simp [take, takePing, hp]
    rw [htake]
    exact ⟨⟨ht,hi,fun h => by simp at h⟩,Or.inl rfl⟩

lemma call_keeps {s : Receiver} (h : Kept s) : Kept s.call ∧ Prompt s s.call := by
  rw [call]
  split
  · exact take_keeps h.texts h.items
  · rename_i hp
    exact ⟨⟨h.texts,h.items,fun _ => by simpa using hp⟩,Or.inl rfl⟩

lemma poll_keeps {s : Receiver} (h : Kept s) (hr : s.stage = .reading) :
    Kept s.poll ∧ Prompt s s.poll := by
  obtain ⟨hgot,hitems,hnone⟩ := waitRound_reads s.stream (h.free hr)
  have hreturned : s.returned = s.stream.socket.got.filterMap WsMessage.itemText := by
    simpa [h.free hr, readTexts] using h.texts
  rw [poll]
  rcases hw : waitRound.run s.stream with ⟨r,st⟩
  rw [hw] at hgot hitems hnone
  have ht : s.returned ++ st.recvPacket.toList = st.socket.got.filterMap WsMessage.itemText := by
    rw [hgot, hreturned]
  have hi : st.socket.got ++ st.socket.incoming = s.arrived := hitems.trans h.items
  cases r with
  | ok v =>
    cases v with
    | some u => exact take_keeps (s := { s with stream := st }) ht hi
    | none => exact ⟨⟨ht,hi,fun _ => hnone (by simp)⟩,Or.inl rfl⟩
  | error e =>
    cases e with
    | pending => exact ⟨⟨ht,hi,fun _ => hnone (by simp)⟩,Or.inl rfl⟩
    | _ => exact ⟨⟨ht,hi,fun hs => by simp at hs⟩,Or.inl rfl⟩

lemma pongSent_keeps {s : Receiver} (h : Kept s) (data : List UInt8) :
    Kept (s.pongSent data) ∧ Prompt s (s.pongSent data) := by
  rw [pongSent]
  rcases hr : (sendPong data).run s.stream with ⟨r,st⟩
  have hst : st = { s.stream with
      socket := { s.stream.socket with pongs := s.stream.socket.pongs ++ [data] } } :=
    (congrArg Prod.snd hr).symm
  subst hst
  cases r with
  | ok u => exact finish_keeps h.texts h.items
  | error e => exact ⟨⟨h.texts,h.items,fun hs => by simp at hs⟩,Or.inl rfl⟩

lemma arrive_keeps {s : Receiver} (h : Kept s) (r : Except Error WsMessage) :
    Kept (s.arrive r) ∧ Prompt s (s.arrive r) := by
  rw [arrive]
  split
  · exact ⟨h,Or.inl rfl⟩
  · refine ⟨⟨h.texts,?_,h.free⟩,Or.inl rfl⟩
    simp only [← List.append_assoc, h.items]

/-- No step loses a text or returns one again. -/
theorem step_keeps {s : Receiver} (h : Kept s) (l : RecvMove) :
    Kept (s.step l) ∧ Prompt s (s.step l) := by
  cases l with
  | arrive r => exact arrive_keeps h r
  | endOfStream => exact ⟨⟨h.texts,h.items,h.free⟩,Or.inl rfl⟩
  | call =>
    rw [step]
    split
    · exact call_keeps h
    · exact ⟨h,Or.inl rfl⟩
  | next =>
    rw [step]
    split
    · rename_i hr
      exact poll_keeps h hr
    · exact ⟨h,Or.inl rfl⟩
  | pongSent =>
    rw [step]
    split
    · exact pongSent_keeps h _
    · exact ⟨h,Or.inl rfl⟩
  | drop => exact ⟨⟨h.texts,h.items,fun hs => RecvStage.noConfusion hs⟩,Or.inl rfl⟩

/-- The loop of `wait_next_recv` as moves. -/
lemma waitLoop_moves (n : ℕ) {s : Receiver} (hs : s.stage = .reading) {st : TungStream}
    (h : (loop .pending waitRound n).run s.stream = (.ok (),st)) :
    ∃ ls, run step s ls = take { s with stream := st } := by
  induction n generalizing s with
  | zero => cases h
  | succ n ih =>
    have hnext : s.step .next = s.poll := by rw [step, if_pos hs]
    rw [loop, run_bind] at h
    rcases hw : waitRound.run s.stream with ⟨r,st'⟩
    rw [hw] at h
    cases r with
    | error e => cases h
    | ok v =>
      cases v with
      | some u =>
        cases h
        refine ⟨[.next],?_⟩
        rw [run_cons, run_nil, hnext, poll, hw]
      | none =>
        obtain ⟨ls,hls⟩ := ih (s := { s with stream := st' }) hs h
        refine ⟨.next::ls,?_⟩
        rw [run_cons, hnext, poll, hw]
        exact hls

/-- `recv_next_packet` as moves. -/
lemma recvNextPacket_moves {s : Receiver} {r : Option String} {st : TungStream}
    (h : recvNextPacket.run s.stream = (.ok r,st)) :
    st.recvPacket = none ∧ ∃ ls, run step s.take ls = { s with
      stream := st, stage := if r.isSome then .idle else .reading
      returned := s.returned ++ r.toList } := by
  have htake : takePing.run s.stream = (.ok s.stream.recvPing,{ s.stream with recvPing := none }) := rfl
  rw [recvNextPacket, run_bind_ok htake] at h
  cases hp : s.stream.recvPing with
  | none =>
    rw [hp] at h
    cases h
    refine ⟨rfl,[],?_⟩
    rw [run_nil, take, htake, hp]
    exact finish_eq _
  | some data =>
    rw [hp] at h
    have hstage : s.take = { s with stage := .ponging data, stream := { s.stream with recvPing := none } } := by
      rw [take, htake, hp]
    rcases hw : (sendPong data).run { s.stream with recvPing := none } with ⟨a,st'⟩
    simp only [Prog.withContext, run_bind, run_mapError, hw] at h
    cases a with
    | error e => cases h
    | ok u =>
      cases h
      refine ⟨rfl,[.pongSent],?_⟩
      rw [run_cons, run_nil, hstage]
      change Receiver.pongSent _ data = _
      rw [Receiver.pongSent, hw]
      exact finish_eq _

lemma waitNextRecv_moves (n : ℕ) {s : Receiver} {st : TungStream}
    (h : (waitNextRecv n).run s.stream = (.ok (),st)) :
    ∃ ls, run step s.call ls = take { s with stream := st } := by
  rw [waitNextRecv, run_get_bind] at h
  by_cases hp : s.stream.recvPacket.isSome = true
  · rw [if_pos hp] at h
    cases h
    exact ⟨[],by rw [run_nil, call, if_pos hp]⟩
  · rw [if_neg hp] at h
    obtain ⟨ls,hls⟩ := waitLoop_moves n (s := { s with stage := .reading }) rfl h
    refine ⟨ls,?_⟩
    rw [call, if_neg hp, hls]
    exact take_stage { s with stream := st } .reading

/-- One round of the loop of `recv_raw` as moves. -/
lemma recvRound_moves (n : ℕ) {s : Receiver} {r : Option String} {st : TungStream}
    (h : (recvRound n).run s.stream = (.ok r,st)) :
    st.recvPacket = none ∧ ∃ ls, run step s.call ls = { s with
      stream := st, stage := if r.isSome then .idle else .reading
      returned := s.returned ++ r.toList } := by
  rcases hwait : (waitNextRecv n).run s.stream with ⟨a,st'⟩
  cases a with
  | error e =>
    have herror : (recvRound n).run s.stream = (.error (e.context "wait_next_recv failed"),st') := by
      rw [recvRound]
      apply run_bind_error
      rw [Prog.withContext, run_mapError, hwait]
      rfl
    rw [herror] at h
    cases h
  | ok u =>
    rw [recvRound_waited hwait, Prog.withContext, run_mapError] at h
    rcases hnext : recvNextPacket.run st' with ⟨b,st''⟩
    rw [hnext] at h
    cases b with
    | error e => cases h
    | ok v =>
      cases h
      obtain ⟨hnone,ls,hls⟩ := recvNextPacket_moves (s := { s with stream := st' }) hnext
      obtain ⟨ms,hms⟩ := waitNextRecv_moves n hwait
      exact ⟨hnone,ms ++ ls,by rw [run_append, hms, hls]⟩

/-- The loop of `recv_raw` as moves. -/
lemma recvLoop_moves (n k : ℕ) {s : Receiver} {raw : String} {st : TungStream}
    (h : (loop .pending (recvRound n) k).run s.stream = (.ok raw,st)) :
    st.recvPacket = none ∧ ∃ ls, run step s.call ls =
      { s with stream := st, stage := .idle, returned := s.returned ++ [raw] } := by
  induction k generalizing s with
  | zero => cases h
  | succ k ih =>
    rw [loop, run_bind] at h
    rcases hround : (recvRound n).run s.stream with ⟨r,st'⟩
    rw [hround] at h
    cases r with
    | error e => cases h
    | ok v =>
      obtain ⟨hnone,ls,hls⟩ := recvRound_moves n hround
      cases v with
      | some text =>
        cases h
        exact ⟨hnone,ls,hls⟩
      | none =>
        obtain ⟨hlast,ms,hms⟩ := ih (s := run step s.call ls) (by rw [hls]; exact h)
        have hcall : (run step s.call ls).call = run step s.call ls := by
          rw [hls, call, if_neg (by simp [hnone])]
          rfl
        rw [hcall, hls] at hms
        refine ⟨hlast,ls ++ ms,?_⟩
        rw [run_append, hls, hms]
        simp

/-- A call that is not dropped is a run. -/
theorem recvRaw_moves (n : ℕ) {s : Receiver} (hs : s.stage = .idle) {raw : String} {st : TungStream}
    (h : (recvRaw n).run s.stream = (.ok raw,st)) :
    st.recvPacket = none ∧
      ∃ ls, run step s ls = { s with stream := st, returned := s.returned ++ [raw] } := by
  obtain ⟨hnone,ls,hls⟩ := recvLoop_moves n n h
  refine ⟨hnone,.call::ls,?_⟩
  rw [run_cons, step, if_pos hs, hls, hs]

/-- A call that is polled `n` times while it waits for the socket, and until its pong is written. -/
def polls (n : ℕ) : List RecvMove := .call::(List.replicate n .next ++ [.pongSent])

/-- The text is the next to come, behind `n` reads: the stream holds it, or it has arrived, and what
is before it at the socket neither is a text nor ends the call. -/
def Comes (s : Receiver) (n : ℕ) (raw : String) : Prop :=
  s.stream.recvPacket = some raw ∧ n = 0 ∨
    s.stream.recvPacket = none ∧ s.stream.socket.closed = false ∧
      ∃ (skip : List WsMessage) (rest : List (Except Error WsMessage)), n = skip.length + 1 ∧
        s.stream.socket.incoming = skip.map .ok ++ .ok (.text raw)::rest ∧
        ∀ m ∈ skip, m.text? = none ∧ m ≠ .close

lemma take_returns {s : Receiver} {raw : String} (hp : s.stream.recvPacket = some raw)
    (ha : ∀ k, s.stream.socket.answers k = .ok ()) :
    (s.take.step .pongSent).returned = s.returned ++ [raw] := by
  cases hping : s.stream.recvPing with
  | none => simp [take, takePing, hping, finish_eq, hp, step]
  | some data =>
    simp [take, takePing, hping, step, pongSent, sendPong, ha, Except.mapError, finish_eq, hp]

/-- The call reads on over what is no text and does not end it. -/
lemma poll_skips {s : Receiver} {m : WsMessage} {rest : List (Except Error WsMessage)}
    (hc : s.stream.socket.closed = false) (hi : s.stream.socket.incoming = .ok m::rest)
    (hm : m.text? = none ∧ m ≠ .close) : ∃ ping, s.poll = { s with
      stream := { afterRead m rest s.stream with recvPing := ping } } := by
  cases m with
  | text t => exact absurd hm.1 (by simp [WsMessage.text?])
  | close => exact absurd rfl hm.2
  | ping data => exact ⟨some data,by rw [poll, waitRound_message hc hi]; rfl⟩
  | _ => exact ⟨s.stream.recvPing,by rw [poll, waitRound_message hc hi]; rfl⟩

/-- A call that waits for the socket reads up to the next text. -/
lemma reading_returns {s : Receiver} {raw : String} {rest : List (Except Error WsMessage)}
    (skip : List WsMessage) (hs : s.stage = .reading) (hc : s.stream.socket.closed = false)
    (hi : s.stream.socket.incoming = skip.map .ok ++ .ok (.text raw)::rest)
    (hskip : ∀ m ∈ skip, m.text? = none ∧ m ≠ .close)
    (ha : ∀ k, s.stream.socket.answers k = .ok ()) :
    (run step s (List.replicate (skip.length+1) .next ++ [.pongSent])).returned =
      s.returned ++ [raw] := by
  have hnext : s.step .next = s.poll := by rw [step, if_pos hs]
  rw [List.replicate_succ, List.cons_append, run_cons, hnext]
  induction skip generalizing s with
  | nil =>
    have hpoll : s.poll = take { s with
        stream := { afterRead (.text raw) rest s.stream with recvPacket := some raw } } := by
      rw [poll, waitRound_message hc hi]
      rfl
    rw [hpoll, List.length_nil, List.replicate_zero, List.nil_append, run_cons, run_nil]
    exact take_returns rfl ha
  | cons m skip ih =>
    rw [List.forall_mem_cons] at hskip
    obtain ⟨ping,hpoll⟩ := poll_skips hc hi hskip.1
    rw [hpoll, List.length_cons, List.replicate_succ, List.cons_append, run_cons]
    have hreading : ({ s with stream := { afterRead m (skip.map .ok ++ .ok (.text raw)::rest) s.stream with
        recvPing := ping } } : Receiver).stage = .reading := hs
    rw [step, if_pos hreading]
    exact ih hs (by simpa [afterRead] using hskip.1.2) rfl hskip.2 ha (by rw [step, if_pos hreading])

/-- A call that is polled returns the next text to come. -/
lemma polls_returns {s : Receiver} (hs : s.stage = .idle)
    (ha : ∀ k, s.stream.socket.answers k = .ok ()) {n : ℕ} {raw : String} (h : s.Comes n raw) :
    (run step s (polls n)).returned = s.returned ++ [raw] := by
  rw [polls, run_cons, step, if_pos hs]
  rcases h with ⟨hp,rfl⟩ | ⟨hp,hc,skip,rest,rfl,hi,hskip⟩
  · rw [call, if_pos (by simp [hp]), List.replicate_zero, List.nil_append, run_cons, run_nil]
    exact take_returns hp ha
  · rw [call, if_neg (by simp [hp])]
    exact reading_returns (s := { s with stage := .reading }) skip rfl hc hi hskip ha

/-- What the calls return is what was read: nothing is missing but a text that the stream holds for
the next call, and nothing is returned twice. A call that is polled returns the next text to come. -/
structure Delivers (s : Receiver) : Prop where
  texts : s.returned ++ s.stream.recvPacket.toList = s.readTexts
  items : s.stream.socket.got ++ s.stream.socket.incoming = s.arrived
  prompt : ∀ l, Prompt s (s.step l)
  next : s.stage = .idle → ∀ fuel raw stream, (recvRaw fuel).run s.stream = (.ok raw,stream) →
    s.returned ++ [raw] = stream.socket.got.filterMap WsMessage.itemText
  progress : s.stage = .idle → (∀ k, s.stream.socket.answers k = .ok ()) → ∀ n raw, s.Comes n raw →
    (run step s (polls n)).returned = s.returned ++ [raw]

lemma Kept.delivers {s : Receiver} (h : Kept s) : Delivers s := by
  refine ⟨h.texts,h.items,fun l => (step_keeps h l).2,?_,fun hs ha n raw => polls_returns hs ha⟩
  intro hs fuel raw stream hraw
  obtain ⟨hnone,ls,hls⟩ := recvRaw_moves fuel hs hraw
  have hkept : Always step Kept s ls :=
    always_of_step (I := Kept) (fun _ l hk => (step_keeps hk l).1) (fun _ hk => hk) h ls
  have htexts := hkept.last.texts
  rw [hls] at htexts
  simpa [hnone, readTexts] using htexts

/-- In every order of arrivals, calls and drops, the texts that were returned are those received, and
the next call returns the text that comes next. -/
theorem texts_every_run (answers : ℕ → Except Error Unit) (ls : List RecvMove) :
    Always step Delivers (new answers) ls :=
  always_of_step (I := Kept) (fun _ l hk => (step_keeps hk l).1) (fun _ hk => hk.delivers)
    (kept_new answers) ls

end Receiver
end VvClient
