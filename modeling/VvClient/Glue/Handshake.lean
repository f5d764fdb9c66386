import VvClient.Client.Handshake
import VvClient.Glue.Bodies

/-! How the server reads what a connection begins with, in every run of the worker with
`DelegateImpl`. -/
namespace VvClient

open Prog V1 Mediasoup

namespace DelegateImpl

lemma numbered_sendRequest (body : Except Error String) (resolver : Resolver) :
    Keeps (fun s => s.2.Numbered) (sendRequest body resolver) := by
  intro s h
  cases body with
  | ok text => exact Xfer.Numbered.addQos1Json h .request (.ok text) none
  | error e => exact Xfer.Numbered.addQos1Json h .request (.error e) none

lemma requests_numbered (sn : ℤ) (ack : Option ℤ) (bodies : List String) :
    ∀ e ∈ requests sn ack bodies, e.2.sn ≠ none := by
  induction bodies generalizing sn ack with
  | nil => exact fun e he => absurd he List.not_mem_nil
  | cons text bodies ih =>
    intro e he
    rcases List.mem_cons.mp he with rfl | he
    · exact Option.some_ne_none _
    · exact ih (sn+1) none e he

/-- Whatever the delegate queues has a number. -/
lemma delegate_numbers (texts : Texts) : (delegate texts).Numbers where
  opening := Keeps.bind (fun _ h => h) fun _ => Keeps.bind (numbered_sendRequest _ _) fun _ =>
    Keeps.bind (numbered_sendRequest _ _) fun _ => numbered_sendRequest _ _
  opened _ _ h := h
  process := by
    intro s h e he
    rw [delegate, (onProcess_que texts s).1] at he
    rcases List.mem_append.mp he with he | he
    · exact h e he
    · exact requests_numbered _ _ _ e he
  response _ _ _ h := h
  push _ _ h := h

end DelegateImpl

open DelegateImpl (delegate delegate_numbers)

/-- The server reads `p` of the text of a request of the worker, and `req` in it. -/
def ReadAs {Device : Type} (text : JsonText) (device : Device → Json)
    (typ : RequestTypeSer Device DtlsParameters RtpParameters.Read) (p : Packet)
    (req : MsgType DtlsParameters RtpParameters.Read) : Prop :=
  (PacketRef.fromJson text (handshakeText text device DtlsParameters.codec RtpParameters.codec typ)).map
      PacketRef.toPacket = some p ∧
    p.parseAsClientReq text DtlsParameters.codec RtpParameters.codec = .ok ⟨some req⟩

/-- What the server reads first on the connection of a session: the request that opens the session,
with what the client joins with, or the request that resumes it, with the number of the latest
attempt that was accepted. No other request on the connection is without a number. -/
structure Introduced {δ : Type} (text : JsonText) (a : JoinArgs) (s : Task δ × Session) (p : Packet)
    (rest : List Packet) : Prop where
  sent : s.2.conn.sent = p::rest
  unnumbered : p.sn = none
  only : ∀ q ∈ rest, q.typ? = some .request → q.sn ≠ none
  opens : s.1.reconnectLastSuccessSeq = 0 →
    ReadAs text deviceJson (.opens a.openRequest) p (.opens a.asked)
  resumes : s.1.reconnectLastSuccessSeq ≠ 0 → ∃ last, 0 ≤ last ∧ last < s.1.reconnectLastSuccessSeq ∧
    let req := ⟨s.2.sessionId,a.advance.token,.ofInt s.1.reconnectLastSuccessSeq,.ofInt last,
      .ofInt reconnectMagic⟩
    ReadAs text (fun _ : Unit => Json.null) (.reconn req) p (.reconn req.toOwned)

section Run
variable {text : JsonText} (htext : text.Lawful)

include htext in
lemma handshake_readAs {Device : Type} (device : Device → Json)
    (typ : RequestTypeSer Device DtlsParameters RtpParameters.Read) : ReadAs text device typ
      (.handshake (text.write (bodyJson device DtlsParameters.codec RtpParameters.codec ⟨typ⟩)))
      typ.toOwned :=
  ⟨handshakeText_packet device typ htext,
    parseAsClientReq_handshake device typ htext DtlsParameters.codec_lawful RtpParameters.codec_lawful⟩

include htext in
/-- In every run of the worker with `DelegateImpl`, on whichever connection its session works, the
server reads one request without a number, and it reads it first: the open request of the
configuration, or a request to resume this session. -/
theorem Task.connections_introduced (a : JoinArgs) (texts : Texts) (duration : ℕ → String) (fuel : ℕ)
    (listener : DelegateImpl) (now : ℕ) (waits : List (ℕ × Wait)) (modes : ℕ → ShutdownMode)
    (drops : ℕ → Bool) {session : Session} :
    let serde := V1.serde text DtlsParameters.codec RtpParameters.codec duration
    let opening := (Task.phaseOpen (delegate texts) serde fuel).run (Task.new
      (a.config text DtlsParameters.codec RtpParameters.codec) listener now waits modes drops)
    opening.1 = .ok session → ∃ p rest, Introduced text a
      ((Task.workLoop (delegate texts) serde fuel).run (opening.2,session)).2 p rest := by
  intro serde opening h
  obtain ⟨c,sessionId,p,hg,hu⟩ := Task.session_greeted (delegate_numbers texts) serde fuel h
  obtain ⟨rest,hsent,hrest⟩ := hu.begun.sent
  obtain ⟨-,hlast⟩ := Prod.mk.inj hu.seqs
  have honly : ∀ q ∈ rest, q.typ? = some .request → q.sn ≠ none := by
    intro q hq htyp
    refine (hrest q hq).resolve_left fun hnone => ?_
    simp [Packet.typ?, hnone] at htyp
  rcases hg.request with ⟨hzero,rfl⟩ | ⟨last,hpos,hlt,rfl⟩
  · refine ⟨_,rest,hsent,rfl,honly,fun _ => ?_,fun hne => absurd (hlast.trans hzero) hne⟩
    rw [← a.openRequest_toOwned]
    exact handshake_readAs htext deviceJson (.opens a.openRequest)
  · refine ⟨_,rest,hsent,rfl,honly,fun heq => ?_,fun _ => ⟨last,hpos,hlast.symm ▸ hlt,?_⟩⟩
    · have := hlast.symm.trans heq
      omega
    · rw [hu.sessionId, hlast]
      exact handshake_readAs htext (fun _ : Unit => Json.null) (.reconn ⟨sessionId,a.advance.token,
        .ofInt c.2,.ofInt last,.ofInt reconnectMagic⟩)

end Run

section Opened

/-- The packet with which a server opens a session. -/
def openReply : PacketSer (JsonDisplay (ResponseRef DtlsParameters RtpParameters.Read)) :=
  ⟨some (.ofInt PacketType.response.asNum),some 1,some ⟨⟨none,some (.opened ⟨"session","conn"⟩)⟩⟩,none⟩

def replyJson (v : ResponseRef DtlsParameters RtpParameters.Read) : Json :=
  v.serialize DtlsParameters.codec RtpParameters.codec

def replyText (text : JsonText) : String :=
  text.write (openReply.serialize (JsonDisplay.serialize text replyJson))

lemma openReply_parsed {text : JsonText} (htext : text.Lawful) (duration : ℕ → String) :
    let serde := V1.serde text DtlsParameters.codec RtpParameters.codec duration
    ∃ packet, serde.packet (replyText text) = some packet ∧
      parseOpenResponsePacket serde packet = .ok ("session","conn") := by
  refine ⟨_,serde_packet htext duration replyJson openReply,?_⟩
  have hbody := serde_serverRsp htext DtlsParameters.codec_lawful RtpParameters.codec_lawful duration
    ⟨none,some (.opened ⟨"session","conn"⟩)⟩
  have htyp : PacketType.fromNum (Int32.ofInt PacketType.response.asNum).toInt = some .response := by
    decide
  simp only [parseOpenResponsePacket, openReply, Packet.typ?, Option.map_some, Option.bind_some, htyp,
    JsonDisplay.fmt, replyJson, hbody, ne_eq, not_true_eq_false, if_false]
  rfl

def someJoin : JoinArgs :=
  SignalArgs.intoJoin ⟨⟨none,none,none⟩,"user","room",some "token",none⟩

/-- A connection is made, and the reply comes. -/
def someOpening (text : JsonText) (serde : Serde) : Except Stop Session × Task DelegateImpl :=
  (Task.phaseOpen (delegate Texts.blank) serde 2).run (Task.new
    (someJoin.config text DtlsParameters.codec RtpParameters.codec)
    (DelegateImpl.new (fun _ => .ok ()) (fun _ => .ok ()) (fun _ => []) fun _ => Room.mapOrder) 0
    [(0,.connected fun _ => .sent),(0,.text (replyText text))] (fun _ => .none) fun _ => false)

lemma someOpening_ok (text : JsonText) (serde : Serde) {packet : Packet} {ids : String × String}
    (hpacket : serde.packet (replyText text) = some packet)
    (hparse : parseOpenResponsePacket serde packet = .ok ids) :
    ∃ session, (someOpening text serde).1 = .ok session := by
  simp only [someOpening, Task.phaseOpen, run_get_bind]
  rw [run_bind_ok (a := (_,replyText text,_)) rfl]
  simp only [hpacket, hparse]
  exact ⟨_,rfl⟩

/-- A session that is opened and goes on. -/
theorem Task.connections_introduced_opened : ∃ session p rest,
    let serde := V1.serde JsonText.compact DtlsParameters.codec RtpParameters.codec fun _ => ""
    Introduced JsonText.compact someJoin ((Task.workLoop (delegate Texts.blank) serde 2).run
      ((someOpening JsonText.compact serde).2,session)).2 p rest := by
  obtain ⟨packet,hpacket,hparse⟩ := openReply_parsed JsonText.compact_lawful fun _ => ""
  obtain ⟨session,h⟩ := someOpening_ok JsonText.compact _ hpacket hparse
  unfold someOpening at h ⊢
  obtain ⟨p,rest,hp⟩ := Task.connections_introduced JsonText.compact_lawful someJoin Texts.blank
    (fun _ => "") 2 _ 0 _ _ _ h
  exact ⟨session,p,rest,hp⟩

end Opened

end VvClient
