import VvClient.Glue.Answers
import VvClient.Glue.Bodies

/-! The dialogue with a server that answers every request it reads by a response of the same kind: what
is asked, and what the application is handed. -/
namespace VvClient

open Machine Prog Mediasoup

/-- A request as the server reads it. -/
abbrev ServerRequest := V1.MsgType DtlsParameters RtpParameters.Read

/-- The responses to a request of this kind. -/
def Answers : ServerRequest → ResponseType → Prop
  | .close _,.close => True
  | .createX _,.createX _ _ _ _ => True
  | .connX _,.connX => True
  | .pub _,.pub _ => True
  | .uPub _,.uPub => True
  | .sub _,.sub _ _ => True
  | .uSub _,.uSub => True
  | .mute _,.mute => True
  | .bEnd _,.bEnd => True
  | _,_ => False

namespace Resolver

/-- The requests that a resolver is registered with. -/
def Fits : Resolver → ServerRequest → Prop
  | createX dir,.createX v => v = ⟨"",.ofInt dir,0,none⟩
  | batchEnd,.bEnd _ => True
  | leave,.close _ => True
  | connX _,.connX _ => True
  | pub _,.pub _ => True
  | uPub _,.uPub _ => True
  | mute _,.mute _ => True
  | sub _ xId producerId streamId,.sub v => v = ⟨"",streamId,producerId,xId,none⟩
  | uSub _,.uSub _ => True
  | _,_ => False

/-- What the application is handed of a response. -/
def handed : Resolver → ResponseType → Option Callback
  | createX dir,.createX xid iceParam iceCandidates dtls =>
    some (.onCreatedX dir ⟨xid,iceParam,iceCandidates,dtls⟩)
  | connX cb,.connX => some (.resolveConnX cb)
  | pub cb,.pub producerId => some (.resolvePub cb producerId)
  | uPub cb,.uPub => some (.resolveUPub cb)
  | mute cb,.mute => some (.resolveMute cb)
  | sub cb xId producerId streamId,.sub consumerId rtp =>
    some (.resolveSub cb ⟨xId,consumerId,producerId,streamId,rtp⟩)
  | uSub cb,.uSub => some (.resolveUSub cb)
  | _,_ => none

end Resolver

section Handed

open V1

/-- The application reads, in what it is handed, what the server answered. -/
def ReadsAs (text : JsonText) : V1.ResponseType DtlsParameters RtpParameters.Read → Callback → Prop
  | .createX v,.onCreatedX _ r => r.xid = v.xid ∧
      readOption text IceParameters.deserialize r.iceParam = some v.iceParam ∧
      fromStr text (Json.toList IceCandidate.deserialize) r.iceCandidates = some v.iceCandidates ∧
      readOption text DtlsParameters.codec.deserialize r.dtls = some v.dtls
  | .connX _,.resolveConnX _ => True
  | .pub v,.resolvePub _ producerId => producerId = v.producerId
  | .uPub _,.resolveUPub _ => True
  | .mute _,.resolveMute _ => True
  | .sub v,.resolveSub _ r => r.consumerId = v.consumerId ∧
      readOption text RtpParameters.codec.deserialize r.rtp = some v.rtp
  | .uSub _,.resolveUSub _ => True
  | _,_ => False

variable {text : JsonText} (htext : text.Lawful)

include htext in
lemma readOption_write {α : Type} {deserialize : Json → Option α} {serialize : α → Json}
    (h : Json.Reads deserialize serialize id) (v : Option α) :
    readOption text deserialize (v.map fun a => text.write (serialize a)) = some v := by
  cases v with
  | none => rfl
  | some a => simp [readOption, fromStr_write htext, h.read]

include htext in
/-- The candidates are handed on with their address as `ip`, and read again. -/
lemma candidates_read (candidates : List IceCandidate) :
    fromStr text (Json.toList IceCandidate.deserialize) (text.write (IterSer.serialize
      IceCandidateSer.serialize ⟨candidates.map IceCandidateSer.ofOwned⟩)) = some candidates := by
  rw [fromStr_write htext]
  have hreads : Json.Reads IceCandidate.deserialize
      (IceCandidateSer.serialize ∘ IceCandidateSer.ofOwned) id :=
    ⟨IceCandidateSer.read_ofOwned,fun _ => Json.noConfusion⟩
  simpa [IterSer.serialize, Json.ofList] using hreads.ofList.read candidates

include htext in
/-- A response of the server is handed to the application as texts that are read as what the server
answered. -/
theorem handed_reads (duration : ℕ → String) {v : ResponseRef DtlsParameters RtpParameters.Read}
    {rsp : ServerResponse} {typ : ResponseType} {resolver : Resolver} {c : Callback}
    (hrsp : (V1.serde text DtlsParameters.codec RtpParameters.codec duration).serverRsp
      (text.write (v.serialize DtlsParameters.codec RtpParameters.codec)) = some rsp)
    (htyp : rsp.typ = some typ) (hhanded : resolver.handed typ = some c) :
    ∃ w, v.typ = some w ∧ ReadsAs text w c := by
  rw [serde_serverRsp htext DtlsParameters.codec_lawful RtpParameters.codec_lawful,
    Option.some.injEq] at hrsp
  subst hrsp
  obtain ⟨w,hw,rfl⟩ := Option.map_eq_some_iff.mp htyp
  refine ⟨w,hw,?_⟩
  cases w with
  | createX w =>
    cases resolver with
    | createX dir =>
      obtain rfl := Option.some.inj hhanded
      exact ⟨rfl,readOption_write htext IceParameters.reads _,candidates_read htext _,
        readOption_write htext DtlsParameters.codec_lawful _⟩
    | _ => cases hhanded
  | sub w =>
    cases resolver with
    | sub cb xId producerId streamId =>
      obtain rfl := Option.some.inj hhanded
      exact ⟨rfl,readOption_write htext RtpParameters.codec_lawful _⟩
    | _ => cases hhanded
  | _ w =>
    cases resolver <;> cases hhanded <;> trivial

/-- Parameters of a consumer without codecs. -/
def emptyRtp : RtpParameters.Read := ⟨⟨none,[],[],[],⟨none,true⟩⟩,fun _ h => absurd h List.not_mem_nil⟩

theorem handed_reads_sub : ∃ w : V1.ResponseType DtlsParameters RtpParameters.Read,
    some (.sub ⟨"c",some emptyRtp⟩) = some w ∧
    ReadsAs JsonText.compact w (.resolveSub 0 ⟨"x","c","p","s",
      some (JsonText.compact.write (RtpParameters.codec.serialize emptyRtp))⟩) := by
  have hrsp := serde_serverRsp JsonText.compact_lawful DtlsParameters.codec_lawful
    RtpParameters.codec_lawful (fun _ => "") ⟨none,some (.sub ⟨"c",some emptyRtp⟩)⟩
  exact handed_reads JsonText.compact_lawful (fun _ => "") hrsp rfl
    (show Resolver.handed (.sub 0 "x" "p" "s") (.sub "c" (some _)) = some _ from rfl)

end Handed

namespace DelegateImpl

/-- The request that was registered is read by the server as one that its resolver is for. -/
def Asks (text : JsonText) (reg : Registration) : Prop :=
  ∃ body req, reg.body = .ok body ∧ serverReads text body = some ⟨some req⟩ ∧ reg.resolver.Fits req

/-- The operation was committed by a call of the application. -/
def Committed (text : JsonText) (unreadable : Error) (op : Op) : Prop :=
  ∃ call : SignalCall, call.op text unreadable = op

/-- What holds of the delegate at every moment. -/
structure Asked (text : JsonText) (unreadable : Error) (d : DelegateImpl) : Prop where
  registered : ∀ reg ∈ d.answered.registered, Asks text reg
  inbox : ∀ op ∈ d.inbox, Committed text unreadable op
  arrivals : ∀ n, ∀ op ∈ d.arrivals n, Committed text unreadable op

section Ask
variable {text : JsonText} (htext : text.Lawful) {unreadable : Error}
  (response : ResponseType → String) (subCall : SubCall → String)

include htext in
lemma asked_sendRequest (req : ClientRequest) {resolver : Resolver} (h : resolver.Fits req.toOwned) :
    Keeps (fun s => Asked text unreadable s.1) (sendRequest (.ok (bodyText text req)) resolver) := by
  rintro s ⟨hreg,hinbox,harrivals⟩
  rw [sendRequest_ok]
  refine ⟨fun reg hr => ?_,hinbox,harrivals⟩
  rcases List.mem_append.mp hr with hr | hr
  · exact hreg reg hr
  · rw [List.mem_singleton.mp hr]
    exact ⟨_,_,rfl,serverReads_bodyText htext req,h⟩

include htext in
lemma asked_simpleRequest {req : Option ClientRequest} {resolver : Resolver}
    (h : ∀ r, req = some r → resolver.Fits r.toOwned) :
    Keeps (fun s => Asked text unreadable s.1)
      (simpleRequest (toBody text unreadable req) resolver) := by
  cases req with
  | none => exact fun s hs => hs
  | some req => exact asked_sendRequest htext req (h req rfl)

include htext in
/-- An operation of the application asks for what its resolver is for. -/
lemma asked_processOp {op : Op} (h : Committed text unreadable op) :
    Keeps (fun s => Asked text unreadable s.1)
      (processOp (Texts.ofJson text response subCall) op) := by
  obtain ⟨call,rfl⟩ := h
  cases call with
  | leaveRoom atEnd => exact asked_sendRequest htext (.close ⟨"",atEnd⟩) trivial
  | connX req cb =>
    refine asked_simpleRequest htext fun r hr => ?_
    obtain ⟨dtls,-,hr⟩ := Option.bind_eq_some_iff.mp hr
    obtain rfl := Option.some.inj hr
    trivial
  | pubStream req cb =>
    refine asked_simpleRequest htext fun r hr => ?_
    obtain ⟨rtp,-,hr⟩ := Option.bind_eq_some_iff.mp hr
    obtain rfl := Option.some.inj hr
    trivial
  | upubStream req cb =>
    refine asked_simpleRequest htext fun r hr => ?_
    obtain rfl := Option.some.inj hr
    trivial
  | muteStream req cb =>
    refine asked_simpleRequest htext fun r hr => ?_
    obtain rfl := Option.some.inj hr
    trivial
  | subStream req cb =>
    refine Keeps.get_bind fun s => Keeps.bind (Keeps.ofExcept _) fun user =>
      Keeps.get_bind fun s => Keeps.bind (Keeps.ofExcept _) fun xId =>
        Keeps.bind (Keeps.ofExcept _) fun stream => ?_
    exact asked_sendRequest htext (.sub ⟨"",stream.1,stream.2.producerId,xId,none⟩) rfl
  | unsubStream consumerId cb =>
    exact asked_sendRequest htext (.uSub ⟨"",consumerId⟩) trivial

include htext in
lemma asked_drain {ops : List Op} (h : ∀ op ∈ ops, Committed text unreadable op) :
    Keeps (fun s => Asked text unreadable s.1) (drain (Texts.ofJson text response subCall) ops) := by
  induction ops with
  | nil => exact Keeps.pure ()
  | cons op ops ih =>
    rw [List.forall_mem_cons] at h
    refine Keeps.bind ?_ fun _ => Keeps.bind (asked_processOp htext response subCall h.1) fun _ => ih h.2
    exact fun s hs => ⟨hs.registered,h.2,hs.arrivals⟩

include htext in
lemma asked_onProcess : Keeps (fun s => Asked text unreadable s.1)
    (onProcess (Texts.ofJson text response subCall)) := by
  rintro s ⟨hreg,hinbox,harrivals⟩
  have hpending : ∀ op ∈ pending s.1, Committed text unreadable op := fun op hop =>
    (List.mem_append.mp hop).elim (hinbox op) (harrivals 0 op)
  rw [onProcess_run]
  exact asked_drain htext response subCall hpending (arrived s)
    ⟨hreg,hpending,fun n => harrivals (n+1)⟩

include htext in
lemma asked_onOpening : Keeps (fun s => Asked text unreadable s.1)
    (onOpening (Texts.ofJson text response subCall)) := by
  refine Keeps.bind ?_ fun _ => Keeps.bind ?_ fun _ => Keeps.bind ?_ fun _ => ?_
  · exact fun s hs => ⟨fun reg hr => absurd hr List.not_mem_nil,hs.inbox,hs.arrivals⟩
  · exact asked_sendRequest htext (.createX ⟨"",.ofInt directionInbound,0,none⟩) rfl
  · exact asked_sendRequest htext (.createX ⟨"",.ofInt directionOutbound,0,none⟩) rfl
  · exact asked_sendRequest htext (.bEnd ⟨⟩) trivial

end Ask

section Idle
variable (texts : Texts)

/-- Registrations and operations are those of `d`. -/
def Idle (d d' : DelegateImpl) : Prop :=
  d'.answered.registered = d.answered.registered ∧ d'.inbox = d.inbox ∧ d'.arrivals = d.arrivals

lemma Idle.asked {text : JsonText} {unreadable : Error} {d d' : DelegateImpl} (h : Idle d d')
    (hd : Asked text unreadable d) : Asked text unreadable d' :=
  ⟨h.1 ▸ hd.registered,h.2.1 ▸ hd.inbox,h.2.2 ▸ hd.arrivals⟩

variable {d : DelegateImpl}

lemma idle_onCallbacks {α : Type} (m : Prog Callbacks Error α) : Keeps (Idle d) (onCallbacks m) :=
  fun _ h => h

lemma idle_resolve (response : ResponseType) (resolver : Resolver) :
    Keeps (Idle d) (resolve texts response resolver) := by
  cases resolver with
  | createX dir =>
    refine Keeps.bind (Keeps.ofExcept _) fun rsp => ?_
    by_cases hd : dir = directionOutbound
    · simp only [if_pos hd]
      exact Keeps.bind (Keeps.modify fun _ h => h) fun _ => idle_onCallbacks _
    · simp only [if_neg hd]
      exact idle_onCallbacks _
  | batchEnd => exact Keeps.pure ()
  | leave =>
    by_cases hc : response = .close
    · simp only [resolve, if_pos hc]
      exact Keeps.pure ()
    · simp only [resolve, if_neg hc]
      exact Keeps.fail _
  | _ => exact Keeps.bind (Keeps.ofExcept _) fun _ => idle_onCallbacks _

lemma idle_onResponse (ack : ℤ) (response : ServerResponse) :
    Keeps (Idle d) (onResponse texts ack response) := by
  refine Keeps.get_bind fun s => Keeps.bind (Keeps.ofExcept _) fun resolver =>
    Keeps.bind (Keeps.modify fun _ h => h) fun _ => ?_
  rw [answer]
  split
  · exact Keeps.pure ()
  · exact Keeps.bind (Keeps.ofExcept _) fun typ =>
      Keeps.bind (Keeps.modify fun _ h => h) fun _ => idle_resolve texts typ resolver

lemma idle_onOpened (sessionId : String) : Keeps (Idle d) (onOpened sessionId) := idle_onCallbacks _

lemma idle_onClosed (status : Status) : Keeps (Idle d) (onClosed status) :=
  Keeps.bind (Keeps.modify fun _ h => h) fun _ => idle_onCallbacks _

lemma idle_onPush (push : ServerPush) : Keeps (Idle d) (onPush push) :=
  Keeps.get_bind fun _ => Keeps.bind (Keeps.modify fun _ h => h) fun _ => fun _ h => h

lemma asked_onSelf {text : JsonText} {unreadable : Error} {m : Prog DelegateImpl Error Unit}
    (hm : ∀ d, Keeps (Idle d) m) : Keeps (fun s => Asked text unreadable s.1) (onSelf m) :=
  fun s h => Idle.asked (hm s.1 s.1 ⟨rfl,rfl,rfl⟩) h

end Idle

section Resolve
variable {texts : Texts} {resolver : Resolver} {req : ServerRequest} {typ : ResponseType}

/-- A response of the kind that was asked for is handed to the application, and all that can fail is
the callback. -/
lemma resolve_handed (hfits : resolver.Fits req) (hanswers : Answers req typ) (d : DelegateImpl) :
    ((resolve texts typ resolver).run d).2.callbacks.log =
        d.callbacks.log ++ (resolver.handed typ).toList ∧
      (((resolve texts typ resolver).run d).1 = .ok () ∨
        (resolver.handed typ).isSome ∧
        ((resolve texts typ resolver).run d).1 = d.callbacks.answers d.callbacks.log.length) := by
  cases resolver with
  | createX dir =>
    cases req with
    | createX v =>
      cases typ with
      | createX xid iceParam iceCandidates dtls =>
        by_cases hdir : dir = directionOutbound
        · subst hdir
          exact ⟨rfl,.inr ⟨rfl,rfl⟩⟩
        · simp only [resolve, OnCreateXResponse.tryFrom, run_ok_bind, if_neg hdir]
          exact ⟨rfl,.inr ⟨rfl,rfl⟩⟩
      | _ => exact hanswers.elim
    | _ => exact hfits.elim
  | batchEnd => exact ⟨(List.append_nil _).symm,.inl rfl⟩
  | leave =>
    cases req with
    | close v =>
      cases typ with
      | close => exact ⟨(List.append_nil _).symm,.inl rfl⟩
      | _ => exact hanswers.elim
    | _ => exact hfits.elim
  | connX cb =>
    cases req with
    | connX v =>
      cases typ with
      | connX => exact ⟨rfl,.inr ⟨rfl,rfl⟩⟩
      | _ => exact hanswers.elim
    | _ => exact hfits.elim
  | pub cb =>
    cases req with
    | pub v =>
      cases typ with
      | pub producerId => exact ⟨rfl,.inr ⟨rfl,rfl⟩⟩
      | _ => exact hanswers.elim
    | _ => exact hfits.elim
  | uPub cb =>
    cases req with
    | uPub v =>
      cases typ with
      | uPub => exact ⟨rfl,.inr ⟨rfl,rfl⟩⟩
      | _ => exact hanswers.elim
    | _ => exact hfits.elim
  | mute cb =>
    cases req with
    | mute v =>
      cases typ with
      | mute => exact ⟨rfl,.inr ⟨rfl,rfl⟩⟩
      | _ => exact hanswers.elim
    | _ => exact hfits.elim
  | sub cb xId producerId streamId =>
    cases req with
    | sub v =>
      cases typ with
      | sub consumerId rtp => exact ⟨rfl,.inr ⟨rfl,rfl⟩⟩
      | _ => exact hanswers.elim
    | _ => exact hfits.elim
  | uSub cb =>
    cases req with
    | uSub v =>
      cases typ with
      | uSub => exact ⟨rfl,.inr ⟨rfl,rfl⟩⟩
      | _ => exact hanswers.elim
    | _ => exact hfits.elim

end Resolve

end DelegateImpl

namespace Desk

open DelegateImpl (delegate Asked Committed)

/-- A response of the kind that the server was asked for, to a request that was not answered yet,
reaches a resolver, which is for this request. The application is handed the response, and all that
can fail is its callback. -/
def Conforms (texts : Texts) (text : JsonText) (s : Desk DelegateImpl) (m : DeskMove) : Prop :=
  ∀ p ack response q body req typ, m = .response p ack response → s.stage = .opened →
    (ack,q) ∈ s.enqueued → q.body = some body → serverReads text body = some ⟨some req⟩ →
    ack ∉ s.acked → response.typ = some typ → Answers req typ →
    (response.status.getD default).code = 0 →
    ∃ resolver, s.listener.responseHandlers.lookup ack = some resolver ∧ resolver.Fits req ∧
      (s.responded texts ack response).2.callbacks.log =
        s.listener.callbacks.log ++ (resolver.handed typ).toList ∧
      ((s.responded texts ack response).1 = .ok () ∨ (resolver.handed typ).isSome ∧
        (s.responded texts ack response).1 =
          s.listener.callbacks.answers s.listener.callbacks.log.length)

/-- The server reads a heartbeat in the body, to which it does not answer by a response of these. -/
def AsksNothing (text : JsonText) (body : String) : Prop :=
  ∀ req typ, serverReads text body = some ⟨some req⟩ → ¬ Answers req typ

section Conforms
variable {text : JsonText} (htext : text.Lawful) {unreadable : Error}
  {response : ResponseType → String} {subCall : SubCall → String} {s : Desk DelegateImpl}

include htext in
lemma asked_step (h : Asked text unreadable s.listener) (m : DeskMove) : Asked text unreadable
    (s.step (delegate (Texts.ofJson text response subCall)) m).listener := by
  have hcall : ∀ c (m : Prog (DelegateImpl × Xfer) Error Unit) (x : Xfer),
      Keeps (fun s => Asked text unreadable s.1) m → Asked text unreadable
        ((({ s with xfer := x } : Desk DelegateImpl).call c m).listener) :=
    fun c m x hm => hm (s.listener,x) h
  cases m with
  | opening =>
    simp only [Desk.step]
    split
    · exact h
    · exact DelegateImpl.asked_onOpening htext response subCall (s.listener,Xfer.new) h
  | opened sessionId =>
    simp only [Desk.step]
    split
    · exact DelegateImpl.asked_onSelf (fun _ => DelegateImpl.idle_onOpened sessionId)
        (s.listener,s.xfer) h
    · exact h
  | process =>
    simp only [Desk.step]
    split
    · exact DelegateImpl.asked_onProcess htext response subCall (s.listener,s.xfer) h
    · exact h
  | response p ack rsp =>
    simp only [Desk.step]
    split
    · exact DelegateImpl.asked_onSelf (fun _ => DelegateImpl.idle_onResponse _ ack rsp)
        (s.listener,s.xfer) h
    · exact h
  | push p push =>
    simp only [Desk.step]
    split
    · exact DelegateImpl.asked_onSelf (fun _ => DelegateImpl.idle_onPush push) (s.listener,s.xfer) h
    · exact h
  | closed status =>
    exact DelegateImpl.Idle.asked (DelegateImpl.idle_onClosed status s.listener ⟨rfl,rfl,rfl⟩) h
  | heartbeat body =>
    simp only [Desk.step]
    split <;> exact h
  | numbers ack sn =>
    simp only [Desk.step]
    split <;> exact h
  | flush c => exact h
  | flushAck c => exact h

include htext in
lemma asksNothing_heartbeat (duration : ℕ → String) : AsksNothing text
    (V1.serde text DtlsParameters.codec RtpParameters.codec duration).heartbeatRequest := by
  intro req typ hreads
  have hhb : serverReads text (V1.serde text DtlsParameters.codec RtpParameters.codec
      duration).heartbeatRequest = some ⟨some (.hb ⟨⟩)⟩ := serverReads_bodyText htext (.hb ⟨⟩)
  obtain rfl : .hb ⟨⟩ = req := by simpa using hhb.symm.trans hreads
  exact id

/-- At every moment of a run, a response that conforms is handed on. -/
lemma conforms_of_sound (hs : s.Sound (AsksNothing text)) (ha : Asked text unreadable s.listener)
    (texts : Texts) (m : DeskMove) : Conforms texts text s m := by
  rintro p ack rsp q body req typ - hstage hq hbody hreads hacked htyp hanswers hcode
  have hbook := hs.open_book (by simp [hstage])
  -- no heartbeat is answered by such a response, so the request was registered
  obtain ⟨reg,hreg,rfl⟩ | ⟨body',hbody',hnothing⟩ := hbook.asked _ hq
  · have hlookup := hbook.waiting reg hreg hacked
    obtain ⟨q',body',hq',hbody',htext'⟩ := hbook.registered reg hreg
    obtain ⟨body'',req',hbody'',hreads',hfits⟩ := ha.registered reg hreg
    -- the packet with this number is the one that was registered
    have hnodup : (s.enqueued.map Prod.fst).Nodup := hbook.sns ▸ numbers_nodup _ _
    obtain rfl : q' = q := congrArg Prod.snd (List.inj_on_of_nodup_map hnodup hq' hq rfl)
    obtain rfl : body'' = body := by
      rw [hbody', Except.ok.injEq] at hbody''
      rw [← hbody'', ← Option.some.injEq, ← htext', hbody]
    obtain rfl : req' = req := by
      rw [hreads, Option.some.injEq, V1.ClientMessage.mk.injEq, Option.some.injEq] at hreads'
      exact hreads'.symm
    refine ⟨reg.resolver,hlookup,hfits,?_⟩
    simp only [responded, DelegateImpl.onResponse, DelegateImpl.orFail, run_get_bind, hlookup,
      run_ok_bind, run_modify_bind, DelegateImpl.answer, hcode, ne_eq, not_true_eq_false, if_false, htyp]
    exact DelegateImpl.resolve_handed hfits hanswers _
  · obtain rfl : body' = body := Option.some.inj (hbody'.symm.trans hbody)
    exact absurd hanswers (hnothing req typ hreads)

end Conforms
end Desk

section Run

open DelegateImpl (delegate Committed)

variable {text : JsonText} (htext : text.Lawful) {unreadable : Error}
  (response : ResponseType → String) (subCall : SubCall → String) (duration : ℕ → String) (fuel : ℕ)
  (config : JoinConfig) (answers callbacks : ℕ → Except Error Unit) (iters : ℕ → IterOrder) (now : ℕ)
  (waits : List (ℕ × Wait)) (modes : ℕ → ShutdownMode) (drops : ℕ → Bool)

include htext in
/-- The worker with `DelegateImpl` runs as a desk does, whose heartbeats have the body that the worker
writes. In every such run in which the operations come from calls of the application, each request
that the server reads and that was not answered yet has a resolver that fits it: a response of the
right kind is handed to the application as it is, and `on_response` fails over it only if the callback
fails. -/
theorem Task.responses_conform {arrivals : ℕ → List DelegateImpl.Op}
    (harrivals : ∀ n, ∀ op ∈ arrivals n, Committed text unreadable op) :
    let serde := V1.serde text DtlsParameters.codec RtpParameters.codec duration
    let d := delegate (Texts.ofJson text response subCall)
    let t := Task.new config (DelegateImpl.new answers callbacks arrivals iters) now waits modes drops
    let desk := Machine.run (Desk.step d) (Desk.fresh answers callbacks arrivals iters)
    (∃ moves, (∀ m ∈ moves, m.Beats (· = serde.heartbeatRequest)) ∧
      (desk moves).calls = ((Task.run d serde fuel).run t).2.env.calls ∧
      ∀ x, Task.lastQueue d serde fuel t = some x →
        (desk moves).stage = .opened ∧ (desk moves).xfer = x) ∧
    ∀ moves, (∀ m ∈ moves, m.Beats (· = serde.heartbeatRequest)) →
      EveryStep (Desk.step d) (Desk.Conforms (Texts.ofJson text response subCall) text)
        (Desk.fresh answers callbacks arrivals iters) moves := by
  intro serde d t desk
  constructor
  · obtain ⟨s,⟨moves,hbeats,rfl⟩,-,hc,hx⟩ := Task.run_served d
      (DelegateImpl.new answers callbacks arrivals iters) serde fuel config now waits modes drops
    exact ⟨moves,hbeats,hc,hx⟩
  · intro moves hbeats
    have hnothing : Desk.AsksNothing text serde.heartbeatRequest :=
      Desk.asksNothing_heartbeat htext duration
    have hguard : EveryStep (Desk.step d) (fun _ m => m.Beats (Desk.AsksNothing text))
        (Desk.fresh answers callbacks arrivals iters) moves :=
      everyStep_of_forall fun m hm => (hbeats m hm).mono fun body hb => hb ▸ hnothing
    refine everyStep_of_guard
      (I := fun s => s.Sound (Desk.AsksNothing text) ∧ DelegateImpl.Asked text unreadable s.listener)
      (fun s m h hm => ⟨⟨h.1.step hm,Desk.asked_step htext h.2 m⟩,Desk.conforms_of_sound h.1 h.2 _ m⟩)
      ⟨Desk.sound_fresh _ _ _ _ _,?_⟩ hguard
    exact ⟨fun reg hr => absurd hr List.not_mem_nil,fun op hop => absurd hop List.not_mem_nil,harrivals⟩

/-- A session that is opened, asks for what the calls are about, and gets a response. -/
theorem Task.responses_conform_someCalls :
    EveryStep (Desk.step (delegate (Texts.ofJson JsonText.compact (fun _ => "") fun _ => "")))
      (Desk.Conforms (Texts.ofJson JsonText.compact (fun _ => "") fun _ => "") JsonText.compact)
      (Desk.fresh (fun _ => .ok ()) (fun _ => .ok ())
        (fun _ => DelegateImpl.someCalls.map (SignalCall.op JsonText.compact (.msg "")))
        fun _ => Room.mapOrder)
      [.opening,.opened "session",.process,.response (.ackOnly 4) 4 ⟨none,some .mute⟩] := by
  have hcommitted : ∀ _ : ℕ, ∀ op ∈ DelegateImpl.someCalls.map (SignalCall.op JsonText.compact (.msg "")),
      Committed JsonText.compact (.msg "") op := by
    rintro - op hop
    obtain ⟨call,-,rfl⟩ := List.mem_map.mp hop
    exact ⟨call,rfl⟩
  exact (Task.responses_conform JsonText.compact_lawful (fun _ => "") (fun _ => "") (fun _ => "") 0
    ⟨"",none,⟨none,none,none,none,none,none⟩⟩ _ _ _ 0 [] (fun _ => .none) (fun _ => false)
    hcommitted).2 _ (by simp [DeskMove.Beats])

end Run

end VvClient
