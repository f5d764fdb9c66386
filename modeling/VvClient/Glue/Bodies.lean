import VvClient.Glue.Process
import VvClient.Mediasoup.DataStructures
import VvClient.Mediasoup.RtpParameters
import VvClient.Proto.RoundTrip

/-! The requests of the application as typed messages: how the texts of their media parameters are
read, what the server reads of the requests that are queued, and what the application reads of the
responses. -/
namespace VvClient

open V1 Mediasoup

/-- A request of the client, with media parameters that were read. -/
abbrev ClientRequest := RequestTypeSer Unit DtlsParameters RtpParameters.Read

/-- `serde_json::from_str` of a text that may be absent -/
def readOption {α : Type} (text : JsonText) (deserialize : Json → Option α) :
    Option String → Option (Option α)
  | none => some none
  | some v => (fromStr text deserialize v).map some

structure ConnXCall where
  xid : String
  dtls : Option String

structure PubCall where
  xId : String
  stype : StreamType
  rtp : Option String
  muted : Option Bool

structure UPubCall where
  stype : StreamType

structure MuteCall where
  stype : StreamType
  muted : Bool

section ToBody
variable (text : JsonText)

/-- `to_body_typed`, which fails where the text is not that of parameters. -/
def ConnXCall.toBodyTyped (req : ConnXCall) : Option ClientRequest := do
  let dtls ← readOption text DtlsParameters.codec.deserialize req.dtls
  return .connX ⟨req.xid,dtls⟩

def PubCall.toBodyTyped (req : PubCall) : Option ClientRequest := do
  let rtp ← readOption text RtpParameters.codec.deserialize req.rtp
  return .pub ⟨"",req.xId,req.stype.asStr,.ofInt req.stype.value,rtp,0,req.muted⟩

def UPubCall.toBodyTyped (req : UPubCall) : Option ClientRequest :=
  some (.uPub ⟨"",none,some req.stype.asStr⟩)

def MuteCall.toBodyTyped (req : MuteCall) : Option ClientRequest :=
  some (.mute ⟨"",none,some req.stype.asStr,req.muted⟩)

/-- The text of `into_body`. -/
def bodyText (req : ClientRequest) : String :=
  requestBody text DtlsParameters.codec RtpParameters.codec req

/-- `to_body`, where `unreadable` is the error for a text that is not that of parameters. -/
def toBody (unreadable : Error) : Option ClientRequest → Except Error (Except Error String)
  | some req => .ok (.ok (bodyText text req))
  | none => .error unreadable

/-- The texts of the requests that the delegate makes itself, and the debug texts. -/
def Texts.ofJson (response : ResponseType → String) (subCall : SubCall → String) : Texts where
  createX dir := .ok (bodyText text (.createX ⟨"",.ofInt dir,0,none⟩))
  batchEnd := .ok (bodyText text (.bEnd ⟨⟩))
  closeSession atEnd := .ok (bodyText text (.close ⟨"",atEnd⟩))
  subscribe streamId producerId xid := .ok (bodyText text (.sub ⟨"",streamId,producerId,xid,none⟩))
  unsubscribe consumerId := .ok (bodyText text (.uSub ⟨"",consumerId⟩))
  response := response
  subCall := subCall

end ToBody

/-- A call of the application on `SignalClient`. `cb` names the object that is resolved. -/
inductive SignalCall
  | leaveRoom (atEnd : Option Bool)
  | connX (req : ConnXCall) (cb : ℕ)
  | pubStream (req : PubCall) (cb : ℕ)
  | upubStream (req : UPubCall) (cb : ℕ)
  | muteStream (req : MuteCall) (cb : ℕ)
  | subStream (req : SubCall) (cb : ℕ)
  | unsubStream (consumerId : String) (cb : ℕ)

namespace SignalCall

/-- The operation that the call commits. -/
def op (text : JsonText) (unreadable : Error) : SignalCall → DelegateImpl.Op
  | leaveRoom atEnd => .leave atEnd
  | connX req cb => .request (.connX (toBody text unreadable (req.toBodyTyped text)) cb)
  | pubStream req cb => .request (.pub (toBody text unreadable (req.toBodyTyped text)) cb)
  | upubStream req cb => .request (.uPub (toBody text unreadable req.toBodyTyped) cb)
  | muteStream req cb => .request (.mute (toBody text unreadable req.toBodyTyped) cb)
  | subStream req cb => .request (.sub req cb)
  | unsubStream consumerId cb => .request (.uSub consumerId cb)

/-- What the call asks the server for, in this state of the delegate. -/
def request (text : JsonText) (d : DelegateImpl) : SignalCall → Option ClientRequest
  | leaveRoom atEnd => some (.close ⟨"",atEnd⟩)
  | connX req _ => req.toBodyTyped text
  | pubStream req _ => req.toBodyTyped text
  | upubStream req _ => req.toBodyTyped
  | muteStream req _ => req.toBodyTyped
  | subStream req _ => (d.target req).map fun t => .sub ⟨"",t.1,t.2.1,t.2.2,none⟩
  | unsubStream consumerId _ => some (.uSub ⟨"",consumerId⟩)

end SignalCall

/-- `serde_json::from_str` at the server -/
def serverReads (text : JsonText) (body : String) :
    Option (ClientMessage DtlsParameters RtpParameters.Read) :=
  fromStr text (ClientMessage.deserialize DtlsParameters.codec RtpParameters.codec) body

section Queued
variable {text : JsonText} (htext : text.Lawful)

include htext in
/-- The server reads a request as it was made. -/
lemma serverReads_bodyText (req : ClientRequest) :
    serverReads text (bodyText text req) = some ⟨some req.toOwned⟩ := by
  rw [serverReads, bodyText, requestBody, fromStr_write htext]
  exact ClientRequestSer.read _ DtlsParameters.codec_lawful RtpParameters.codec_lawful _

namespace DelegateImpl
variable (unreadable : Error) (response : ResponseType → String) (subCall : SubCall → String)

/-- The delegate builds the text of what the call asks for. -/
lemma built_op (d : DelegateImpl) (call : SignalCall) :
    (built (Texts.ofJson text response subCall) d (call.op text unreadable)).map Prod.fst =
      (call.request text d).map (bodyText text) := by
  have htoBody : ∀ req : Option ClientRequest,
      written (toBody text unreadable req) = req.map (bodyText text) := fun req => by
    cases req <;> rfl
  cases call with
  | connX req cb => simp [built, SignalCall.op, SignalCall.request, htoBody, Function.comp_def]
  | pubStream req cb => simp [built, SignalCall.op, SignalCall.request, htoBody, Function.comp_def]
  | upubStream req cb => simp [built, SignalCall.op, SignalCall.request, htoBody, Function.comp_def]
  | muteStream req cb => simp [built, SignalCall.op, SignalCall.request, htoBody, Function.comp_def]
  | subStream req cb => cases htarget : d.target req <;> simp [built, SignalCall.op, SignalCall.request, htarget,
      Texts.ofJson, Except.toOption]
  | _ => rfl

/-- A call that can build all its operations queues all of them. -/
lemma onProcess_built {texts : Texts} {s : DelegateImpl × Xfer}
    (h : ∀ op ∈ pending s.1, (built texts s.1 op).isSome) :
    ((onProcess texts).run s).1 = .ok () ∧ ((onProcess texts).run s).2.2.que = s.2.que ++
      requests (s.2.tailSn+1) (Xfer.fillAck none s.2).1
        (((pending s.1).filterMap (built texts s.1)).map Prod.fst) := by
  rw [onProcess_run, drain_built texts (pending s.1) (arrived s) rfl h]
  exact ⟨rfl,foldl_sent_que _ _⟩

/-- What a call of `on_process` queues: the requests of the operations before the first one that
cannot be built. The call succeeds just if there is none. -/
lemma onProcess_que (texts : Texts) (s : DelegateImpl × Xfer) :
    ((onProcess texts).run s).2.2.que = s.2.que ++
      requests (s.2.tailSn+1) (Xfer.fillAck none s.2).1
        ((((pending s.1).takeWhile fun op => (built texts s.1 op).isSome).filterMap
          (built texts s.1)).map Prod.fst) ∧
    (((onProcess texts).run s).1 = .ok () ↔ ∀ op ∈ pending s.1, (built texts s.1 op).isSome) := by
  have hbefore : ∀ op ∈ (pending s.1).takeWhile fun op => (built texts s.1 op).isSome,
      (built texts s.1 op).isSome := fun op hop =>
    List.mem_takeWhile_imp (p := fun op => (built texts s.1 op).isSome) hop
  have hsplit := List.takeWhile_append_dropWhile (p := fun op => (built texts s.1 op).isSome)
    (l := pending s.1)
  cases hrest : (pending s.1).dropWhile fun op => (built texts s.1 op).isSome with
  | nil =>
    rw [hrest, List.append_nil] at hsplit
    rw [hsplit] at hbefore ⊢
    obtain ⟨hok,hque⟩ := onProcess_built hbefore
    exact ⟨hque,iff_of_true hok hbefore⟩
  | cons op rest =>
    have hop : built texts s.1 op = none := by
      have hne : (pending s.1).dropWhile (fun op => (built texts s.1 op).isSome) ≠ [] := by
        rw [hrest]
        exact List.cons_ne_nil op rest
      have hnot := List.head_dropWhile_not (fun op => (built texts s.1 op).isSome) hne
      simpa [hrest] using hnot
    rw [hrest] at hsplit
    obtain ⟨⟨e,he⟩,-,hque⟩ := onProcess_unbuilt texts hsplit.symm hbefore hop
    refine ⟨hque,iff_of_false (by simp [he]) fun h => ?_⟩
    have hmem : op ∈ pending s.1 := by
      rw [← hsplit]
      exact List.mem_append_right _ List.mem_cons_self
    simpa [hop] using h op hmem

include htext in
/-- The bodies that are built of calls, as the server reads them. -/
lemma built_read (d : DelegateImpl) (calls : List SignalCall) :
    (((((calls.map (SignalCall.op text unreadable)).takeWhile fun op =>
      (built (Texts.ofJson text response subCall) d op).isSome).filterMap
        (built (Texts.ofJson text response subCall) d)).map Prod.fst).map (serverReads text)) =
      ((calls.map (SignalCall.request text d)).takeWhile Option.isSome).map
        (Option.map fun req => ⟨some req.toOwned⟩) := by
  induction calls with
  | nil => rfl
  | cons call calls ih =>
    have hbuilt : (built (Texts.ofJson text response subCall) d (call.op text unreadable)).map
        Prod.fst = _ := built_op unreadable response subCall d call
    cases hreq : call.request text d with
    | none =>
      rw [hreq, Option.map_none, Option.map_eq_none_iff] at hbuilt
      simp [hreq, hbuilt]
    | some req =>
      rw [hreq, Option.map_some] at hbuilt
      obtain ⟨b,hb,hbody⟩ := Option.map_eq_some_iff.mp hbuilt
      simp only [List.map_cons, hreq, List.takeWhile_cons, hb, Option.isSome_some, ↓reduceIte,
        List.filterMap_cons_some hb, hbody, serverReads_bodyText htext, ih, Option.map_some]

include htext in
/-- The server reads, of what a call of `on_process` queues, what the calls of the application asked
for, in their order, up to the first call that cannot be made; just if there is none the call of
`on_process` succeeds. -/
theorem onProcess_read {s : DelegateImpl × Xfer} {calls : List SignalCall}
    (h : pending s.1 = calls.map (SignalCall.op text unreadable)) :
    ∃ bodies, ((onProcess (Texts.ofJson text response subCall)).run s).2.2.que =
        s.2.que ++ requests (s.2.tailSn+1) (Xfer.fillAck none s.2).1 bodies ∧
      bodies.map (serverReads text) =
        ((calls.map (SignalCall.request text s.1)).takeWhile Option.isSome).map
          (Option.map fun req => ⟨some req.toOwned⟩) ∧
      (((onProcess (Texts.ofJson text response subCall)).run s).1 = .ok () ↔
        ∀ call ∈ calls, (call.request text s.1).isSome) := by
  obtain ⟨hque,hok⟩ := onProcess_que (Texts.ofJson text response subCall) s
  refine ⟨_,hque,?_,?_⟩
  · rw [h]
    exact built_read htext unreadable response subCall s.1 calls
  · rw [hok, h, List.forall_mem_map]
    refine forall₂_congr fun call _ => ?_
    rw [← Option.isSome_map (f := Prod.fst), built_op, Option.isSome_map]

end DelegateImpl
end Queued

namespace DelegateImpl

/-- Calls of which the third is for a user who is not there. -/
def someCalls : List SignalCall :=
  [.muteStream ⟨.camera,true⟩ 0,.unsubStream "c" 1,.subStream ⟨"bob",.camera⟩ 2,.leaveRoom none]

/-- A delegate whose inbox has these calls. -/
def someInbox : DelegateImpl × Xfer :=
  ({ new (fun _ => .ok ()) (fun _ => .ok ()) (fun _ => []) (fun _ => Room.mapOrder) with
      inbox := someCalls.map (SignalCall.op JsonText.compact (.msg "")) },Xfer.new)

theorem onProcess_read_someCalls : ∃ bodies,
    ((onProcess (Texts.ofJson JsonText.compact (fun _ => "") fun _ => "")).run someInbox).2.2.que =
      requests 1 none bodies ∧
    bodies.map (serverReads JsonText.compact) =
      [some ⟨some (.mute ⟨"",none,some "camera",true⟩)⟩,some ⟨some (.uSub ⟨"","c"⟩)⟩] ∧
    ((onProcess (Texts.ofJson JsonText.compact (fun _ => "") fun _ => "")).run someInbox).1 ≠ .ok () := by
  obtain ⟨bodies,hque,hread,hok⟩ := onProcess_read JsonText.compact_lawful (.msg "") (fun _ => "")
    (fun _ => "") (show pending someInbox.1 = someCalls.map _ from List.append_nil _)
  exact ⟨bodies,hque,hread,fun h => absurd (hok.mp h) (by decide)⟩

end DelegateImpl
end VvClient
