import VvClient.Glue.Answers

/-! What one call of `on_process` makes of an inbox: which operations can be built, what those put
into the queue, and how far the loop gets. -/
namespace VvClient
namespace DelegateImpl

open Prog

/-- What `to_body` and `serde_json` make of a request of the application. -/
def written (body : Except Error (Except Error String)) : Option String :=
  body.toOption.bind Except.toOption

/-- The stream that a subscription names, with its producer and the transport for it. -/
def target (d : DelegateImpl) (req : SubCall) : Option (String × String × String) := do
  let user ← d.room.users.lookup req.userId
  let xId ← d.dlinkXId
  let stream ← user.state.streams.entries.find? fun x => x.2.stype = req.stype.value
  some (stream.1,stream.2.producerId,xId)

/-- A request is queued, and its resolver is registered. -/
def sent (s : DelegateImpl × Xfer) (b : String × Resolver) : DelegateImpl × Xfer :=
  (s.1.register (s.2.tailSn+1) (.ok b.1) b.2,((Xfer.addQos1Json .request (.ok b.1) none).run s.2).2)

/-- These operations are left in the inbox. -/
def holding (ops : List Op) (s : DelegateImpl × Xfer) : DelegateImpl × Xfer :=
  ({ s.1 with inbox := ops },s.2)

/-- `m` sends what `b` has, or fails where `b` has nothing. -/
def Sends (m : Prog (DelegateImpl × Xfer) Error Unit) (b : Option (String × Resolver))
    (s : DelegateImpl × Xfer) : Prop :=
  match b with
  | some b => m.run s = (.ok (),sent s b)
  | none => ∃ e, (m.run s).1 = .error e

lemma sent_holding (ops : List Op) (s : DelegateImpl × Xfer) (b : String × Resolver) :
    sent (holding ops s) b = holding ops (sent s b) := rfl

lemma foldl_holding (ops : List Op) (bs : List (String × Resolver)) (s : DelegateImpl × Xfer) :
    bs.foldl sent (holding ops s) = holding ops (bs.foldl sent s) := by
  induction bs generalizing s with
  | nil => rfl
  | cons b bs ih => exact ih (sent s b)

section Send
variable (resolver : Resolver) (s : DelegateImpl × Xfer)

lemma sends_sendRequest (body : Except Error String) :
    Sends (sendRequest body resolver) (body.toOption.map fun text => (text,resolver)) s := by
  cases body with
  | ok text => exact sendRequest_ok resolver text s
  | error e => exact ⟨e,rfl⟩

lemma sends_simpleRequest (body : Except Error (Except Error String)) :
    Sends (simpleRequest body resolver) ((written body).map fun text => (text,resolver)) s := by
  cases body with
  | ok body => exact sends_sendRequest resolver s body
  | error e => exact ⟨e,rfl⟩

/-- Where `with_context` has nothing, nothing is sent. -/
lemma sends_orFail {α : Type} {text : String} (o : Option α)
    {f : α → Prog (DelegateImpl × Xfer) Error Unit} {b : α → Option (String × Resolver)}
    (h : ∀ a, Sends (f a) (b a) s) : Sends (orFail text o >>= f) (o.bind b) s := by
  cases o with
  | some a => exact h a
  | none => exact ⟨.msg text,rfl⟩

end Send

section Build
variable (texts : Texts)

/-- The text of the request of an operation and its resolver, where the delegate can build them. -/
def built (d : DelegateImpl) : Op → Option (String × Resolver)
  | .leave atEnd => (texts.closeSession atEnd).toOption.map fun text => (text,.leave)
  | .request (.connX body cb) => (written body).map fun text => (text,.connX cb)
  | .request (.pub body cb) => (written body).map fun text => (text,.pub cb)
  | .request (.uPub body cb) => (written body).map fun text => (text,.uPub cb)
  | .request (.mute body cb) => (written body).map fun text => (text,.mute cb)
  | .request (.sub req cb) => (d.target req).bind fun t =>
      (texts.subscribe t.1 t.2.1 t.2.2).toOption.map fun text => (text,.sub cb t.2.2 t.2.1 t.1)
  | .request (.uSub consumerId cb) =>
      (texts.unsubscribe consumerId).toOption.map fun text => (text,.uSub cb)

lemma sends_subStream (req : SubCall) (cb : ℕ) (s : DelegateImpl × Xfer) :
    Sends (subStream texts req cb) (built texts s.1 (.request (.sub req cb))) s := by
  simp only [built, target, Option.bind_eq_bind, Option.bind_assoc, Option.bind_some]
  refine sends_orFail s _ fun user => ?_
  refine sends_orFail s _ fun xId => ?_
  exact sends_orFail s _ fun stream => sends_sendRequest _ s _

lemma sends_processOp (op : Op) (s : DelegateImpl × Xfer) :
    Sends (processOp texts op) (built texts s.1 op) s := by
  rcases op with atEnd | req
  · exact sends_sendRequest _ s _
  cases req with
  | sub req cb => exact sends_subStream texts req cb s
  | uSub consumerId cb => exact sends_sendRequest _ s _
  | _ => exact sends_simpleRequest _ s _

/-- Requests change nothing that an operation is built from. -/
lemma built_foldl (bs : List (String × Resolver)) (s : DelegateImpl × Xfer) (op : Op) :
    built texts (bs.foldl sent s).1 op = built texts s.1 op := by
  induction bs generalizing s with
  | nil => rfl
  | cons b bs ih => exact ih (sent s b)

@[simp] lemma built_holding (ops : List Op) (s : DelegateImpl × Xfer) (op : Op) :
    built texts (holding ops s).1 op = built texts s.1 op := rfl

/-- The loop past operations that can all be built. -/
lemma drain_append (before ops : List Op) (s : DelegateImpl × Xfer) (hi : s.1.inbox = before ++ ops)
    (h : ∀ op ∈ before, (built texts s.1 op).isSome) :
    (drain texts (before ++ ops)).run s =
      (drain texts ops).run (holding ops ((before.filterMap (built texts s.1)).foldl sent s)) := by
  induction before generalizing s with
  | nil =>
    rcases s with ⟨d,x⟩
    dsimp only [List.nil_append] at hi
    rw [List.nil_append, List.filterMap_nil, List.foldl_nil, holding, ← hi]
  | cons op before ih =>
    obtain ⟨b,hb⟩ := Option.isSome_iff_exists.mp (h op List.mem_cons_self)
    have hop := sends_processOp texts op (holding (before ++ ops) s)
    rw [built_holding, hb] at hop
    have hrest := ih (sent (holding (before ++ ops) s) b) rfl fun op' hm =>
      h op' (List.mem_cons_of_mem _ hm)
    rw [sent_holding, foldl_holding] at hrest
    rw [List.filterMap_cons_some hb, List.foldl_cons]
    exact (run_bind_ok hop).trans hrest

/-- The loop over operations that can all be built. -/
lemma drain_built (ops : List Op) (s : DelegateImpl × Xfer) (hi : s.1.inbox = ops)
    (h : ∀ op ∈ ops, (built texts s.1 op).isSome) :
    (drain texts ops).run s = (.ok (),holding [] ((ops.filterMap (built texts s.1)).foldl sent s)) := by
  have hall := drain_append texts ops [] s (by rw [hi, List.append_nil]) h
  rwa [List.append_nil] at hall

/-- The loop ends at the first operation that cannot be built: those before it are queued, those
behind it stay in the inbox. -/
lemma drain_unbuilt (before : List Op) (op : Op) (rest : List Op) (s : DelegateImpl × Xfer)
    (hi : s.1.inbox = before ++ op::rest) (h : ∀ op' ∈ before, (built texts s.1 op').isSome)
    (hop : built texts s.1 op = none) :
    (∃ e, ((drain texts (before ++ op::rest)).run s).1 = .error e) ∧
    ((drain texts (before ++ op::rest)).run s).2.1.inbox = rest ∧
    ((drain texts (before ++ op::rest)).run s).2.2.que =
      ((before.filterMap (built texts s.1)).foldl sent s).2.que := by
  rw [drain_append texts before (op::rest) s hi h]
  set s' := (before.filterMap (built texts s.1)).foldl sent s with hs'
  have hfail := sends_processOp texts op (holding rest s')
  rw [built_holding, hs', built_foldl, hop, ← hs'] at hfail
  obtain ⟨e,he⟩ := hfail
  obtain ⟨hd,hq,-⟩ := processOp_clean texts op (holding rest s') e he
  have hrun : (drain texts (op::rest)).run (holding (op::rest) s') =
      (.error e,((processOp texts op).run (holding rest s')).2) :=
    run_bind_error (m := processOp texts op) (Prod.ext he rfl)
  rw [hrun]
  refine ⟨⟨e,rfl⟩,?_,hq⟩
  rw [hd]
  rfl

/-- What the next call of `on_process` finds in the inbox before it is empty. -/
def pending (d : DelegateImpl) : List Op := d.inbox ++ d.arrivals 0

/-- The entries of requests with these texts, from the number `sn` on. The first one takes `ack`. -/
def requests (sn : ℤ) (ack : Option ℤ) : List String → List (ℤ × Packet)
  | [] => []
  | text::bodies =>
    (sn,⟨some PacketType.request.asNum,some sn,some text,ack⟩)::requests (sn+1) none bodies

/-- A request leaves no acknowledgement for the next one. -/
lemma sent_filled (s : DelegateImpl × Xfer) (b : String × Resolver) :
    (Xfer.fillAck none (sent s b).2).1 = none := by
  rw [sent, Xfer.addQos1Json_ok]
  by_cases h : s.2.sentAckSn < s.2.recvSn <;> simp [Xfer.fillAck, h]

lemma foldl_sent_que (bs : List (String × Resolver)) (s : DelegateImpl × Xfer) :
    (bs.foldl sent s).2.que =
      s.2.que ++ requests (s.2.tailSn+1) (Xfer.fillAck none s.2).1 (bs.map Prod.fst) := by
  induction bs generalizing s with
  | nil => exact (List.append_nil _).symm
  | cons b bs ih =>
    have hone : (sent s b).2.que =
        s.2.que ++ [(s.2.tailSn+1,Xfer.nextPacket .request b.1 none s.2)] := by
      rw [sent, Xfer.addQos1Json_ok]
    have htail : (sent s b).2.tailSn = s.2.tailSn+1 := by
      rw [sent, Xfer.addQos1Json_ok]
    rw [List.foldl_cons, ih, hone, htail, sent_filled, List.append_assoc]
    rfl

/-- What has arrived stands in the inbox. -/
def arrived (s : DelegateImpl × Xfer) : DelegateImpl × Xfer :=
  ({ s.1 with inbox := pending s.1, arrivals := fun n => s.1.arrivals (n+1) },s.2)

/-- Every operation of the inbox is handled, and those that cannot be built are as if they had not
been there. -/
structure Independent (s : DelegateImpl × Xfer) : Prop where
  ok : ((onProcess texts).run s).1 = .ok ()
  emptied : ((onProcess texts).run s).2.1.inbox = []
  queued : ((onProcess texts).run s).2.2.que = s.2.que ++
    requests (s.2.tailSn+1) (Xfer.fillAck none s.2).1
      (((pending s.1).filterMap (built texts s.1)).map Prod.fst)
  handled : ((onProcess texts).run s).2 =
    holding [] (((pending s.1).filterMap (built texts s.1)).foldl sent (arrived s))

lemma onProcess_run (s : DelegateImpl × Xfer) :
    (onProcess texts).run s = (drain texts (pending s.1)).run (arrived s) := rfl

/-- The call ends at the first operation that cannot be built: those before it are queued, those
behind it wait in the inbox. An error without a status makes the worker reconnect, and a later call
takes them up. -/
theorem onProcess_unbuilt {s : DelegateImpl × Xfer} {before rest : List Op} {op : Op}
    (heq : pending s.1 = before ++ op::rest) (h : ∀ op' ∈ before, (built texts s.1 op').isSome)
    (hop : built texts s.1 op = none) :
    (∃ e, ((onProcess texts).run s).1 = .error e) ∧
    ((onProcess texts).run s).2.1.inbox = rest ∧
    ((onProcess texts).run s).2.2.que = s.2.que ++
      requests (s.2.tailSn+1) (Xfer.fillAck none s.2).1
        ((before.filterMap (built texts s.1)).map Prod.fst) := by
  obtain ⟨he,hinbox,hque⟩ := drain_unbuilt texts before op rest (arrived s) heq h hop
  rw [onProcess_run, heq]
  exact ⟨he,hinbox,hque.trans (foldl_sent_que _ _)⟩

/-- Every operation is handled just if each of them can be built: a user who is not there, a missing
transport or stream and a body that is not JSON all end the call, and with it `phase_work`. -/
theorem onProcess_independent_iff (s : DelegateImpl × Xfer) :
    Independent texts s ↔ ∀ op ∈ pending s.1, (built texts s.1 op).isSome := by
  constructor
  · rintro ⟨hok,-,-,-⟩
    by_contra hnot
    have hfirst : ((pending s.1).find? fun op => (built texts s.1 op).isNone).isSome := by
      simpa [List.find?_isSome] using hnot
    obtain ⟨op,hop⟩ := Option.isSome_iff_exists.mp hfirst
    obtain ⟨hnone,before,rest,heq,hbefore⟩ := List.find?_eq_some_iff_append.mp hop
    have hbuilt : ∀ op' ∈ before, (built texts s.1 op').isSome := fun op' hm => by
      simpa using hbefore op' hm
    obtain ⟨⟨e,he⟩,-,-⟩ := onProcess_unbuilt texts heq hbuilt (Option.isNone_iff_eq_none.mp hnone)
    rw [he] at hok
    cases hok
  · intro h
    have hall := drain_built texts (pending s.1) (arrived s) rfl h
    refine ⟨?_,?_,?_,?_⟩ <;> rw [onProcess_run, hall]
    · rfl
    · exact foldl_sent_que _ _
    · rfl

end Build

/-- A subscription for a user who has left ends the call before the request behind it. -/
theorem onProcess_not_independent :
    ¬ Independent Texts.blank
      ({ new (fun _ => .ok ()) (fun _ => .ok ()) (fun _ => []) (fun _ => ⟨id,fun _ => .rfl⟩) with
          inbox := [.request (.sub ⟨"bob",.camera⟩ 0),.request (.uSub "consumer" 1)] },Xfer.new) := by
  intro h
  cases h.ok

end DelegateImpl
end VvClient
