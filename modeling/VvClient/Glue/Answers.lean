import VvClient.Client.Desk
import VvClient.Client.SendPosition
import VvClient.Glue.Delegate
import VvClient.Lib.Sequence

/-! Which request a response reaches. The table of resolvers outlives the queues of failed openings,
and the numbers of the requests begin at one in each of them. -/
namespace VvClient

open Machine Prog

/-- A list whose keys differ holds each element once. -/
lemma filter_key {α κ : Type*} [DecidableEq κ] {f : α → κ} {l : List α} {a : α}
    (hl : (l.map f).Nodup) (ha : a ∈ l) : l.filter (fun x => f x = f a) = [a] := by
  induction l with
  | nil => exact absurd ha List.not_mem_nil
  | cons b l ih =>
    rw [List.map_cons, List.nodup_cons] at hl
    rcases List.mem_cons.mp ha with rfl | ha
    · have hrest : l.filter (fun x => f x = f a) = [] := by
        rw [List.filter_eq_nil_iff]
        intro x hx
        rw [decide_eq_true_eq]
        intro hf
        exact hl.1 (hf ▸ List.mem_map_of_mem hx)
      rw [List.filter_cons_of_pos (by simp), hrest]
    · have hne : f b ≠ f a := fun hf => hl.1 (hf ▸ List.mem_map_of_mem ha)
      rw [List.filter_cons_of_neg (by simpa using hne), ih hl.2 ha]

namespace DelegateImpl

/-- The table, the registrations and the packets that were queued fit together, where responses came
for the requests `acked`, and heartbeats have a body of `Beat`. Resolvers of an earlier queue may
stand at the numbers up to `stale` that were not given out yet. -/
structure Book (Beat : String → Prop) (acked : List ℤ) (stale : ℤ) (d : DelegateImpl) (tail : ℤ)
    (enqueued : List (ℤ × Packet)) : Prop where
  sns : enqueued.map Prod.fst = numbers 0 enqueued.length
  tail_eq : tail = enqueued.length
  request : ∀ e ∈ enqueued, e.2.typ = some PacketType.request.asNum ∧ e.2.sn = some e.1
  registered : ∀ reg ∈ d.answered.registered, ∃ p text,
    (reg.sn,p) ∈ enqueued ∧ reg.body = .ok text ∧ p.body = some text
  apart : (d.answered.registered.map Registration.sn).Nodup
  table : ∀ sn r, d.responseHandlers.lookup sn = some r →
    (∃ reg ∈ d.answered.registered, reg.sn = sn ∧ reg.resolver = r) ∨ (tail < sn ∧ sn ≤ stale)
  asked : ∀ e ∈ enqueued, (∃ reg ∈ d.answered.registered, reg.sn = e.1) ∨
    ∃ body, e.2.body = some body ∧ Beat body
  waiting : ∀ reg ∈ d.answered.registered, reg.sn ∉ acked →
    d.responseHandlers.lookup reg.sn = some reg.resolver
  replaced : d.answered.replaced = []

namespace Book

variable {Beat : String → Prop} {acked : List ℤ} {stale tail : ℤ} {d : DelegateImpl}
  {enqueued : List (ℤ × Packet)}

lemma sn_le (h : Book Beat acked stale d tail enqueued) {e : ℤ × Packet} (he : e ∈ enqueued) :
    0 < e.1 ∧ e.1 ≤ tail := by
  have hmem : e.1 ∈ numbers 0 enqueued.length := h.sns ▸ List.mem_map_of_mem he
  have := mem_numbers.mp hmem
  have := h.tail_eq
  omega

lemma registered_le (h : Book Beat acked stale d tail enqueued) {reg : Registration}
    (hr : reg ∈ d.answered.registered) : 0 < reg.sn ∧ reg.sn ≤ tail := by
  obtain ⟨p,text,hp,-⟩ := h.registered reg hr
  exact h.sn_le hp

/-- What the delegate does besides registering requests. -/
lemma frame (h : Book Beat acked stale d tail enqueued) {d' : DelegateImpl} {acked' : List ℤ}
    (hr : d'.answered.registered = d.answered.registered)
    (hp : d'.answered.replaced = d.answered.replaced)
    (ht : ∀ sn r, d'.responseHandlers.lookup sn = some r → d.responseHandlers.lookup sn = some r)
    (hw : ∀ sn, sn ∉ acked' → sn ∉ acked ∧
      d'.responseHandlers.lookup sn = d.responseHandlers.lookup sn) :
    Book Beat acked' stale d' tail enqueued where
  sns := h.sns
  tail_eq := h.tail_eq
  request := h.request
  registered := hr ▸ h.registered
  apart := hr ▸ h.apart
  table sn r hl := hr ▸ h.table sn r (ht sn r hl)
  asked := hr ▸ h.asked
  waiting reg hreg hsn := by
    obtain ⟨hsn,hl⟩ := hw reg.sn hsn
    exact hl.trans (h.waiting reg (hr ▸ hreg) hsn)
  replaced := hp.trans h.replaced

lemma sns_succ (h : Book Beat acked stale d tail enqueued) (p : Packet) :
    (enqueued ++ [(tail+1,p)]).map Prod.fst = numbers 0 (enqueued ++ [(tail+1,p)]).length := by
  rw [List.map_append, h.sns, List.length_append, List.length_singleton, numbers_succ, h.tail_eq]
  simp

/-- A heartbeat is queued, which nothing is registered with. -/
lemma enqueue (h : Book Beat acked 0 d tail enqueued) {p : Packet} {body : String}
    (hp : p.typ = some PacketType.request.asNum ∧ p.sn = some (tail+1)) (hb : p.body = some body)
    (hbeat : Beat body) : Book Beat acked 0 d (tail+1) (enqueued ++ [(tail+1,p)]) where
  sns := h.sns_succ p
  tail_eq := by simp [h.tail_eq]
  request e he := by
    rcases List.mem_append.mp he with he | he
    · exact h.request e he
    · rw [List.mem_singleton.mp he]
      exact hp
  registered reg hr := by
    obtain ⟨q,text,hq,hb⟩ := h.registered reg hr
    exact ⟨q,text,List.mem_append_left _ hq,hb⟩
  apart := h.apart
  table sn r hl := by
    rcases h.table sn r hl with hreg | hstale
    · exact Or.inl hreg
    · have := h.tail_eq
      omega
  asked e he := by
    rcases List.mem_append.mp he with he | he
    · exact h.asked e he
    · rw [List.mem_singleton.mp he]
      exact Or.inr ⟨body,hb,hbeat⟩
  waiting := h.waiting
  replaced := h.replaced

/-- A request is queued and registered. A resolver of an earlier queue may stand in its place. -/
lemma register (h : Book Beat acked stale d tail enqueued) {p : Packet} {text : String} (r : Resolver)
    (hp : p.typ = some PacketType.request.asNum ∧ p.sn = some (tail+1)) (hb : p.body = some text) :
    Book Beat acked stale (d.register (tail+1) (.ok text) r) (tail+1) (enqueued ++ [(tail+1,p)]) := by
  have hfresh : tail+1 ∉ d.answered.registered.map Registration.sn := by
    intro hmem
    obtain ⟨reg,hr,hsn⟩ := List.mem_map.mp hmem
    have := h.registered_le hr
    omega
  refine ⟨h.sns_succ p,by simp [h.tail_eq],?_,?_,?_,?_,?_,?_,?_⟩
  · intro e he
    rcases List.mem_append.mp he with he | he
    · exact h.request e he
    · rw [List.mem_singleton.mp he]
      exact hp
  · intro reg hr
    rcases List.mem_append.mp hr with hr | hr
    · obtain ⟨q,text,hq,hb⟩ := h.registered reg hr
      exact ⟨q,text,List.mem_append_left _ hq,hb⟩
    · rw [List.mem_singleton.mp hr]
      exact ⟨p,text,by simp,rfl,hb⟩
  · simp only [DelegateImpl.register, List.map_append]
    refine List.nodup_append.mpr ⟨h.apart,List.nodup_singleton _,?_⟩
    rintro a ha b hb' rfl
    rw [List.mem_singleton.mp hb'] at ha
    exact hfresh ha
  · intro sn r' hl
    simp only [DelegateImpl.register] at hl ⊢
    by_cases hsn : sn = tail+1
    · subst hsn
      rw [AList.lookup_insert, Option.some.injEq] at hl
      exact Or.inl ⟨_,List.mem_append_right _ (List.mem_singleton_self _),rfl,hl⟩
    · rw [AList.lookup_insert_ne hsn] at hl
      rcases h.table sn r' hl with ⟨reg,hr,hreg⟩ | ⟨hlt,hle⟩
      · exact Or.inl ⟨reg,List.mem_append_left _ hr,hreg⟩
      · exact Or.inr ⟨by omega,hle⟩
  · intro e he
    rcases List.mem_append.mp he with he | he
    · exact (h.asked e he).imp_left fun ⟨reg,hr,hsn⟩ => ⟨reg,List.mem_append_left _ hr,hsn⟩
    · rw [List.mem_singleton.mp he]
      exact Or.inl ⟨_,List.mem_append_right _ (List.mem_singleton_self _),rfl⟩
  · intro reg hr hsn
    simp only [DelegateImpl.register] at hr ⊢
    rcases List.mem_append.mp hr with hr | hr
    · have hne : reg.sn ≠ tail+1 := by
        have := h.registered_le hr
        omega
      rw [AList.lookup_insert_ne hne]
      exact h.waiting reg hr hsn
    · rw [List.mem_singleton.mp hr]
      exact AList.lookup_insert _
  · simp only [DelegateImpl.register, if_neg hfresh, List.append_nil]
    exact h.replaced

/-- Behind the numbers of an earlier queue nothing is stale. -/
lemma settled (h : Book Beat acked stale d tail enqueued) (ht : stale ≤ tail) :
    Book Beat acked 0 d tail enqueued :=
  { h with
    table := by
      intro sn r hl
      rcases h.table sn r hl with hreg | hstale
      · exact Or.inl hreg
      · omega }

/-- The keys of the table are numbers up to `n`. -/
lemma table_le (h : Book Beat acked stale d tail enqueued) {n : ℤ} (hs : stale ≤ n) (ht : tail ≤ n)
    {sn : ℤ} {r : Resolver} (hl : d.responseHandlers.lookup sn = some r) : 0 < sn ∧ sn ≤ n := by
  rcases h.table sn r hl with ⟨reg,hr,rfl,-⟩ | hstale
  · have := h.registered_le hr
    omega
  · have := h.tail_eq
    omega

/-- A new queue, for which nothing is registered. -/
lemma start (h : Book Beat acked stale d tail enqueued) {n : ℤ} (hs : stale ≤ n) (ht : tail ≤ n) :
    Book Beat acked n { d with answered := { d.answered with registered := [] } } 0 [] where
  sns := rfl
  tail_eq := rfl
  request _ he := absurd he List.not_mem_nil
  registered _ hr := absurd hr List.not_mem_nil
  apart := List.nodup_nil
  table _ _ hl := Or.inr (h.table_le hs ht hl)
  asked _ he := absurd he List.not_mem_nil
  waiting _ hr := absurd hr List.not_mem_nil
  replaced := h.replaced

end Book

section Holds
variable (Beat : String → Prop) (acked : List ℤ) (stale : ℤ) (base enqueued : List (ℤ × Packet))

/-- In the queue, `n` requests were put behind `base`. -/
def Queued (n : ℕ) (s : DelegateImpl × Xfer) : Prop :=
  ∃ new, new.length = n ∧ s.2.que = base ++ new ∧ Book Beat acked stale s.1 s.2.tailSn (enqueued ++ new)

/-- In the queue, requests were put behind `base`. -/
def Holds (s : DelegateImpl × Xfer) : Prop := ∃ n, Queued Beat acked stale base enqueued n s

end Holds

/-- A failing operation leaves the delegate as it was, and queues nothing. -/
def Clean {α : Type} (m : Prog (DelegateImpl × Xfer) Error α) : Prop :=
  ∀ s e, (m.run s).1 = .error e →
    (m.run s).2.1 = s.1 ∧ (m.run s).2.2.que = s.2.que ∧ (m.run s).2.2.tailSn = s.2.tailSn

lemma clean_ofExcept {α β : Type} {r : Except Error α} {f : α → Prog (DelegateImpl × Xfer) Error β}
    (hf : ∀ a, Clean (f a)) : Clean (ofExcept r >>= f) := by
  intro s e he
  cases r with
  | ok a => exact hf a s e he
  | error e' => exact ⟨rfl,rfl,rfl⟩

lemma clean_get_bind {α : Type} {f : DelegateImpl × Xfer → Prog (DelegateImpl × Xfer) Error α}
    (hf : ∀ s, Clean (f s)) : Clean (Prog.get >>= f) := fun s e he => hf s s e he

section Send
variable (body : Except Error String) (resolver : Resolver)

lemma sendRequest_ok (text : String) (s : DelegateImpl × Xfer) :
    (sendRequest (.ok text) resolver).run s =
      (.ok (),(s.1.register (s.2.tailSn+1) (.ok text) resolver,
        ((Xfer.addQos1Json .request (.ok text) none).run s.2).2)) := rfl

lemma sendRequest_error (e : Error) (s : DelegateImpl × Xfer) :
    (sendRequest (.error e) resolver).run s = (.error e,(s.1,(Xfer.fillAck none s.2).2)) := rfl

lemma sendRequest_clean : Clean (sendRequest body resolver) := by
  intro s e he
  cases body with
  | ok text => exact absurd he (by simp [sendRequest_ok])
  | error e' => simp [sendRequest_error]

variable {Beat : String → Prop} {acked : List ℤ} {stale : ℤ} {base enqueued : List (ℤ × Packet)}
  {n : ℕ}

/-- One more request is queued, where the sending succeeds. -/
lemma queued_sendRequest : Triple (Queued Beat acked stale base enqueued n) (sendRequest body resolver)
    (fun r s => Queued Beat acked stale base enqueued (if r.isOk then n+1 else n) s) := by
  rintro ⟨d,x⟩ ⟨new,hn,hq,hb⟩
  dsimp only at hq hb
  cases body with
  | ok text =>
    refine ⟨new ++ [(x.tailSn+1,Xfer.nextPacket .request text none x)],?_,?_,?_⟩
    · simp [sendRequest_ok, Except.isOk, Except.toBool, hn]
    · simp [sendRequest_ok, Xfer.addQos1Json_ok, hq]
    · rw [← List.append_assoc]
      simp only [sendRequest_ok, Xfer.addQos1Json_ok]
      exact hb.register resolver ⟨rfl,rfl⟩ rfl
  | error e =>
    refine ⟨new,by simpa [sendRequest_error, Except.isOk, Except.toBool] using hn,?_,?_⟩
    · simp [sendRequest_error, hq]
    · simpa [sendRequest_error] using hb

lemma holds_sendRequest : Keeps (Holds Beat acked stale base enqueued) (sendRequest body resolver) := by
  rintro s ⟨n,h⟩
  exact ⟨_,queued_sendRequest body resolver s h⟩

end Send

section Ops
variable (texts : Texts)

lemma runRequest_clean (req : Request) : Clean (runRequest texts req) := by
  cases req with
  | sub req cb =>
    refine clean_get_bind fun s => clean_ofExcept fun user => clean_get_bind fun s =>
      clean_ofExcept fun xId => clean_ofExcept fun stream => ?_
    exact sendRequest_clean _ _
  | uSub consumerId cb => exact sendRequest_clean _ _
  | _ => exact clean_ofExcept fun _ => sendRequest_clean _ _

lemma processOp_clean (op : Op) : Clean (processOp texts op) := by
  cases op with
  | leave atEnd => exact sendRequest_clean _ _
  | request req => exact runRequest_clean texts req

variable {Beat : String → Prop} {acked : List ℤ} {stale : ℤ} {base enqueued : List (ℤ × Packet)}

lemma holds_runRequest (req : Request) : Keeps (Holds Beat acked stale base enqueued) (runRequest texts req) := by
  cases req with
  | sub req cb =>
    refine Keeps.get_bind fun s => Keeps.bind (Keeps.ofExcept _) fun user =>
      Keeps.get_bind fun s => Keeps.bind (Keeps.ofExcept _) fun xId =>
        Keeps.bind (Keeps.ofExcept _) fun stream => ?_
    exact holds_sendRequest _ _
  | uSub consumerId cb => exact holds_sendRequest _ _
  | _ => exact Keeps.bind (Keeps.ofExcept _) fun _ => holds_sendRequest _ _

lemma holds_processOp (op : Op) : Keeps (Holds Beat acked stale base enqueued) (processOp texts op) := by
  cases op with
  | leave atEnd => exact holds_sendRequest _ _
  | request req => exact holds_runRequest texts req

/-- The delegate does something that concerns neither table nor registrations. -/
lemma holds_modify {f : DelegateImpl → DelegateImpl} (ha : ∀ d, (f d).answered = d.answered)
    (ht : ∀ d, (f d).responseHandlers = d.responseHandlers) :
    Keeps (Holds Beat acked stale base enqueued) (onSelf (Prog.modify f)) := by
  rintro ⟨d,x⟩ ⟨n,new,hn,hq,hb⟩
  have hanswered : (f d).answered = d.answered := ha d
  refine ⟨n,new,hn,hq,hb.frame (congrArg _ hanswered) (congrArg _ hanswered) (fun sn r hl => ?_) ?_⟩
  · exact ht d ▸ hl
  · exact fun sn hsn => ⟨hsn,congrArg (AList.lookup sn) (ht d)⟩

lemma holds_drain (ops : List Op) : Keeps (Holds Beat acked stale base enqueued) (drain texts ops) := by
  induction ops with
  | nil => exact Keeps.pure ()
  | cons op ops ih =>
    exact Keeps.bind (holds_modify (fun _ => rfl) fun _ => rfl) fun _ =>
      Keeps.bind (holds_processOp texts op) fun _ => ih

lemma holds_onProcess : Keeps (Holds Beat acked stale base enqueued) (onProcess texts) :=
  Keeps.bind (holds_modify (fun _ => rfl) fun _ => rfl) fun _ =>
    Keeps.get_bind fun _ => holds_drain texts _

/-- How a part of an opening ends: with `n` requests in the queue, or with fewer. -/
def UpTo (Beat : String → Prop) (acked : List ℤ) (n : ℕ) (r : Except Error Unit)
    (s : DelegateImpl × Xfer) : Prop :=
  ∃ m, m ≤ n ∧ (r.isOk → m = n) ∧ Queued Beat acked 3 [] [] m s

lemma upTo_sendRequest (n : ℕ) (body : Except Error String) (resolver : Resolver) :
    Triple (Queued Beat acked 3 [] [] n) (sendRequest body resolver) (UpTo Beat acked (n+1)) := by
  intro s hq
  refine ⟨_,?_,?_,queued_sendRequest body resolver s hq⟩
  · split <;> omega
  · intro hok
    rw [if_pos hok]

lemma upTo_bind {n k : ℕ} {m m' : Prog (DelegateImpl × Xfer) Error Unit}
    (hm : Triple (Queued Beat acked 3 [] [] n) m (UpTo Beat acked (n+1)))
    (hm' : Triple (Queued Beat acked 3 [] [] (n+1)) m' (UpTo Beat acked k)) (hk : n+1 ≤ k) :
    Triple (Queued Beat acked 3 [] [] n) (m >>= fun _ => m') (UpTo Beat acked k) := by
  refine Triple.bind hm (fun a s hs => ?_) fun e s hs => ?_
  · obtain ⟨i,-,hi,hq⟩ := hs
    rw [hi rfl] at hq
    exact hm' s hq
  · obtain ⟨i,hi,-,hq⟩ := hs
    exact ⟨i,by omega,fun hok => absurd hok (by simp [Except.isOk, Except.toBool]),hq⟩

/-- An opening ends with its three requests, or with fewer. -/
lemma upTo_onOpening {d : DelegateImpl} {tail : ℤ} (h : Book Beat acked stale d tail enqueued)
    (hs : stale ≤ 3) (ht : tail ≤ 3) : UpTo Beat acked 3 ((onOpening texts).run (d,Xfer.new)).1
      ((onOpening texts).run (d,Xfer.new)).2 := by
  refine upTo_bind (upTo_sendRequest 0 _ _) (upTo_bind (upTo_sendRequest 1 _ _)
    (upTo_sendRequest 2 _ _) (by omega)) (by omega) _ ?_
  exact ⟨[],rfl,rfl,h.start hs ht⟩

end Ops

section Response
variable (texts : Texts)

/-- Table, registrations and answers are those of `d`. -/
def Same (d d' : DelegateImpl) : Prop :=
  d'.answered = d.answered ∧ d'.responseHandlers = d.responseHandlers

lemma same_onCallbacks {d : DelegateImpl} {α : Type} (m : Prog Callbacks Error α) :
    Keeps (Same d) (onCallbacks m) := fun _ h => h

lemma same_onRoom {d : DelegateImpl} {α : Type} (m : Prog Room Error α) :
    Keeps (Same d) (onRoom m) := fun _ h => h

lemma same_resolve {d : DelegateImpl} (response : ResponseType) (resolver : Resolver) :
    Keeps (Same d) (resolve texts response resolver) := by
  cases resolver with
  | createX dir =>
    refine Keeps.bind (Keeps.ofExcept _) fun rsp => ?_
    by_cases hd : dir = directionOutbound
    · simp only [if_pos hd]
      exact Keeps.bind (Keeps.modify fun _ h => h) fun _ => same_onCallbacks _
    · simp only [if_neg hd]
      exact same_onCallbacks _
  | batchEnd => exact Keeps.pure ()
  | leave =>
    by_cases hc : response = .close
    · simp only [resolve, if_pos hc]
      exact Keeps.pure ()
    · simp only [resolve, if_neg hc]
      exact Keeps.fail _
  | _ => exact Keeps.bind (Keeps.ofExcept _) fun _ => same_onCallbacks _

lemma same_onOpened {d : DelegateImpl} (sessionId : String) : Keeps (Same d) (onOpened sessionId) :=
  same_onCallbacks _

lemma same_onClosed {d : DelegateImpl} (status : Status) : Keeps (Same d) (onClosed status) :=
  Keeps.bind (Keeps.modify fun _ h => h) fun _ => same_onCallbacks _

lemma same_onPush {d : DelegateImpl} (push : ServerPush) : Keeps (Same d) (onPush push) :=
  Keeps.get_bind fun _ => Keeps.bind (Keeps.modify fun _ h => h) fun _ => same_onRoom _

variable (d : DelegateImpl) (ack : ℤ) (response : ServerResponse)

/-- The delegate without the resolver at the acknowledged number. -/
def taken : DelegateImpl := { d with responseHandlers := d.responseHandlers.erase ack }

/-- What `on_response` does with the answers, for the resolver that it finds. -/
inductive Response : Except Error Unit × DelegateImpl → Prop
  | unknown (e : Error) (h : d.responseHandlers.lookup ack = none) : Response (.error e,d)
  | refused (resolver : Resolver) (h : d.responseHandlers.lookup ack = some resolver)
      (hc : (response.status.getD default).code ≠ 0) : Response (.ok (),d.taken ack)
  | empty (e : Error) : Response (.error e,d.taken ack)
  | ran (r : Except Error Unit) (d' : DelegateImpl) (resolver : Resolver)
      (h : d.responseHandlers.lookup ack = some resolver)
      (ha : d'.answered = { d.answered with ran := d.answered.ran ++ [(ack,resolver)] })
      (ht : d'.responseHandlers = d.responseHandlers.erase ack) : Response (r,d')

lemma onResponse_spec : Response d ack response ((onResponse texts ack response).run d) := by
  cases hl : d.responseHandlers.lookup ack with
  | none =>
    simp only [onResponse, orFail, run_get_bind, hl, run_error_bind]
    exact .unknown _ hl
  | some resolver =>
    simp only [onResponse, orFail, run_get_bind, hl, run_ok_bind, run_modify_bind, answer]
    by_cases hc : (response.status.getD default).code ≠ 0
    · simp only [if_pos hc, run_pure]
      exact .refused resolver hl hc
    · simp only [if_neg hc]
      cases ht : response.typ with
      | none =>
        simp only [run_error_bind]
        exact .empty _
      | some typ =>
        simp only [run_ok_bind, run_modify_bind]
        obtain ⟨ha,hh⟩ := same_resolve texts typ resolver _ ⟨rfl,rfl⟩
        exact .ran _ _ resolver hl ha hh

variable {Beat : String → Prop} {acked : List ℤ} {stale : ℤ} {base enqueued : List (ℤ × Packet)}

lemma Same.book {d d' : DelegateImpl} {tail : ℤ} (hs : Same d d')
    (h : Book Beat acked stale d tail enqueued) : Book Beat acked stale d' tail enqueued :=
  h.frame (by rw [hs.1]) (by rw [hs.1]) (fun sn r hl => hs.2 ▸ hl) fun sn hsn => ⟨hsn,by rw [hs.2]⟩

lemma holds_onSelf {m : Prog DelegateImpl Error Unit} (hm : ∀ d, Keeps (Same d) m) :
    Keeps (Holds Beat acked stale base enqueued) (onSelf m) := by
  rintro ⟨d,x⟩ ⟨n,new,hn,hq,hb⟩
  exact ⟨n,new,hn,hq,Same.book (hm d d ⟨rfl,rfl⟩) hb⟩

lemma Response.book {d : DelegateImpl} {ack tail : ℤ} {response : ServerResponse}
    {r : Except Error Unit × DelegateImpl} (h : Response d ack response r)
    (hb : Book Beat acked stale d tail enqueued) :
    Book Beat (acked ++ [ack]) stale r.2 tail enqueued := by
  have htaken : ∀ sn r, (d.responseHandlers.erase ack).lookup sn = some r →
      d.responseHandlers.lookup sn = some r := by
    intro sn r hl
    by_cases hsn : sn = ack
    · rw [hsn, AList.lookup_erase] at hl
      cases hl
    · rwa [AList.lookup_erase_ne hsn] at hl
  have hkept : ∀ sn, sn ∉ acked ++ [ack] → sn ∉ acked ∧
      (d.responseHandlers.erase ack).lookup sn = d.responseHandlers.lookup sn := by
    intro sn hsn
    rw [List.mem_append, List.mem_singleton, not_or] at hsn
    exact ⟨hsn.1,AList.lookup_erase_ne hsn.2⟩
  cases h with
  | unknown e h => exact hb.frame rfl rfl (fun _ _ hl => hl) fun sn hsn => ⟨(hkept sn hsn).1,rfl⟩
  | refused resolver h hc => exact hb.frame rfl rfl htaken hkept
  | empty e => exact hb.frame rfl rfl htaken hkept
  | ran r d' resolver h ha ht =>
    exact hb.frame (by rw [ha]) (by rw [ha]) (by rwa [ht]) (by rwa [ht])

/-- Behind a response, its request counts as answered. -/
lemma holds_onResponse : Triple (Holds Beat acked stale base enqueued)
    (onSelf (onResponse texts ack response))
    (fun _ => Holds Beat (acked ++ [ack]) stale base enqueued) := by
  rintro ⟨d,x⟩ ⟨n,new,hn,hq,hb⟩
  exact ⟨n,new,hn,hq,(onResponse_spec texts d ack response).book hb⟩

end Response

end DelegateImpl

namespace Desk

open DelegateImpl

/-- The table of a worker whose queue was filled by an opening belongs to this queue: at every key
stands the resolver that was registered with the one request of that number. -/
def Matched (s : Desk DelegateImpl) : Prop :=
  s.stage ≠ .closed → ∀ sn r, s.listener.responseHandlers.lookup sn = some r → ∃ p text,
    s.enqueued.filter (fun e => e.1 = sn) = [(sn,p)] ∧
    p.typ = some PacketType.request.asNum ∧ p.sn = some sn ∧ p.body = some text ∧
    s.listener.answered.registered.filter (fun reg => reg.sn = sn) = [⟨sn,.ok text,r⟩]

/-- No request lost its resolver to another one. -/
def NoneReplaced (s : Desk DelegateImpl) : Prop := s.listener.answered.replaced = []

section Response
variable (texts : Texts) (s : Desk DelegateImpl) (ack : ℤ) (response : ServerResponse)

/-- The outcome of `on_response`, with the delegate after it. -/
def responded : Except Error Unit × DelegateImpl := (onResponse texts ack response).run s.listener

/-- It runs the resolver of the one request with the acknowledged number. -/
def RunsOne : Prop :=
  ∃ reg, s.listener.answered.registered.filter (fun reg => reg.sn = ack) = [reg] ∧
    (s.responded texts ack response).2.answered.ran = s.listener.answered.ran ++ [(ack,reg.resolver)]

/-- It runs no resolver. -/
def RunsNone : Prop :=
  (s.responded texts ack response).2.answered.ran = s.listener.answered.ran

/-- It fails. -/
def Fails : Prop := (s.responded texts ack response).1.isOk = false

/-- The response refuses the request: the resolver is dropped, and that is all. -/
def Refuses : Prop :=
  (response.status.getD default).code ≠ 0 ∧ (s.listener.responseHandlers.lookup ack).isSome ∧
    s.responded texts ack response = (.ok (),s.listener.taken ack)

end Response

/-- A response runs its resolver, or fails and runs none. -/
def RunsOrFails (texts : Texts) (s : Desk DelegateImpl) (m : DeskMove) : Prop :=
  ∀ p ack response, m = .response p ack response → s.stage = .opened →
    s.RunsOne texts ack response ∨ s.RunsNone texts ack response ∧ s.Fails texts ack response

/-- A response runs its resolver, or it runs none: it fails, or it refuses the request. -/
def RunsOrRefuses (texts : Texts) (s : Desk DelegateImpl) (m : DeskMove) : Prop :=
  ∀ p ack response, m = .response p ack response → s.stage = .opened →
    s.RunsOne texts ack response ∨ s.RunsNone texts ack response ∧
      (s.Fails texts ack response ∨ s.Refuses texts ack response)

/-- What holds of the desk at every moment, where heartbeats have a body of `Beat`. -/
structure Sound (Beat : String → Prop) (s : Desk DelegateImpl) : Prop where
  book : Book Beat s.acked (if s.stage = .closed then 3 else 0) s.listener s.xfer.tailSn s.enqueued
  queue : s.xfer.que <:+ s.enqueued
  few : s.stage ≠ .opened → s.enqueued.length ≤ 3

section Sound
variable {Beat : String → Prop} {texts : Texts} {s : Desk DelegateImpl}

@[simp] lemma acked_call (c : Call) (m : Prog (DelegateImpl × Xfer) Error Unit) :
    (s.call c m).acked = s.acked ++ c.acked.toList := by
  cases h : c.acked <;> simp [acked, call, List.filterMap_append, h]

/-- What was queued behind is the rest of the queue, and was queued last. -/
lemma call_holds {stale : ℤ} (h : Book Beat s.acked stale s.listener s.xfer.tailSn s.enqueued)
    (hq : s.xfer.que <:+ s.enqueued) {c : Call} {m : Prog (DelegateImpl × Xfer) Error Unit}
    (hm : ∀ base enq, Triple (Holds Beat s.acked stale base enq) m
      (fun _ => Holds Beat (s.acked ++ c.acked.toList) stale base enq)) :
    Book Beat (s.call c m).acked stale (s.call c m).listener (s.call c m).xfer.tailSn
        (s.call c m).enqueued ∧
      (s.call c m).xfer.que <:+ (s.call c m).enqueued := by
  obtain ⟨n,new,-,hnew,hb⟩ := hm s.xfer.que s.enqueued (s.listener,s.xfer)
    ⟨0,[],rfl,by simp,by simpa using h⟩
  have hadded : added s.xfer (m.run (s.listener,s.xfer)).2.2 = new := by
    rw [added, hnew, List.drop_left]
  obtain ⟨old,hold⟩ := hq
  refine ⟨?_,old,?_⟩
  · rw [acked_call]
    simp only [call, hadded]
    exact hb
  · simp only [call, hadded, hnew, ← List.append_assoc, hold]

/-- A call that hands over no response. -/
lemma holds_call {stale : ℤ} {base enq : List (ℤ × Packet)} {c : Call} (hc : c.acked = none)
    {m : Prog (DelegateImpl × Xfer) Error Unit} (hm : Keeps (Holds Beat s.acked stale base enq) m) :
    Triple (Holds Beat s.acked stale base enq) m
      (fun _ => Holds Beat (s.acked ++ c.acked.toList) stale base enq) := by
  rw [hc, Option.toList_none, List.append_nil]
  exact hm

lemma sound_new {d : DelegateImpl} (hh : d.responseHandlers = ∅)
    (hr : d.answered.registered = []) (hp : d.answered.replaced = []) : (new d).Sound Beat where
  book :=
    { sns := rfl
      tail_eq := rfl
      request := fun _ he => absurd he List.not_mem_nil
      registered := fun _ h => by simp [new, hr] at h
      apart := by simp [new, hr]
      table := fun _ _ h => by simp [new, hh] at h
      asked := fun _ he => absurd he List.not_mem_nil
      waiting := fun _ h => by simp [new, hr] at h
      replaced := hp }
  queue := List.suffix_refl _
  few _ := Nat.zero_le _

lemma Sound.opening (h : s.Sound Beat) (hs : s.stage ≠ .opened) :
    (s.opening (delegate texts)).Sound Beat := by
  have hlen : s.xfer.tailSn ≤ 3 := by
    have := h.few hs
    have := h.book.tail_eq
    omega
  obtain ⟨n,hn,hok,new,hnew,hq,hb⟩ := upTo_onOpening texts h.book (by split <;> omega) hlen
  have hadded : added Xfer.new ((onOpening texts).run (s.listener,Xfer.new)).2.2 = new := by
    rw [added, hq]
    rfl
  have hacked : (s.opening (delegate texts)).acked = s.acked := by
    simp [Desk.opening, acked, call, Call.acked]
  rw [List.nil_append] at hb hq
  have htail := hb.tail_eq
  have hqueue : (s.opening (delegate texts)).xfer.que <:+ (s.opening (delegate texts)).enqueued := by
    simp only [Desk.opening, call, delegate, hadded, hq, List.nil_append]
    exact List.suffix_refl _
  have hfew : (s.opening (delegate texts)).enqueued.length ≤ 3 := by
    simp only [Desk.opening, call, delegate, hadded, List.nil_append]
    omega
  refine ⟨?_,hqueue,fun _ => hfew⟩
  rw [hacked]
  by_cases hrun : ((onOpening texts).run (s.listener,Xfer.new)).1.isOk
  · simp only [Desk.opening, call, delegate, hadded, hrun, if_true, List.nil_append]
    refine hb.settled ?_
    have := hok hrun
    omega
  · simp only [Desk.opening, call, delegate, hadded, hrun, if_false, if_true, List.nil_append,
      Bool.false_eq_true]
    exact hb

lemma Sound.open_book (h : s.Sound Beat) (hs : s.stage ≠ .closed) :
    Book Beat s.acked 0 s.listener s.xfer.tailSn s.enqueued := by
  have hb := h.book
  rwa [if_neg hs] at hb

/-- A call of the delegate in an open session. -/
lemma Sound.call (h : s.Sound Beat) (hs : s.stage = .opened) {c : Call}
    {m : Prog (DelegateImpl × Xfer) Error Unit}
    (hm : ∀ base enq, Triple (Holds Beat s.acked 0 base enq) m
      (fun _ => Holds Beat (s.acked ++ c.acked.toList) 0 base enq)) :
    (s.call c m).Sound Beat := by
  obtain ⟨hb,hq⟩ := call_holds (h.open_book (by simp [hs])) h.queue hm
  have hstage : (s.call c m).stage = .opened := hs
  refine ⟨?_,hq,fun ho => absurd hs ho⟩
  rw [if_neg (by simp [hstage])]
  exact hb

/-- Sending leaves the queue and its numbers as they are. -/
lemma Sound.transfer (h : s.Sound Beat) {x : Xfer} (hque : x.que = s.xfer.que)
    (htail : x.tailSn = s.xfer.tailSn) : ({ s with xfer := x } : Desk DelegateImpl).Sound Beat where
  book := htail ▸ h.book
  queue := hque ▸ h.queue
  few := h.few

lemma Sound.step (h : s.Sound Beat) {m : DeskMove} (hbeat : m.Beats Beat) :
    (s.step (delegate texts) m).Sound Beat := by
  cases m with
  | opening =>
    by_cases hs : s.stage = .opened
    · simpa only [Desk.step, if_pos hs] using h
    · simpa only [Desk.step, if_neg hs] using h.opening hs
  | opened sessionId =>
    by_cases hs : s.stage = .prepared
    · simp only [Desk.step, if_pos hs]
      obtain ⟨hb,hq⟩ := call_holds (c := .onOpened sessionId) (h.open_book (by simp [hs])) h.queue
        fun _ _ => holds_call rfl (holds_onSelf fun _ => same_onOpened sessionId)
      exact ⟨hb,hq,fun ho => absurd rfl ho⟩
    · simpa only [Desk.step, if_neg hs] using h
  | process =>
    by_cases hs : s.stage = .opened
    · simp only [Desk.step, if_pos hs]
      exact h.call hs fun _ _ => holds_call rfl (holds_onProcess texts)
    · simpa only [Desk.step, if_neg hs] using h
  | response p ack response =>
    by_cases hs : s.stage = .opened
    · simp only [Desk.step, if_pos hs]
      exact h.call hs fun _ _ => holds_onResponse texts ack response
    · simpa only [Desk.step, if_neg hs] using h
  | push p push =>
    by_cases hs : s.stage = .opened
    · simp only [Desk.step, if_pos hs]
      exact h.call hs fun _ _ => holds_call rfl (holds_onSelf fun _ => same_onPush push)
    · simpa only [Desk.step, if_neg hs] using h
  | closed status =>
    refine ⟨?_,h.queue,h.few⟩
    have hacked : (s.closed (delegate texts) status).acked = s.acked := by
      simp [Desk.closed, acked, Call.acked]
    simp only [Desk.step, hacked]
    exact Same.book (same_onClosed status s.listener ⟨rfl,rfl⟩) h.book
  | heartbeat body =>
    by_cases hs : s.stage = .opened
    · simp only [Desk.step, if_pos hs]
      have hb := h.open_book (by simp [hs])
      obtain ⟨old,hold⟩ := h.queue
      refine ⟨?_,⟨old,?_⟩,fun ho => absurd hs ho⟩
      · simp only [heartbeat, added, Xfer.addQos1Json_ok, List.drop_left, hs]
        exact hb.enqueue ⟨rfl,rfl⟩ rfl hbeat
      · simp only [heartbeat, added, Xfer.addQos1Json_ok, List.drop_left, ← List.append_assoc, hold]
    · simpa only [Desk.step, if_neg hs] using h
  | numbers ack sn =>
    by_cases hs : s.stage = .opened
    · simp only [Desk.step, if_pos hs]
      refine ⟨?_,(Xfer.takeNumbers_que_suffix ack sn s.xfer).trans h.queue,h.few⟩
      have hb := h.book
      rw [← Xfer.takeNumbers_tailSn s.xfer ack sn] at hb
      exact hb
    · simpa only [Desk.step, if_neg hs] using h
  | flush c =>
    obtain ⟨hque,-,htail,-⟩ := Xfer.flushXfer_fields c s.xfer
    exact h.transfer hque htail
  | flushAck c =>
    obtain ⟨hque,-,htail,-⟩ := Xfer.checkSendAck_fields c s.xfer
    rw [← Xfer.flushXferAck_eq_checkSendAck] at hque htail
    exact h.transfer hque htail

lemma Sound.matched (h : s.Sound Beat) : s.Matched := by
  intro hs sn r hl
  have hb := h.open_book hs
  rcases hb.table sn r hl with ⟨reg,hr,rfl,rfl⟩ | hstale
  · obtain ⟨p,text,hp,hbody,htext⟩ := hb.registered reg hr
    have hnodup : (s.enqueued.map Prod.fst).Nodup := hb.sns ▸ numbers_nodup _ _
    obtain ⟨htyp,hsn⟩ := hb.request _ hp
    refine ⟨p,text,filter_key hnodup hp,htyp,hsn,htext,?_⟩
    rw [filter_key hb.apart hr, ← hbody]
  · have := hb.tail_eq
    omega

lemma Sound.runs (h : s.Sound Beat) (m : DeskMove) : RunsOrRefuses texts s m := by
  rintro p ack response - hs
  have hb := h.open_book (by simp [hs])
  have hspec := onResponse_spec texts s.listener ack response
  unfold RunsOne RunsNone Fails Refuses responded
  generalize (onResponse texts ack response).run s.listener = r at hspec
  cases hspec with
  | unknown e h => exact Or.inr ⟨rfl,Or.inl rfl⟩
  | refused resolver h hc => exact Or.inr ⟨rfl,Or.inr ⟨hc,by simp [h],rfl⟩⟩
  | empty e => exact Or.inr ⟨rfl,Or.inl rfl⟩
  | ran r d' resolver hl ha ht =>
    rcases hb.table ack resolver hl with ⟨reg,hr,rfl,rfl⟩ | hstale
    · exact Or.inl ⟨reg,filter_key hb.apart hr,by rw [ha]⟩
    · have := hb.tail_eq
      omega

end Sound

/-- The desk of a worker whose delegate was not called yet. -/
def fresh (answers callbacks : ℕ → Except Error Unit) (arrivals : ℕ → List DelegateImpl.Op)
    (iters : ℕ → IterOrder) : Desk DelegateImpl := new (.new answers callbacks arrivals iters)

lemma sound_fresh (answers callbacks : ℕ → Except Error Unit) (arrivals : ℕ → List DelegateImpl.Op)
    (iters : ℕ → IterOrder) (Beat : String → Prop) : (fresh answers callbacks arrivals iters).Sound Beat :=
  sound_new rfl rfl rfl

end Desk

section Run

open DelegateImpl (delegate)

variable (texts : Texts) (serde : Serde) (fuel : ℕ) (config : JoinConfig)
  (answers callbacks : ℕ → Except Error Unit) (arrivals : ℕ → List DelegateImpl.Op) (iters : ℕ → IterOrder)
  (now : ℕ) (waits : List (ℕ × Wait)) (modes : ℕ → ShutdownMode) (drops : ℕ → Bool)

/-- The worker with `DelegateImpl` runs as a desk does, with the same calls of the delegate and the
same queue of the session. At every moment of such a run the table belongs to the current queue, of
which the transfer queue is the end, and no request has lost its resolver. A response runs its
resolver, or it runs none and fails or is refused by its status. An operation that fails leaves no
packet and no resolver. -/
theorem Task.responses_matched :
    (∃ moves,
      (Machine.run (Desk.step (delegate texts)) (Desk.fresh answers callbacks arrivals iters) moves).listener =
        ((Task.run (delegate texts) serde fuel).run (Task.new config
          (DelegateImpl.new answers callbacks arrivals iters) now waits modes drops)).2.listener ∧
      (Machine.run (Desk.step (delegate texts)) (Desk.fresh answers callbacks arrivals iters) moves).calls =
        ((Task.run (delegate texts) serde fuel).run (Task.new config
          (DelegateImpl.new answers callbacks arrivals iters) now waits modes drops)).2.env.calls ∧
      ∀ x, Task.lastQueue (delegate texts) serde fuel (Task.new config
          (DelegateImpl.new answers callbacks arrivals iters) now waits modes drops) = some x →
        (Machine.run (Desk.step (delegate texts)) (Desk.fresh answers callbacks arrivals iters)
          moves).stage = .opened ∧
        (Machine.run (Desk.step (delegate texts)) (Desk.fresh answers callbacks arrivals iters)
          moves).xfer = x) ∧
    (∀ moves,
      Always (Desk.step (delegate texts))
        (fun s => s.Matched ∧ s.NoneReplaced ∧ s.xfer.que <:+ s.enqueued)
        (Desk.fresh answers callbacks arrivals iters) moves ∧
      EveryStep (Desk.step (delegate texts)) (Desk.RunsOrRefuses texts)
        (Desk.fresh answers callbacks arrivals iters) moves) ∧
    ∀ op s e, ((DelegateImpl.processOp texts op).run s).1 = .error e →
      ((DelegateImpl.processOp texts op).run s).2.1.responseHandlers = s.1.responseHandlers ∧
      ((DelegateImpl.processOp texts op).run s).2.2.que = s.2.que ∧
      ((DelegateImpl.processOp texts op).run s).2.2.tailSn = s.2.tailSn := by
  refine ⟨?_,fun moves => ⟨?_,?_⟩,fun op s e he => ?_⟩
  · obtain ⟨s,⟨moves,-,rfl⟩,hl,hc,hx⟩ := Task.run_served (delegate texts)
      (DelegateImpl.new answers callbacks arrivals iters) serde fuel config now waits modes drops
    exact ⟨moves,hl,hc,hx⟩
  · exact always_of_step (fun s m h => h.step m.beats_any)
      (fun s h => ⟨h.matched,h.book.replaced,h.queue⟩)
      (Desk.sound_fresh answers callbacks arrivals iters _) moves
  · exact everyStep_of_step (fun s m h => h.step m.beats_any) (fun s m h => h.runs m)
      (Desk.sound_fresh answers callbacks arrivals iters _) moves
  · obtain ⟨hd,hq,ht⟩ := DelegateImpl.processOp_clean texts op s e he
    exact ⟨congrArg _ hd,hq,ht⟩

end Run

namespace Desk

open DelegateImpl (delegate)

def sampleDesk : Desk DelegateImpl :=
  fresh (fun _ => .ok ()) (fun _ => .ok ()) (fun _ => []) fun _ => Room.mapOrder

/-- A response with the status 500 to the first request of an opening. -/
def refusedResponse : DeskMove := .response ⟨some 4,none,none,some 1⟩ 1 ⟨some ⟨500,"no"⟩,none⟩

/-- A response that the server marks as failed is only logged: nothing fails, and nothing is run. -/
theorem refused_response_runs_none : ¬ EveryStep (step (delegate .blank))
    (RunsOrFails .blank) sampleDesk [.opening,.opened "s",refusedResponse] := by
  rintro ⟨-,-,h,-⟩
  rcases h _ _ _ rfl (by decide) with ⟨reg,-,hran⟩ | ⟨-,hfails⟩
  · have hnone : ((Machine.run (step (delegate .blank)) sampleDesk [.opening,.opened "s"]).responded
        .blank 1 ⟨some ⟨500,"no"⟩,none⟩).2.answered.ran = [] := by decide
    rw [run_cons, run_cons, run_nil] at hnone
    rw [hnone] at hran
    exact absurd hran (by simp)
  · have hok : ((Machine.run (step (delegate .blank)) sampleDesk [.opening,.opened "s"]).responded
        .blank 1 ⟨some ⟨500,"no"⟩,none⟩).1.isOk = true := by decide
    exact absurd (hok.symm.trans hfails) (by decide)

end Desk
end VvClient
