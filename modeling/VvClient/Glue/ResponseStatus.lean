import VvClient.Glue.Delegate

/-! How the four readers of a server's response judge its status: the two that parse the answers of
an opening and of a reconnect, the delegate, and the heartbeat. -/
namespace VvClient

open Prog

/-- The same response without its status. -/
def ServerResponse.plain (rsp : ServerResponse) : ServerResponse := { rsp with status := none }

/-- The reader to which every body is this response. -/
def Serde.reading (serde : Serde) (rsp : ServerResponse) : Serde :=
  { serde with serverRsp := fun _ => some rsp }

/-- A packet with a response in its body. -/
structure Packet.Carries (p : Packet) (serde : Serde) (rsp : ServerResponse) : Prop where
  typ : p.typ? = some .response
  body : p.body.bind serde.serverRsp = some rsp

section Judge
variable (serde : Serde) (texts : Texts) (p : Packet) (rsp : ServerResponse)

/-- The status has no effect, in any of the four places. -/
structure LikeNone : Prop where
  openSession : parseOpenResponsePacket serde p = parseOpenResponsePacket (serde.reading rsp.plain) p
  reconnect :
    parseReconnectResponsePacket serde p = parseReconnectResponsePacket (serde.reading rsp.plain) p
  onResponse : ∀ ack d,
    (DelegateImpl.onResponse texts ack rsp).run d = (DelegateImpl.onResponse texts ack rsp.plain).run d
  heartbeat : ∀ ack s, (Session.tryHandleHeartbeatResponse ack rsp).run s =
    (Session.tryHandleHeartbeatResponse ack rsp.plain).run s

/-- The response is a failure, in each of the four places: the delegate runs no resolver for it. -/
structure JudgedFailed : Prop where
  openSession : (parseOpenResponsePacket serde p).isOk = false
  reconnect : (parseReconnectResponsePacket serde p).isOk = false
  onResponse : ∀ ack d,
    ((DelegateImpl.onResponse texts ack rsp).run d).2.answered.ran = d.answered.ran
  heartbeat : rsp.typ = some .hb → ∀ ack s,
    ((Session.tryHandleHeartbeatResponse ack rsp).run s).1.isOk = false

/-- A status of code zero is no status, any other status is a failure, and so the parsers succeed
exactly for their own type of response without a failure. -/
structure JudgedAlike : Prop where
  zero : ∀ status, rsp.status = some status → status.code = 0 → LikeNone serde texts p rsp
  nonzero : ∀ status, rsp.status = some status → status.code ≠ 0 → JudgedFailed serde texts p rsp
  opens : (parseOpenResponsePacket serde p).isOk = true ↔
    (rsp.status.getD default).code = 0 ∧ ∃ sessionId connId, rsp.typ = some (.opened sessionId connId)
  resumes : (parseReconnectResponsePacket serde p).isOk = true ↔
    (rsp.status.getD default).code = 0 ∧ ∃ connId, rsp.typ = some (.reconn connId)

end Judge

section Readers
variable {serde : Serde} {texts : Texts} {p : Packet} {rsp : ServerResponse}

/-- What the two parsers make of the response in a packet. -/
lemma Packet.Carries.exists_body (h : p.Carries serde rsp) :
    ∃ body, p.body = some body ∧ serde.serverRsp body = some rsp :=
  Option.bind_eq_some_iff.mp h.body

lemma Packet.Carries.reading (h : p.Carries serde rsp) : p.Carries (serde.reading rsp.plain) rsp.plain := by
  obtain ⟨body,hb,-⟩ := h.exists_body
  exact ⟨h.typ,by simp [hb, Serde.reading]⟩

lemma parseOpen_of_status (h : p.Carries serde rsp) {status : Status} (hs : rsp.status = some status) :
    parseOpenResponsePacket serde p =
      .error ((Error.ofStatus status).context "open response status") := by
  obtain ⟨body,hb,hr⟩ := h.exists_body
  simp only [parseOpenResponsePacket, h.typ, ne_eq, not_true_eq_false, if_false, hb, hr, hs]

lemma parseOpen_of_none (h : p.Carries serde rsp) (hs : rsp.status = none) :
    (parseOpenResponsePacket serde p).isOk = true ↔
      ∃ sessionId connId, rsp.typ = some (.opened sessionId connId) := by
  obtain ⟨body,hb,hr⟩ := h.exists_body
  simp only [parseOpenResponsePacket, h.typ, ne_eq, not_true_eq_false, if_false, hb, hr, hs]
  cases rsp.typ with
  | none => simp [Except.isOk, Except.toBool]
  | some typ => cases typ <;> simp [Except.isOk, Except.toBool]

/-- The error for a response without status names none. -/
lemma parseOpen_error_of_none (h : p.Carries serde rsp) (hs : rsp.status = none) {e : Error}
    (he : parseOpenResponsePacket serde p = .error e) : e.status = none := by
  obtain ⟨body,hb,hr⟩ := h.exists_body
  simp only [parseOpenResponsePacket, h.typ, ne_eq, not_true_eq_false, if_false, hb, hr, hs] at he
  cases ht : rsp.typ with
  | none =>
    simp only [ht] at he
    cases he
    rfl
  | some typ => cases typ <;> simp only [ht] at he <;> cases he <;> rfl

lemma parseReconnect_isOk (h : p.Carries serde rsp) :
    (parseReconnectResponsePacket serde p).isOk = true ↔
      (rsp.status.getD default).code = 0 ∧ ∃ connId, rsp.typ = some (.reconn connId) := by
  obtain ⟨body,hb,hr⟩ := h.exists_body
  simp only [parseReconnectResponsePacket, h.typ, ne_eq, not_true_eq_false, if_false, hb, hr]
  by_cases hc : (rsp.status.getD default).code = 0
  · simp only [hc, not_true_eq_false, if_false, true_and]
    cases rsp.typ with
    | none => simp [Except.isOk, Except.toBool]
    | some typ => cases typ <;> simp [Except.isOk, Except.toBool]
  · simp [hc, Except.isOk, Except.toBool]

/-- A failed response runs nothing. -/
lemma onResponse_of_code {ack : ℤ} (d : DelegateImpl) (hc : (rsp.status.getD default).code ≠ 0) :
    ((DelegateImpl.onResponse texts ack rsp).run d).2.answered.ran = d.answered.ran := by
  cases hl : d.responseHandlers.lookup ack with
  | none =>
    simp only [DelegateImpl.onResponse, DelegateImpl.orFail, run_get_bind, hl, run_error_bind]
  | some resolver =>
    simp only [DelegateImpl.onResponse, DelegateImpl.orFail, run_get_bind, hl, run_ok_bind,
      run_modify_bind, DelegateImpl.answer, if_pos hc, run_pure]

lemma tryHandle_of_code {ack : ℤ} (s : Session) (ht : rsp.typ = some .hb)
    (hc : (rsp.status.getD default).code ≠ 0) :
    ((Session.tryHandleHeartbeatResponse ack rsp).run s).1.isOk = false := by
  simp [Session.tryHandleHeartbeatResponse, ht, hc, Except.isOk, Except.toBool]

lemma judgedFailed (h : p.Carries serde rsp) {status : Status} (hs : rsp.status = some status)
    (hc : status.code ≠ 0) : JudgedFailed serde texts p rsp := by
  have hcode : (rsp.status.getD default).code ≠ 0 := by rw [hs]; exact hc
  refine ⟨?_,?_,fun ack d => onResponse_of_code d hcode,fun ht ack s => tryHandle_of_code s ht hcode⟩
  · rw [parseOpen_of_status h hs]
    rfl
  · rw [← Bool.not_eq_true, parseReconnect_isOk h]
    exact fun hok => hcode hok.1

/-- The four readers judge the status of a response alike exactly when it is no explicit status of
code zero, which the parser of the opening takes for a failure. -/
theorem judgedAlike_iff (serde : Serde) (texts : Texts) (p : Packet) (rsp : ServerResponse)
    (h : p.Carries serde rsp) : JudgedAlike serde texts p rsp ↔
      ∀ status, rsp.status = some status → status.code ≠ 0 := by
  constructor
  · intro hj status hs hc
    have hopen := (hj.zero status hs hc).openSession
    rw [parseOpen_of_status h hs] at hopen
    have hnone := parseOpen_error_of_none h.reading rfl hopen.symm
    cases hnone
  · intro hcode
    refine ⟨fun status hs hc => absurd hc (hcode status hs),fun status hs hc => judgedFailed h hs hc,
      ?_,parseReconnect_isOk h⟩
    cases hs : rsp.status with
    | none =>
      rw [parseOpen_of_none h hs]
      simp
    | some status =>
      rw [parseOpen_of_status h hs]
      simp [Except.isOk, Except.toBool, hcode status hs]

end Readers

section Sample

/-- A reader to which every body is the answer to an opening, with this status. -/
def openReader (status : Option Status) : Serde :=
  ⟨fun _ => none,fun _ => some ⟨status,some (.opened "s" "c")⟩,fun _ => none,fun _ => "",
    "",fun _ => ""⟩

def sampleResponse : Packet := ⟨some 4,none,some "",none⟩

theorem judgedAlike_iff_without_status : JudgedAlike (openReader none) .blank sampleResponse
      ⟨none,some (.opened "s" "c")⟩ ↔
    ∀ status, (⟨none,some (.opened "s" "c")⟩ : ServerResponse).status = some status → status.code ≠ 0 :=
  judgedAlike_iff (openReader none) .blank sampleResponse ⟨none,some (.opened "s" "c")⟩
    ⟨by decide,rfl⟩

/-- A server that answers an opening with an explicit status of code zero. -/
theorem ok_status_fails_opening : (parseOpenResponsePacket (openReader (some ⟨0,"ok"⟩))
      sampleResponse).isOk = false ∧
    ¬ JudgedAlike (openReader (some ⟨0,"ok"⟩)) .blank sampleResponse
      ⟨some ⟨0,"ok"⟩,some (.opened "s" "c")⟩ := by
  have hfails : (parseOpenResponsePacket (openReader (some ⟨0,"ok"⟩)) sampleResponse).isOk = false := by
    decide
  refine ⟨hfails,fun h => ?_⟩
  have hok := h.opens.mpr ⟨rfl,"s","c",rfl⟩
  rw [hfails] at hok
  cases hok

end Sample
end VvClient
