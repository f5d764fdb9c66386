import VvClient.Client.Close
import VvClient.Client.Waits

/-! What the worker hands to its delegate: every packet that it takes in and that is meant for
the delegate, as often as it takes it in. -/
namespace VvClient

/-- The packet that a call hands over. -/
def Call.packet? : Call → Option Packet
  | .onResponse p _ _ => some p
  | .onPush p _ => some p
  | _ => none

/-- The packet that `phase_work` has taken in. -/
def Heard.work? : Heard → Option Packet
  | .work p => some p
  | _ => none

namespace Packet

def isPush (p : Packet) : Prop :=
  p.typ? = some .push0 ∨ p.typ? = some .push1 ∨ p.typ? = some .push2

instance (p : Packet) : Decidable p.isPush := by unfold isPush; infer_instance

/-- The packet is meant for the delegate: a push that is not Closed, or a response to another
request than a heartbeat. -/
def reaches (serde : Serde) (p : Packet) : Bool :=
  if p.typ? = some .response then
    match p.ack,p.parseAsServerRsp serde with
    | some _,.ok response => response.typ ≠ some .hb
    | _,_ => false
  else if p.isPush then
    match p.parseAsServerPush serde with
    | .ok (.closed _) => false
    | .ok _ => true
    | .error _ => false
  else false

/-- The sequence numbers of some packets. -/
def sns (ps : List Packet) : List ℤ := ps.filterMap sn?

end Packet

namespace Task

variable {δ : Type} (serde : Serde)

/-- The packets handed to the delegate. -/
def delivered (t : Task δ) : List Packet := t.env.calls.filterMap fun c => c.1.packet?

/-- The packets that `phase_work` has received. -/
def taken (t : Task δ) : List Packet := t.env.heard.filterMap Heard.work?

/-- The delegate was handed what it is meant to get of the packets received, in order. -/
def Level (t : Task δ) : Prop := t.delivered = t.taken.filter (Packet.reaches serde)

/-- No sequence number is handed over twice, so no repeated response makes the delegate fail. -/
structure OncePerSn (t : Task δ) : Prop where
  once : (Packet.sns t.delivered).Nodup
  noFailure : ∀ calls rest p ack response n,
    t.env.calls = calls ++ (.onResponse p ack response,false)::rest → p.sn? = some n →
      n ∉ Packet.sns (calls.filterMap fun c => c.1.packet?)

variable {serde}

open Prog

lemma Level.of_eq {t t' : Task δ} (h : t.Level serde) (hc : t'.env.calls = t.env.calls)
    (hh : t'.env.heard = t.env.heard) : t'.Level serde := by
  unfold Level delivered taken
  rw [hc, hh]
  exact h

section Basic
variable (serde)

lemma level_hear {h : Heard} (hw : h.work? = none) : Keeps (Level (δ := δ) serde) (hear h) := by
  intro t ht
  simpa [hear, Level, delivered, taken, hw] using ht

/-- Waiting hands nothing over and takes no packet in. -/
lemma level_aside : Aside (Level (δ := δ) serde) where
  same := fun _ _ _ hc hh h => h.of_eq hc hh
  hear := fun h hw => level_hear serde (by
    cases h with
    | work p => exact absurd rfl (hw p)
    | _ => rfl)

lemma level_call {α : Type} {c : Call} (hc : c.packet? = none) (m : Prog δ Error α) :
    Keeps (Level serde) (call c m) := by
  intro t h
  simpa [call, Level, delivered, taken, hc] using h

end Basic

section Phases
variable (serde) (d : Delegate δ) (fuel : ℕ)

lemma level_phaseOpen : Keeps (Level serde) (phaseOpen d serde fuel) :=
  (level_aside serde).resting.phaseOpen serde fuel d (level_call serde rfl)
    (fun _ => level_hear serde rfl) fun _ => level_call serde rfl

/-- The invariant of a task with its session. -/
abbrev Levels (s : Task δ × Session) : Prop := s.1.Level serde

lemma levels_onTask {α : Type} {m : Prog (Task δ) Stop α} (hm : Keeps (Level serde) m) :
    Keeps (Levels serde) (onTask m) := Keeps.zoom hm (fun _ h => h) (fun _ _ _ h => h)

lemma levels_onSession {α : Type} (m : Prog Session Stop α) :
    Keeps (Levels (δ := δ) serde) (onSession m) := fun _ h => h

lemma levels_callWith {c : Call} (hc : c.packet? = none) (m : Prog (δ × Xfer) Error Unit) :
    Keeps (Levels serde) (callWith c m) := by
  intro s h
  simpa [callWith, Levels, Level, delivered, taken, hc] using h

/-- A packet is taken in that the delegate was not handed yet. -/
def Ahead (p : Packet) (s : Task δ × Session) : Prop :=
  s.1.delivered ++ (if p.reaches serde then [p] else []) = s.1.taken.filter (Packet.reaches serde)

lemma Ahead.level {p : Packet} {s : Task δ × Session} (h : Ahead serde p s)
    (hp : p.reaches serde = false) : Levels serde s := by
  rw [Ahead, hp, if_neg Bool.false_ne_true, List.append_nil] at h
  exact h

lemma Ahead.hear {p : Packet} {s : Task δ × Session} (h : Levels serde s) :
    Ahead serde p ((onTask (hear (.work p))).run s).2 := by
  have htaken : ((Task.hear (.work p)).run s.1).2.taken = s.1.taken ++ [p] := by
    simp [Task.hear, taken, Heard.work?]
  have hdelivered : ((Task.hear (.work p)).run s.1).2.delivered = s.1.delivered := rfl
  simp only [Ahead, onTask, run_zoom]
  rw [htaken, hdelivered, List.filter_append, ← (show s.1.delivered = _ from h)]
  by_cases hr : p.reaches serde <;> simp [hr]

lemma Ahead.callWith {p : Packet} {s : Task δ × Session} (h : Ahead serde p s)
    (hp : p.reaches serde = true) {c : Call} (hc : c.packet? = some p)
    (m : Prog (δ × Xfer) Error Unit) : Levels serde ((callWith c m).run s).2 := by
  have hd : ((Task.callWith c m).run s).2.1.delivered = s.1.delivered ++ [p] := by
    simp [Task.callWith, delivered, hc]
  have ht : ((Task.callWith c m).run s).2.1.taken = s.1.taken := rfl
  rw [Levels, Level, hd, ht]
  simpa [Ahead, hp] using h

/-- The call that hands the packet over ends its dispatch. -/
lemma Ahead.dispatched {p : Packet} {s : Task δ × Session} (h : Ahead serde p s)
    (hp : p.reaches serde = true) {c : Call} (hc : c.packet? = some p)
    (m : Prog (δ × Xfer) Error Unit) :
    Levels serde (((do
      Task.callWith c m
      return none : Prog (Task δ × Session) Stop (Option Unit))).run s).2 := by
  have hl := h.callWith serde hp hc m
  rw [run_bind]
  rcases hr : (Task.callWith c m).run s with ⟨r,s'⟩
  rw [hr] at hl
  cases r with
  | ok _ => exact hl
  | error e => exact hl

lemma levels_gotClosedPush (status : Option Status) :
    Keeps (Levels (δ := δ) serde) (gotClosedPush status) :=
  Keeps.bind (Keeps.catching (levels_onSession serde _)) fun _ =>
    Keeps.bind (Keeps.catching (levels_onSession serde _)) fun _ =>
      levels_onTask serde (Keeps.modify fun _ h => h.of_eq rfl rfl)

lemma dispatchResponse_level {p : Packet} (ht : p.typ? = some .response) {s : Task δ × Session}
    (h : Ahead serde p s) : Levels serde ((dispatchResponse d serde p).run s).2 := by
  unfold dispatchResponse
  cases ha : p.ack with
  | none => exact h.level serde (by simp [Packet.reaches, ht, ha])
  | some ack =>
    simp only [run_ok_bind]
    cases hx : p.parseAsServerRsp serde with
    | error e => exact h.level serde (by simp [Packet.reaches, ht, ha, hx])
    | ok typed =>
      simp only [Except.mapError, run_ok_bind]
      by_cases hb : typed.typ = some .hb
      · have hl := h.level serde (by simp [Packet.reaches, ht, ha, hx, hb])
        have hne := Session.tryHandleHeartbeatResponse_hb ack s.2 hb
        rw [run_bind]
        simp only [onSession, run_zoom, run_mapError]
        cases hr : ((Session.tryHandleHeartbeatResponse ack typed).run s.2).1 with
        | error e => exact hl
        | ok b =>
          cases b with
          | true => exact hl
          | false => exact absurd hr hne
      · have hother : (onSession (δ := δ) (Prog.mapError Stop.err
            (Session.tryHandleHeartbeatResponse ack typed))).run s = (.ok false,s) := by
          simp [onSession, Session.tryHandleHeartbeatResponse_other ack s.2 hb, Except.mapError]
        rw [run_bind_ok hother]
        refine h.dispatched serde (by simp [Packet.reaches, ht, ha, hx, hb]) ?_ _
        rfl

lemma dispatchPush_level {p : Packet} (hp : p.isPush) {s : Task δ × Session} (h : Ahead serde p s) :
    Levels serde ((dispatchPush d serde p).run s).2 := by
  have ht : p.typ? ≠ some .response := by
    intro ht
    simp [Packet.isPush, ht] at hp
  unfold dispatchPush
  cases hx : p.parseAsServerPush serde with
  | error e => exact h.level serde (by simp [Packet.reaches, ht, hp, hx])
  | ok push =>
    simp only [Except.mapError, run_ok_bind]
    cases push with
    | closed status =>
      have hl := h.level serde (by simp [Packet.reaches, ht, hp, hx])
      exact Keeps.bind (levels_gotClosedPush serde _) (fun _ => Keeps.pure _) s hl
    | _ =>
      have hr : p.reaches serde = true := by simp [Packet.reaches, ht, hp, hx]
      refine h.dispatched serde hr ?_ _
      rfl

/-- The packet is handed over, if it is meant for the delegate, and then all is level again. -/
lemma dispatch_level (p : Packet) {s : Task δ × Session} (h : Ahead serde p s) :
    Levels serde ((dispatch d serde p).run s).2 := by
  unfold dispatch
  cases ht : p.typ? with
  | none => exact h.level serde (by simp [Packet.reaches, Packet.isPush, ht])
  | some typ =>
    cases typ with
    | request => exact h.level serde (by simp [Packet.reaches, Packet.isPush, ht])
    | response => exact dispatchResponse_level serde d ht h
    | push0 => exact dispatchPush_level serde d (by simp [Packet.isPush, ht]) h
    | push1 => exact dispatchPush_level serde d (by simp [Packet.isPush, ht]) h
    | push2 => exact dispatchPush_level serde d (by simp [Packet.isPush, ht]) h

lemma phaseWork_level : Keeps (Levels serde) (phaseWork d serde fuel) := by
  refine Keeps.loop (Keeps.bind (Keeps.withContext _ ?_) fun _ => ?_) fuel
  · exact Keeps.bind (Keeps.withContext _ (levels_callWith serde rfl _)) fun _ =>
      levels_onSession serde _
  refine Keeps.get_bind fun s => Keeps.get_bind fun s' => Keeps.bind (keeps_orTick
    (Keeps.withContext _ (levels_onTask serde ((level_aside serde).resting.recvPacket serde _ fuel)))
    fun _ _ h => h.of_eq rfl rfl) fun r => ?_
  match r with
  | none =>
    exact Keeps.get_bind fun s => Keeps.bind (levels_onSession serde _) fun _ => Keeps.pure _
  | some none =>
    refine Keeps.bind (levels_onTask serde ((level_aside serde).resting.shouldBreak _)) fun b => ?_
    cases b with
    | true => exact Keeps.pure _
    | false => exact Keeps.pure _
  | some (some p) => exact fun s h => dispatch_level serde d p (Ahead.hear (p := p) serde h)

lemma reconnectSession_level (conn : Conn) : Keeps (Levels (δ := δ) serde)
    (reconnectSession serde fuel conn) := by
  refine Keeps.bind (levels_onTask serde (Keeps.modify fun _ h => h.of_eq rfl rfl)) fun _ => ?_
  refine Keeps.get_bind fun s => ?_
  refine Keeps.bind (levels_onTask serde (Keeps.withContext _ fun _ h => h)) fun conn => ?_
  refine Keeps.loop (Keeps.bind (levels_onTask serde (Keeps.withContext _
    ((level_aside serde).resting.recvPacket serde _ fuel))) fun r => ?_) fuel
  cases r with
  | none =>
    refine Keeps.bind (levels_onTask serde ((level_aside serde).resting.shouldBreak _)) fun b => ?_
    cases b with
    | true => exact Keeps.fail _
    | false => exact Keeps.pure _
  | some packet =>
    refine Keeps.bind (levels_onTask serde (level_hear serde rfl)) fun _ => ?_
    refine Keeps.bind (Keeps.withContext _ (Keeps.ofExcept _)) fun connId => ?_
    refine Keeps.bind (levels_onSession serde _) fun _ => Keeps.get_bind fun s => ?_
    refine Keeps.bind (levels_onSession serde _) fun _ => ?_
    refine Keeps.bind (levels_onTask serde (Keeps.modify fun _ h => h.of_eq rfl rfl)) fun _ => ?_
    exact Keeps.bind (levels_onSession serde _) fun _ => Keeps.pure _

lemma level_atWork : KeptAtWork d serde fuel (Levels serde) where
  work := phaseWork_level serde d fuel
  attempt := reconnectSession_level serde fuel
  connect := levels_onTask serde ((level_aside serde).resting.connectLoop serde _ fuel)
  mode := levels_onTask serde ((level_aside serde).resting.shouldBreak _)
  sleep t := levels_onTask serde ((level_aside serde).resting.sleep _ fuel t)
  closed := levels_onTask serde (level_aside serde).resting.isClosed
  thrown _ := levels_onTask serde (level_hear serde rfl)

lemma tryRun_level : Keeps (Level serde) (tryRun d serde fuel) :=
  Keeps.bind (level_phaseOpen serde d fuel) fun _ =>
    Keeps.zoom (level_atWork serde d fuel).workLoop (fun _ h => h) (fun _ _ _ h => h)

lemma run_level : Keeps (Level serde) (run d serde fuel) := by
  refine Keeps.bind (Keeps.catching (tryRun_level serde d fuel)) fun r => ?_
  refine Keeps.bind ?_ fun status =>
    Keeps.bind (Keeps.catching (level_call serde rfl _)) fun _ => Keeps.pure _
  cases r with
  | ok _ => exact Keeps.pure _
  | error e =>
    refine Keeps.get_bind fun t => ?_
    cases t.gotClosed with
    | none => exact Keeps.pure _
    | some status => exact Keeps.bind (Keeps.modify fun _ h => h.of_eq rfl rfl) fun _ => Keeps.pure _

end Phases

section Runs
variable (serde) (d : Delegate δ) (fuel : ℕ)

/-- A failed call for a repeated response is a repeated number. -/
lemma oncePerSn_iff_nodup (t : Task δ) : t.OncePerSn ↔ (Packet.sns t.delivered).Nodup := by
  constructor
  · exact fun h => h.once
  · intro h
    refine ⟨h,?_⟩
    intro calls rest p ack response n hc hn hmem
    have hd : t.delivered = (calls.filterMap fun c => c.1.packet?) ++
        p::(rest.filterMap fun c => c.1.packet?) := by
      simp [delivered, hc, Call.packet?]
    rw [hd, Packet.sns, List.filterMap_append, List.filterMap_cons_some hn] at h
    exact (List.nodup_append.mp h).2.2 n hmem n (by simp) rfl

/-- Whole runs, at every moment: nothing is handed over twice exactly when no two of the packets
received that are meant for the delegate have the same number. -/
theorem oncePerSn_iff (config : JoinConfig) (listener : δ) (now : ℕ) (waits : List (ℕ × Wait))
    (modes : ℕ → ShutdownMode) (drops : ℕ → Bool) :
    ((run d serde fuel).run (Task.new config listener now waits modes drops)).2.OncePerSn ↔
      (Packet.sns (((run d serde fuel).run (Task.new config listener now waits modes
        drops)).2.taken.filter (Packet.reaches serde))).Nodup := by
  have hnew : (Task.new config listener now waits modes drops).Level serde := rfl
  have hlevel := run_level serde d fuel _ hnew
  rw [oncePerSn_iff_nodup, show _ = _ from hlevel]

end Runs

section Repeat

/-- The server pushes a chat. The acknowledgement is lost with the connection, so the server pushes
the chat again on the next one. -/
def chatTwice : List (ℕ × Wait) :=
  [(0,.connected fun _ => .sent),(0,.text "opened"),(1,.text "chat"),
    (1,.recvFailed (.msg "connection reset")),(0,.connected fun _ => .sent),(1,.text "reconn"),
    (1,.text "chat")]

theorem chat_delivered_twice :
    Packet.sns ((run silent sampleSerde 9).run (sampleTask chatTwice)).2.delivered = [1,1] ∧
      ¬ ((run silent sampleSerde 9).run (sampleTask chatTwice)).2.OncePerSn := by
  refine ⟨by decide,?_⟩
  intro h
  exact absurd h.once (by decide)

end Repeat

end Task
end VvClient
