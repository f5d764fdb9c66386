import Mathlib.Data.List.Forall2
import VvClient.Mediasoup.Fingerprint

/-! The parameters of a DTLS transport. -/
namespace VvClient.Mediasoup

open Json

inductive DtlsRole
  | auto
  | client
  | server
  deriving DecidableEq

namespace DtlsRole

def serialize : DtlsRole → Json
  | auto => .str "auto"
  | client => .str "client"
  | server => .str "server"

def deserialize (j : Json) : Outcome DeError DtlsRole := do
  match ← Outcome.okOr .invalidType (toUnitVariant j) with
  | "auto" => .ok auto
  | "client" => .ok client
  | "server" => .ok server
  | other => .err (.unknownVariant other)

@[simp] theorem read (v : DtlsRole) : deserialize v.serialize = .ok v := by cases v <;> rfl

end DtlsRole

structure DtlsParameters where
  role : DtlsRole
  fingerprints : List DtlsFingerprint
  deriving DecidableEq

namespace DtlsParameters

def serialize (v : DtlsParameters) : Json :=
  .obj (field "role" v.role.serialize ++
    field "fingerprints" (ofList DtlsFingerprint.serialize v.fingerprints))

def roleSlot : Slot (Option DtlsRole) := .once "role" DtlsRole.deserialize

def deserializeFingerprints (j : Json) : Outcome DeError (List DtlsFingerprint) := do
  let items ← Outcome.okOr .invalidType (toItems j)
  items.mapM DtlsFingerprint.deserialize

def fingerprintsSlot : Slot (Option (List DtlsFingerprint)) :=
  .once "fingerprints" deserializeFingerprints

def visitMap (fields : Fields) : Outcome DeError DtlsParameters := do
  let s ← fields.foldlM (visitTwo false roleSlot fingerprintsSlot) (none,none)
  let role ← Outcome.okOr (.missingField "role") s.1
  let fingerprints ← Outcome.okOr (.missingField "fingerprints") s.2
  return ⟨role,fingerprints⟩

def visitSeq (items : List Json) : Outcome DeError DtlsParameters := do
  let (role,items) ← nextElement items
  let role ← DtlsRole.deserialize role
  let (fingerprints,items) ← nextElement items
  let fingerprints ← deserializeFingerprints fingerprints
  endSeq items
  return ⟨role,fingerprints⟩

def deserialize : Json → Outcome DeError DtlsParameters
  | .obj fields => visitMap fields
  | .arr items => visitSeq items
  | _ => .err .invalidType

/-- The items spell the fingerprints. -/
def Fingerprints (items : List Json) (fingerprints : List DtlsFingerprint) : Prop :=
  List.Forall₂ (fun j f => DtlsFingerprint.deserialize j = .ok f) items fingerprints

lemma deserializeFingerprints_eq_ok {j : Json} {fingerprints : List DtlsFingerprint} :
    deserializeFingerprints j = .ok fingerprints ↔
      ∃ items, j = .arr items ∧ Fingerprints items fingerprints := by
  rw [deserializeFingerprints, Outcome.bind_eq_ok]
  constructor
  · rintro ⟨items,hitems,hread⟩
    cases j with
    | arr items' =>
      obtain rfl : items' = items := Option.some.inj (Outcome.okOr_eq_ok.mp hitems)
      exact ⟨items',rfl,Outcome.mapM_eq_ok.mp hread⟩
    | _ => cases hitems
  · rintro ⟨items,rfl,hread⟩
    exact ⟨items,rfl,Outcome.mapM_eq_ok.mpr hread⟩

lemma visitMap_eq_ok {fields : Fields} {v : DtlsParameters} : visitMap fields = .ok v ↔
    ∃ role items, DtlsRole.deserialize role = .ok v.role ∧ Fingerprints items v.fingerprints ∧
      values "role" fields = [role] ∧ values "fingerprints" fields = [.arr items] := by
  have hloop : ∀ role fingerprints,
      fields.foldlM (visitTwo false roleSlot fingerprintsSlot) (none,none) =
        .ok (some role,some fingerprints) ↔
      (∃ j, values "role" fields = [j] ∧ DtlsRole.deserialize j = .ok role) ∧
        ∃ j, values "fingerprints" fields = [j] ∧ deserializeFingerprints j = .ok fingerprints := by
    intro role fingerprints
    rw [foldlM_visitTwo (by decide), roleSlot, fingerprintsSlot, Slot.once_settles, Slot.once_settles]
    simp [Slot.once]
  constructor
  · intro h
    obtain ⟨⟨r,f⟩,hs,h⟩ := Outcome.bind_eq_ok.mp h
    obtain ⟨role,hr,h⟩ := Outcome.bind_eq_ok.mp h
    obtain ⟨fingerprints,hf,h⟩ := Outcome.bind_eq_ok.mp h
    obtain rfl : r = some role := Outcome.okOr_eq_ok.mp hr
    obtain rfl : f = some fingerprints := Outcome.okOr_eq_ok.mp hf
    obtain rfl := Outcome.ok.inj h
    obtain ⟨⟨j,hj,hrole⟩,k,hk,hfingerprints⟩ := (hloop _ _).mp hs
    obtain ⟨items,rfl,hitems⟩ := deserializeFingerprints_eq_ok.mp hfingerprints
    exact ⟨j,items,hrole,hitems,hj,hk⟩
  · rintro ⟨role,items,hrole,hitems,hj,hk⟩
    have hfingerprints := deserializeFingerprints_eq_ok.mpr ⟨items,rfl,hitems⟩
    rw [visitMap, (hloop _ _).mpr ⟨⟨role,hj,hrole⟩,_,hk,hfingerprints⟩]
    rfl

lemma visitSeq_eq_ok {items : List Json} {v : DtlsParameters} : visitSeq items = .ok v ↔
    ∃ role fingerprints, DtlsRole.deserialize role = .ok v.role ∧
      Fingerprints fingerprints v.fingerprints ∧ items = [role,.arr fingerprints] := by
  constructor
  · intro h
    obtain ⟨⟨r,items⟩,hr,h⟩ := Outcome.bind_eq_ok.mp h
    obtain ⟨role,hrole,h⟩ := Outcome.bind_eq_ok.mp h
    obtain ⟨⟨f,items⟩,hf,h⟩ := Outcome.bind_eq_ok.mp h
    obtain ⟨fingerprints,hread,h⟩ := Outcome.bind_eq_ok.mp h
    obtain ⟨_,hend,h⟩ := Outcome.bind_eq_ok.mp h
    obtain rfl := Outcome.ok.inj h
    obtain ⟨fs,rfl,hfs⟩ := deserializeFingerprints_eq_ok.mp hread
    refine ⟨r,fs,hrole,hfs,?_⟩
    rw [nextElement_eq_ok.mp hr, nextElement_eq_ok.mp hf, endSeq_eq_ok.mp hend]
  · rintro ⟨role,fs,hrole,hfs,rfl⟩
    have hfingerprints := deserializeFingerprints_eq_ok.mpr ⟨fs,rfl,hfs⟩
    simp [visitSeq, nextElement, hrole, hfingerprints, endSeq]

/-- Parameters are read from an object that has each of the two fields once, whatever else it has, and
from an array of just the two. -/
theorem deserialize_exact {j : Json} {v : DtlsParameters} : deserialize j = .ok v ↔
    ∃ role fingerprints, DtlsRole.deserialize role = .ok v.role ∧
      Fingerprints fingerprints v.fingerprints ∧
      (j = .arr [role,.arr fingerprints] ∨ ∃ fields, j = .obj fields ∧
        values "role" fields = [role] ∧ values "fingerprints" fields = [.arr fingerprints]) := by
  cases j with
  | obj fields => simp [deserialize, visitMap_eq_ok]
  | arr items => simp [deserialize, visitSeq_eq_ok]
  | _ => simp [deserialize]

/-- Parameters are read as they were written. -/
theorem deserialize_serialize (v : DtlsParameters) : deserialize v.serialize = .ok v := by
  have hitems : Fingerprints (v.fingerprints.map DtlsFingerprint.serialize) v.fingerprints := by
    rw [Fingerprints, List.forall₂_map_left_iff, List.forall₂_same]
    exact fun f _ => DtlsFingerprint.deserialize_serialize f
  exact visitMap_eq_ok.mpr ⟨_,_,DtlsRole.read v.role,hitems,by simp,by simp [ofList]⟩

def codec : Codec DtlsParameters := ⟨serialize,fun j => (deserialize j).value⟩

theorem codec_lawful : codec.Lawful :=
  ⟨fun v => Outcome.value_eq_some.mpr (deserialize_serialize v),fun _ => Json.noConfusion⟩

end DtlsParameters
end VvClient.Mediasoup
