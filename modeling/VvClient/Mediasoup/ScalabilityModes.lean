import VvClient.Lib.Json
import VvClient.Lib.Outcome
import VvClient.Lib.Pattern
import VvClient.Lib.Radix

/-! The scalability modes of an encoding: their names, and the layers that a name stands for. -/
namespace VvClient.Mediasoup

open Json Radix

abbrev NonZeroU8 := NonZero 256

inductive ScalabilityMode
  | none
  | l1t2
  | l1t2h
  | l1t3
  | l1t3h
  | l2t1
  | l2t1h
  | l2t1Key
  | l2t2
  | l2t2h
  | l2t2Key
  | l2t2KeyShift
  | l2t3
  | l2t3h
  | l2t3Key
  | l2t3KeyShift
  | l3t1
  | l3t1h
  | l3t1Key
  | l3t2
  | l3t2h
  | l3t2Key
  | l3t2KeyShift
  | l3t3
  | l3t3h
  | l3t3Key
  | l3t3KeyShift
  | s2t1
  | s2t1h
  | s2t2
  | s2t2h
  | s2t3
  | s2t3h
  | s3t1
  | s3t1h
  | s3t2
  | s3t2h
  | s3t3
  | s3t3h
  | custom (scalabilityMode : String) (spatialLayers temporalLayers : NonZeroU8) (ksvc : Bool)
  deriving DecidableEq

inductive ParseScalabilityModeError
  | invalidInput
  deriving DecidableEq

namespace ScalabilityMode

/-- `[1-9][0-9]?` -/
def layerPattern : Pattern := .seq (.oneOf [('1','9')]) (.opt (.oneOf [('0','9')]))

/-- `^[LS]([1-9][0-9]?)T([1-9][0-9]?)(_KEY)?` -/
def scalabilityModeRegex : Pattern :=
  .seq (.oneOf [('L','L'),('S','S')]) (.seq (.group 1 layerPattern) (.seq (.text ['T'])
    (.seq (.group 2 layerPattern) (.opt (.group 3 (.text ['_','K','E','Y']))))))

/-- `captures.get(index).unwrap().as_str().parse().unwrap()` -/
def layersOf (index : ℕ) (captures : Pattern.Groups) : Outcome ParseScalabilityModeError NonZeroU8 := do
  let text ← Outcome.unwrap (Pattern.get index captures)
  Outcome.unwrap (parseNonZero 256 text).toOption

/-- The last arm of `from_str`. -/
def fromRegex (s : String) : Outcome ParseScalabilityModeError ScalabilityMode := do
  let captures ← Outcome.okOr .invalidInput (scalabilityModeRegex.captures s.toList)
  let spatialLayers ← layersOf 1 captures
  let temporalLayers ← layersOf 2 captures
  return .custom s spatialLayers temporalLayers (Pattern.get 3 captures).isSome

def fromStr : String → Outcome ParseScalabilityModeError ScalabilityMode
  | "S1T1" => .ok .none
  | "L1T2" => .ok .l1t2
  | "L1T2h" => .ok .l1t2h
  | "L1T3" => .ok .l1t3
  | "L1T3h" => .ok .l1t3h
  | "L2T1" => .ok .l2t1
  | "L2T1h" => .ok .l2t1h
  | "L2T1_KEY" => .ok .l2t1Key
  | "L2T2" => .ok .l2t2
  | "L2T2h" => .ok .l2t2h
  | "L2T2_KEY" => .ok .l2t2Key
  | "L2T2_KEY_SHIFT" => .ok .l2t2KeyShift
  | "L2T3" => .ok .l2t3
  | "L2T3h" => .ok .l2t3h
  | "L2T3_KEY" => .ok .l2t3Key
  | "L2T3_KEY_SHIFT" => .ok .l2t3KeyShift
  | "L3T1" => .ok .l3t1
  | "L3T1h" => .ok .l3t1h
  | "L3T1_KEY" => .ok .l3t1Key
  | "L3T2" => .ok .l3t2
  | "L3T2h" => .ok .l3t2h
  | "L3T2_KEY" => .ok .l3t2Key
  | "L3T2_KEY_SHIFT" => .ok .l3t2KeyShift
  | "L3T3" => .ok .l3t3
  | "L3T3h" => .ok .l3t3h
  | "L3T3_KEY" => .ok .l3t3Key
  | "L3T3_KEY_SHIFT" => .ok .l3t3KeyShift
  | "S2T1" => .ok .s2t1
  | "S2T1h" => .ok .s2t1h
  | "S2T2" => .ok .s2t2
  | "S2T2h" => .ok .s2t2h
  | "S2T3" => .ok .s2t3
  | "S2T3h" => .ok .s2t3h
  | "S3T1" => .ok .s3t1
  | "S3T1h" => .ok .s3t1h
  | "S3T2" => .ok .s3t2
  | "S3T2h" => .ok .s3t2h
  | "S3T3" => .ok .s3t3
  | "S3T3h" => .ok .s3t3h
  | s => fromRegex s

def isNone : ScalabilityMode → Bool
  | .none => true
  | _ => false

def one : NonZeroU8 := ⟨1,by decide,by decide⟩
def two : NonZeroU8 := ⟨2,by decide,by decide⟩
def three : NonZeroU8 := ⟨3,by decide,by decide⟩

def spatialLayers : ScalabilityMode → NonZeroU8
  | .none | .l1t2 | .l1t2h | .l1t3 | .l1t3h => one
  | .l2t1 | .l2t1h | .l2t1Key | .l2t2 | .l2t2h | .l2t2Key | .l2t2KeyShift | .l2t3 | .l2t3h |
    .l2t3Key | .l2t3KeyShift | .s2t1 | .s2t1h | .s2t2 | .s2t2h | .s2t3 | .s2t3h => two
  | .l3t1 | .l3t1h | .l3t1Key | .l3t2 | .l3t2h | .l3t2Key | .l3t2KeyShift | .l3t3 | .l3t3h |
    .l3t3Key | .l3t3KeyShift | .s3t1 | .s3t1h | .s3t2 | .s3t2h | .s3t3 | .s3t3h => three
  | .custom _ spatialLayers _ _ => spatialLayers

def temporalLayers : ScalabilityMode → NonZeroU8
  | .none | .l2t1 | .l2t1h | .l2t1Key | .l3t1 | .l3t1h | .l3t1Key | .s2t1 | .s2t1h | .s3t1 |
    .s3t1h => one
  | .l1t2 | .l1t2h | .l2t2 | .l2t2h | .l2t2Key | .l2t2KeyShift | .l3t2 | .l3t2h | .l3t2Key |
    .l3t2KeyShift | .s2t2 | .s2t2h | .s3t2 | .s3t2h => two
  | .l1t3 | .l1t3h | .l2t3 | .l2t3h | .l2t3Key | .l2t3KeyShift | .l3t3 | .l3t3h | .l3t3Key |
    .l3t3KeyShift | .s2t3 | .s2t3h | .s3t3 | .s3t3h => three
  | .custom _ _ temporalLayers _ => temporalLayers

def ksvc : ScalabilityMode → Bool
  | .l2t2Key | .l2t2KeyShift | .l2t3Key | .l2t3KeyShift | .l3t1Key | .l3t2Key | .l3t2KeyShift |
    .l3t3Key | .l3t3KeyShift => true
  | .custom _ _ _ ksvc => ksvc
  | _ => false

def asStr : ScalabilityMode → String
  | .none => "S1T1"
  | .l1t2 => "L1T2"
  | .l1t2h => "L1T2h"
  | .l1t3 => "L1T3"
  | .l1t3h => "L1T3h"
  | .l2t1 => "L2T1"
  | .l2t1h => "L2T1h"
  | .l2t1Key => "L2T1_KEY"
  | .l2t2 => "L2T2"
  | .l2t2h => "L2T2h"
  | .l2t2Key => "L2T2_KEY"
  | .l2t2KeyShift => "L2T2_KEY_SHIFT"
  | .l2t3 => "L2T3"
  | .l2t3h => "L2T3h"
  | .l2t3Key => "L2T3_KEY"
  | .l2t3KeyShift => "L2T3_KEY_SHIFT"
  | .l3t1 => "L3T1"
  | .l3t1h => "L3T1h"
  | .l3t1Key => "L3T1_KEY"
  | .l3t2 => "L3T2"
  | .l3t2h => "L3T2h"
  | .l3t2Key => "L3T2_KEY"
  | .l3t2KeyShift => "L3T2_KEY_SHIFT"
  | .l3t3 => "L3T3"
  | .l3t3h => "L3T3h"
  | .l3t3Key => "L3T3_KEY"
  | .l3t3KeyShift => "L3T3_KEY_SHIFT"
  | .s2t1 => "S2T1"
  | .s2t1h => "S2T1h"
  | .s2t2 => "S2T2"
  | .s2t2h => "S2T2h"
  | .s2t3 => "S2T3"
  | .s2t3h => "S2T3h"
  | .s3t1 => "S3T1"
  | .s3t1h => "S3T1h"
  | .s3t2 => "S3T2"
  | .s3t2h => "S3T2h"
  | .s3t3 => "S3T3"
  | .s3t3h => "S3T3h"
  | .custom scalabilityMode _ _ _ => scalabilityMode

/-- The modes with a name of their own. -/
def named : List ScalabilityMode :=
  [.none,.l1t2,.l1t2h,.l1t3,.l1t3h,.l2t1,.l2t1h,.l2t1Key,.l2t2,.l2t2h,.l2t2Key,.l2t2KeyShift,
    .l2t3,.l2t3h,.l2t3Key,.l2t3KeyShift,.l3t1,.l3t1h,.l3t1Key,.l3t2,.l3t2h,.l3t2Key,.l3t2KeyShift,
    .l3t3,.l3t3h,.l3t3Key,.l3t3KeyShift,.s2t1,.s2t1h,.s2t2,.s2t2h,.s2t3,.s2t3h,.s3t1,.s3t1h,.s3t2,
    .s3t2h,.s3t3,.s3t3h]

lemma fromStr_named : ∀ m ∈ named, fromStr m.asStr = .ok m := by decide +kernel

lemma fromStr_cases (s : String) :
    (∃ m ∈ named, m.asStr = s ∧ fromStr s = .ok m) ∨ fromStr s = fromRegex s := by
  unfold fromStr
  split
  case h_40 => exact .inr rfl
  all_goals exact .inl ⟨_,by decide,rfl,rfl⟩

lemma mem_named (m : ScalabilityMode) : m ∈ named ∨ ∃ s a b k, m = .custom s a b k := by
  cases m with
  | custom s a b k => exact .inr ⟨s,a,b,k,rfl⟩
  | _ => exact .inl (by decide)

/-- A name is also read as a mode with the same layers; of its `ksvc` it says the same but for
`L2T1_KEY`. -/
lemma fromRegex_named : ∀ m ∈ named, fromRegex m.asStr =
    .ok (.custom m.asStr m.spatialLayers m.temporalLayers (m.ksvc || m = .l2t1Key)) := by
  decide +kernel

section Layers

/-- The decimal text of a number below 100. -/
def numeral (n : ℕ) : List Char :=
  if n < 10 then [upperDigit n] else [upperDigit (n/10),upperDigit (n%10)]

/-- What the name of a mode says: its numbers of layers, and whether `_KEY` comes behind them. -/
def Layered (s : String) (spatial temporal : ℕ) (key : Bool) : Prop :=
  ∃ l rest, (l = 'L' ∨ l = 'S') ∧ s.toList = l :: (numeral spatial ++ 'T' :: (numeral temporal ++ rest)) ∧
    (0 < spatial ∧ spatial < 100) ∧ (0 < temporal ∧ temporal < 100) ∧
    (temporal < 10 → ∀ c ∈ rest.head?, Pattern.inRanges [('0','9')] c = false) ∧
    key = decide (['_','K','E','Y'] <+: rest)

lemma char_of_toNat {c : Char} {n : ℕ} (h : c.toNat = n) : c = Char.ofNat n := by
  rw [← h, Char.ofNat_toNat]

lemma digit_of_inRanges {c : Char} (h : Pattern.inRanges [('0','9')] c) : ∃ d < 10, c = upperDigit d := by
  have hrange : '0' ≤ c ∧ c ≤ '9' := by simpa [Pattern.inRanges] using h
  have hlow : 48 ≤ c.toNat := hrange.1
  have hhigh : c.toNat ≤ 57 := hrange.2
  refine ⟨c.toNat-48,by omega,?_⟩
  rw [upperDigit, if_pos (by omega)]
  exact char_of_toNat (by omega)

lemma positive_of_inRanges {c : Char} (h : Pattern.inRanges [('1','9')] c) :
    ∃ d, 0 < d ∧ d < 10 ∧ c = upperDigit d := by
  have hrange : '1' ≤ c ∧ c ≤ '9' := by simpa [Pattern.inRanges] using h
  have hlow : 49 ≤ c.toNat := hrange.1
  have hhigh : c.toNat ≤ 57 := hrange.2
  refine ⟨c.toNat-48,by omega,by omega,?_⟩
  rw [upperDigit, if_pos (by omega)]
  exact char_of_toNat (by omega)

lemma upperDigit_inRanges : ∀ d < 10, Pattern.inRanges [('0','9')] (upperDigit d) ∧
    (0 < d → Pattern.inRanges [('1','9')] (upperDigit d)) := by decide

/-- The texts of a layer are the numerals from 1 to 99. -/
lemma matches_layer {t : List Char} {g : Pattern.Groups} (h : layerPattern.Matches t g) :
    g = [] ∧ ∃ n, 0 < n ∧ n < 100 ∧ t = numeral n := by
  cases h with
  | seq hp hq =>
    cases hp with
    | oneOf hc =>
      obtain ⟨d,hd,hd10,rfl⟩ := positive_of_inRanges hc
      cases hq with
      | absent => exact ⟨rfl,d,hd,by omega,by simp [numeral, hd10]⟩
      | present hq =>
        cases hq with
        | oneOf he =>
          obtain ⟨e,he10,rfl⟩ := digit_of_inRanges he
          refine ⟨rfl,10*d+e,by omega,by omega,?_⟩
          rw [numeral, if_neg (by omega), show (10*d+e)/10 = d by omega, show (10*d+e)%10 = e by omega]
          rfl

/-- A layer is read to its last digit. -/
lemma first_layer {n : ℕ} (hpos : 0 < n) (hlt : n < 100) {rest : List Char}
    (h : n < 10 → ∀ c ∈ rest.head?, Pattern.inRanges [('0','9')] c = false) :
    layerPattern.first (numeral n ++ rest) = some ([],rest) := by
  by_cases hn : n < 10
  · have hnone : (Pattern.oneOf [('0','9')]).first rest = Option.none := by
      cases rest with
      | nil => rfl
      | cons c cs => simp [Pattern.first, Pattern.runs, h hn c rfl]
    rw [numeral, if_pos hn]
    exact Pattern.first_seq (Pattern.first_oneOf ((upperDigit_inRanges n hn).2 hpos))
      (Pattern.first_opt_absent hnone)
  · rw [numeral, if_neg hn]
    exact Pattern.first_seq (Pattern.first_oneOf ((upperDigit_inRanges (n/10) (by omega)).2 (by omega)))
      (Pattern.first_opt (Pattern.first_oneOf (upperDigit_inRanges (n%10) (by omega)).1))

/-- The groups of a name with these layers. -/
def groups (spatial temporal : ℕ) (key : Bool) : Pattern.Groups :=
  [(1,numeral spatial),(2,numeral temporal)] ++ if key then [(3,['_','K','E','Y'])] else []

lemma first_key (rest : List Char) :
    ∃ more, (Pattern.opt (.group 3 (.text ['_','K','E','Y']))).first rest =
      some (if ['_','K','E','Y'] <+: rest then [(3,['_','K','E','Y'])] else [],more) := by
  by_cases h : ['_','K','E','Y'] <+: rest
  · obtain ⟨more,rfl⟩ := h
    refine ⟨more,?_⟩
    rw [if_pos (List.prefix_append _ more)]
    exact Pattern.first_opt (Pattern.first_group 3 (Pattern.first_text _))
  · refine ⟨rest,?_⟩
    rw [if_neg h]
    apply Pattern.first_opt_absent
    rw [Pattern.first_eq_none]
    intro t g ht
    cases ht with
    | group ht =>
      cases ht
      exact h

lemma captures_of_layered {s : String} {spatial temporal : ℕ} {key : Bool}
    (h : Layered s spatial temporal key) :
    scalabilityModeRegex.captures s.toList = some (groups spatial temporal key) := by
  obtain ⟨l,rest,hl,hs,⟨hspatial,hspatial100⟩,⟨htemporal,htemporal100⟩,hlast,rfl⟩ := h
  obtain ⟨more,hkey⟩ := first_key rest
  have hletter : Pattern.inRanges [('L','L'),('S','S')] l := by
    rcases hl with rfl | rfl <;> decide
  have hsep : spatial < 10 → ∀ c ∈ ('T' :: (numeral temporal ++ rest)).head?,
      Pattern.inRanges [('0','9')] c = false := by
    rintro - c hc
    obtain rfl : c = 'T' := by simpa using hc.symm
    decide
  have hfirst := Pattern.first_seq (Pattern.first_oneOf hletter)
    (Pattern.first_seq (Pattern.first_group 1 (first_layer hspatial hspatial100 hsep))
      (Pattern.first_seq (Pattern.first_text ['T'])
        (Pattern.first_seq (Pattern.first_group 2 (first_layer htemporal htemporal100 hlast)) hkey)))
  have hcaptures := congrArg (Option.map Prod.fst) hfirst
  rw [hs]
  refine hcaptures.trans ?_
  by_cases h : ['_','K','E','Y'] <+: rest <;> simp [groups, h]

/-- The last numeral may be read to its last digit. -/
lemma maximal_numeral {n : ℕ} (hpos : 0 < n) (hlt : n < 100) (rest : List Char) :
    ∃ m more, (0 < m ∧ m < 100) ∧ numeral n ++ rest = numeral m ++ more ∧
      (m < 10 → ∀ c ∈ more.head?, Pattern.inRanges [('0','9')] c = false) := by
  by_cases hn : n < 10
  · cases rest with
    | nil => exact ⟨n,[],⟨hpos,hlt⟩,rfl,fun _ c hc => by cases hc⟩
    | cons c cs =>
      cases hc : Pattern.inRanges [('0','9')] c with
      | false =>
        refine ⟨n,c::cs,⟨hpos,hlt⟩,rfl,fun _ d hd => ?_⟩
        obtain rfl : d = c := by simpa using hd.symm
        exact hc
      | true =>
        obtain ⟨d,hd,rfl⟩ := digit_of_inRanges hc
        refine ⟨10*n+d,cs,⟨by omega,by omega⟩,?_,fun h => by omega⟩
        rw [numeral, numeral, if_pos hn, if_neg (by omega), show (10*n+d)/10 = n by omega,
          show (10*n+d)%10 = d by omega]
        rfl
  · exact ⟨n,rest,⟨hpos,hlt⟩,rfl,fun h => absurd h hn⟩

lemma layered_of_captures {s : String} {g : Pattern.Groups}
    (h : scalabilityModeRegex.captures s.toList = some g) :
    ∃ spatial temporal key, Layered s spatial temporal key ∧ g = groups spatial temporal key := by
  obtain ⟨t,rest,ht,hs⟩ := Pattern.matches_of_captures h
  suffices hlayered : ∃ spatial temporal key, Layered s spatial temporal key by
    obtain ⟨spatial,temporal,key,hl⟩ := hlayered
    exact ⟨spatial,temporal,key,hl,Option.some.inj (h.symm.trans (captures_of_layered hl))⟩
  cases ht with
  | seq hletter ht =>
  cases hletter with
  | @oneOf _ l hletter =>
  cases ht with
  | seq hspatial ht =>
  cases hspatial with
  | group hspatial =>
  obtain ⟨-,spatial,hspatial0,hspatial100,rfl⟩ := matches_layer hspatial
  cases ht with
  | seq hsep ht =>
  cases hsep
  cases ht with
  | @seq _ _ _ u _ _ htemporal hkey =>
  cases htemporal with
  | group htemporal =>
  obtain ⟨-,temporal,hpos,hlt,rfl⟩ := matches_layer htemporal
  obtain ⟨m,more,hm,heq,hlast⟩ := maximal_numeral hpos hlt (u ++ rest)
  have hl : l = 'L' ∨ l = 'S' := by
    have hrange : ('L' ≤ l ∧ l ≤ 'L') ∨ ('S' ≤ l ∧ l ≤ 'S') := by
      simpa [Pattern.inRanges] using hletter
    exact hrange.imp (fun h => Char.le_antisymm h.2 h.1) fun h => Char.le_antisymm h.2 h.1
  refine ⟨spatial,m,_,l,more,hl,?_,⟨hspatial0,hspatial100⟩,hm,hlast,rfl⟩
  rw [hs, ← heq]
  simp

end Layers

section Names

lemma parse_numeral {n : ℕ} (hpos : 0 < n) (hlt : n < 100) :
    ∃ k : NonZeroU8, parseNonZero 256 (numeral n) = .ok k ∧ k.val = n := by
  have hall : ∀ n < 100, 0 < n →
      (parseNonZero 256 (numeral n)).toOption.map NonZero.val = some n := by decide +kernel
  have h := hall n hlt hpos
  cases hparse : parseNonZero 256 (numeral n) with
  | error e => simp [hparse, Except.toOption] at h
  | ok k => exact ⟨k,rfl,by simpa [hparse, Except.toOption] using h⟩

/-- What the last arm of `from_str` makes of a name. -/
lemma fromRegex_layered {s : String} {spatial temporal : ℕ} {key : Bool}
    (h : Layered s spatial temporal key) :
    ∃ a b : NonZeroU8, fromRegex s = .ok (.custom s a b key) ∧ a.val = spatial ∧ b.val = temporal := by
  have hcaptures := captures_of_layered h
  obtain ⟨-,-,-,-,hspatial,htemporal,-,-⟩ := h
  obtain ⟨a,ha,rfl⟩ := parse_numeral hspatial.1 hspatial.2
  obtain ⟨b,hb,rfl⟩ := parse_numeral htemporal.1 htemporal.2
  refine ⟨a,b,?_,rfl,rfl⟩
  cases key <;> simp [fromRegex, hcaptures, layersOf, groups, Pattern.get, Outcome.okOr,
    Outcome.unwrap, ha, hb, Except.toOption, List.lookup_cons]

lemma fromRegex_unlayered {s : String} (h : ¬ ∃ spatial temporal key, Layered s spatial temporal key) :
    fromRegex s = .err .invalidInput := by
  cases hcaptures : scalabilityModeRegex.captures s.toList with
  | none => simp [fromRegex, hcaptures, Outcome.okOr]
  | some g =>
    obtain ⟨spatial,temporal,key,hl,-⟩ := layered_of_captures hcaptures
    exact absurd ⟨spatial,temporal,key,hl⟩ h

lemma layered_of_fromRegex {s : String} {m : ScalabilityMode} (h : fromRegex s = .ok m) :
    ∃ a b key, m = .custom s a b key ∧ Layered s a.val b.val key := by
  by_cases hlayered : ∃ spatial temporal key, Layered s spatial temporal key
  · obtain ⟨_,_,key,hl⟩ := hlayered
    obtain ⟨a,b,hread,rfl,rfl⟩ := fromRegex_layered hl
    rw [hread] at h
    exact ⟨a,b,key,(Outcome.ok.inj h).symm,hl⟩
  · rw [fromRegex_unlayered hlayered] at h
    cases h

/-- A mode that its own name is read as. -/
def Canonical (m : ScalabilityMode) : Prop := fromStr m.asStr = .ok m

/-- What is read from a name keeps the name, and has the layers that the name says. It is K-SVC where
`_KEY` says so, but for the name `L2T1_KEY`. A mode of its own goes before a custom one. -/
lemma fromStr_eq_ok {s : String} {m : ScalabilityMode} : fromStr s = .ok m ↔
    m.asStr = s ∧ (m ∉ named → s ∉ named.map asStr) ∧
      ∃ key, Layered s m.spatialLayers.val m.temporalLayers.val key ∧
        m.ksvc = (key && s ≠ "L2T1_KEY") := by
  constructor
  · intro h
    rcases fromStr_cases s with ⟨m',hm',hs,hread⟩ | hread
    · obtain rfl : m' = m := Outcome.ok.inj (hread.symm.trans h)
      obtain ⟨a,b,key,hcustom,hl⟩ := layered_of_fromRegex (fromRegex_named m' hm')
      obtain ⟨-,rfl,rfl,rfl⟩ := ScalabilityMode.custom.inj hcustom
      have hksvc : ∀ m ∈ named,
          m.ksvc = ((m.ksvc || m = .l2t1Key) && m.asStr ≠ "L2T1_KEY") := by decide +kernel
      rw [← hs]
      exact ⟨rfl,fun hnot => absurd hm' hnot,_,hl,hksvc m' hm'⟩
    · obtain ⟨a,b,key,rfl,hl⟩ := layered_of_fromRegex (hread.symm.trans h)
      have hname : s ∉ named.map asStr := by
        intro hmem
        obtain ⟨m',hm',rfl⟩ := List.mem_map.mp hmem
        rw [fromStr_named m' hm'] at h
        rw [Outcome.ok.inj h] at hm'
        simp [named] at hm'
      have hkey : s ≠ "L2T1_KEY" := fun hs => hname (by rw [hs]; decide)
      exact ⟨rfl,fun _ => hname,key,hl,by simp [ksvc, hkey]⟩
  · rintro ⟨rfl,hname,key,hl,hksvc⟩
    rcases mem_named m with hm | ⟨s,a,b,k,rfl⟩
    · exact fromStr_named m hm
    · have hnot := hname (by simp [named])
      have hread : fromStr s = fromRegex s := by
        rcases fromStr_cases s with ⟨m',hm',hs,-⟩ | hread
        · exact absurd (List.mem_map.mpr ⟨m',hm',hs⟩) hnot
        · exact hread
      obtain ⟨a',b',hregex,ha,hb⟩ := fromRegex_layered hl
      have hkey : s ≠ "L2T1_KEY" := fun hs => hnot (by rw [asStr, hs]; decide)
      have hlayers : a' = a ∧ b' = b :=
        ⟨NonZero.ext ha,NonZero.ext hb⟩
      rw [asStr, hread]
      refine hregex.trans ?_
      simp only [ksvc, asStr, hkey, ne_eq, not_false_eq_true, decide_true, Bool.and_true] at hksvc
      rw [hlayers.1, hlayers.2, hksvc, asStr]

/-- Every other text is refused. -/
lemma fromStr_eq_err {s : String} :
    fromStr s = .err .invalidInput ↔ ¬ ∃ spatial temporal key, Layered s spatial temporal key := by
  constructor
  · rintro h ⟨spatial,temporal,key,hl⟩
    rcases fromStr_cases s with ⟨m,-,-,hread⟩ | hread
    · rw [h] at hread
      cases hread
    · obtain ⟨a,b,hregex,-⟩ := fromRegex_layered hl
      rw [hread, hregex] at h
      cases h
  · intro h
    rcases fromStr_cases s with ⟨m,-,-,hread⟩ | hread
    · obtain ⟨-,-,key,hl,-⟩ := fromStr_eq_ok.mp hread
      exact absurd ⟨_,_,key,hl⟩ h
    · rw [hread, fromRegex_unlayered h]

lemma fromStr_not_panicked (s : String) : fromStr s ≠ .panicked := by
  by_cases h : ∃ spatial temporal key, Layered s spatial temporal key
  · obtain ⟨spatial,temporal,key,hl⟩ := h
    rcases fromStr_cases s with ⟨m,-,-,hread⟩ | hread
    · simp [hread]
    · obtain ⟨a,b,hregex,-⟩ := fromRegex_layered hl
      simp [hread, hregex]
  · simp [fromStr_eq_err.mpr h]

/-- `from_str` on every text: it reads the modes that keep the text as their name and have the layers
that it says, refuses every text that says none, and never panics. -/
theorem fromStr_exact (s : String) :
    (∀ m, fromStr s = .ok m ↔ m.asStr = s ∧ (m ∉ named → s ∉ named.map asStr) ∧
      ∃ key, Layered s m.spatialLayers.val m.temporalLayers.val key ∧
        m.ksvc = (key && s ≠ "L2T1_KEY")) ∧
    (fromStr s = .err .invalidInput ↔ ¬ ∃ spatial temporal key, Layered s spatial temporal key) ∧
    fromStr s ≠ .panicked :=
  ⟨fun _ => fromStr_eq_ok,fromStr_eq_err,fromStr_not_panicked s⟩

end Names

section Serde

def serialize (m : ScalabilityMode) : Json := .str m.asStr

def deserialize (j : Json) : Option ScalabilityMode := (toStr j).bind fun s => (fromStr s).value

lemma canonical_of_fromStr {s : String} {m : ScalabilityMode} (h : fromStr s = .ok m) :
    m.Canonical := by
  rw [Canonical, (fromStr_eq_ok.mp h).1, h]

lemma deserialize_serialize_iff {m : ScalabilityMode} :
    deserialize m.serialize = some m ↔ m.Canonical := by
  simp [deserialize, serialize, Canonical]

lemma canonical_of_deserialize {j : Json} {m : ScalabilityMode} (h : deserialize j = some m) :
    m.Canonical := by
  obtain ⟨s,-,hs⟩ := Option.bind_eq_some_iff.mp h
  exact canonical_of_fromStr (Outcome.value_eq_some.mp hs)

end Serde

end ScalabilityMode
end VvClient.Mediasoup
