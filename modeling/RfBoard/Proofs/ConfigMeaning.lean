import RfBoard.Proofs.ConfigRoundTrip
import RfBoard.Proofs.WordConversion

/-!
What a document says of a configuration, stated apart from the reading of it.
-/

namespace RfBoard.Config

open Toml (Value Table)

variable {α : Type} {c : Config} {t es : Table} {v : Value} {name : String} {names : List String}
  {reads : Value → α → Prop} {fallback a : α}

section Meaning

def IsText (v : Value) (s : String) : Prop := v = .string s

def IsFlag (v : Value) (b : Bool) : Prop := v = .boolean b

def IsInteger (low high : Int) (v : Value) (n : Int) : Prop := v = .integer n ∧ low ≤ n ∧ n ≤ high

inductive IsNumber : Value → Float → Prop where
  | real (x : Float) : IsNumber (.real x) x
  | integer (n : Int) : -2 ^ 63 ≤ n → n < 2 ^ 64 → IsNumber (.integer n) (Float.ofInt n)

/-- A value that is written for a table with these names. A list gives the first of them their values, and a date
gives none. -/
inductive StandsFor (names : List String) : Value → Table → Prop where
  | table (es : Table) : StandsFor names (.table es) es
  | array (vs : List Value) : StandsFor names (.array vs) (names.zip vs)
  | dateTime (text : String) : StandsFor names (.dateTime text) []

def Gives (es : Table) (name : String) (reads : Value → α → Prop) (fallback a : α) : Prop :=
  match es.lookup name with
  | none => a = fallback
  | some v => reads v a

def Fits (es : Table) (name : String) (reads : Value → α → Prop) : Prop :=
  ∀ v, es.lookup name = some v → ∃ a, reads v a

def Section (t : Table) (name : String) (names : List String) : Table → Prop :=
  StandsFor names ((t.lookup name).getD (.table []))

def IsPeriod : Value → Int → Prop := IsInteger 0 (2 ^ 64 - 1)

def IsProbeIndex : Value → Int → Prop := IsInteger (-2 ^ 63) (2 ^ 63 - 1)

def IsOffset : Value → Int → Prop := IsInteger 0 (2 ^ 32 - 1)

structure IsChannelTable (es : Table) (ch : ChannelCalibration) : Prop where
  k : ∃ v, es.lookup "k" = some v ∧ IsNumber v ch.k
  b : ∃ v, es.lookup "b" = some v ∧ IsNumber v ch.b

def IsChannel (v : Value) (ch : ChannelCalibration) : Prop := ∃ es, StandsFor channelNames v es ∧ IsChannelTable es ch

def IsSide (v : Value) (side : Vector ChannelCalibration 4) : Prop :=
  ∃ vs, v = .array vs ∧ ∀ (i : Nat) (h : i < 4), ∃ w, vs[i]? = some w ∧ IsChannel w side[i]

structure AcquisitionMeans (es : Table) (plan : Plan) (probe : Int64) : Prop where
  period : Gives es "period_ms" IsPeriod standard.plan.periodMs.toNat plan.periodMs.toNat
  probe : Gives es "probe_index" IsProbeIndex standard.probeIndex.toInt probe.toInt
  offset : Gives es "waveform_offset" IsOffset standard.plan.waveformOffset.toNat plan.waveformOffset.toNat
  handshake : Gives es "ready_handshake" IsFlag standard.plan.handshake plan.handshake

structure CalibrationMeans (es : Table) (calibration : Calibration) : Prop where
  forward : Gives es "fwd" IsSide standard.calibration.forward calibration.forward
  reflected : Gives es "rfl" IsSide standard.calibration.reflected calibration.reflected

structure Means (t : Table) (c : Config) : Prop where
  device : Gives t "device" IsText standard.device c.device
  acquisition : ∃ es, Section t "acquisition" planNames es ∧ AcquisitionMeans es c.plan c.probeIndex
  calibration : ∃ es, Section t "calibration" sideNames es ∧ CalibrationMeans es c.calibration

structure AcquisitionFits (es : Table) : Prop where
  period : Fits es "period_ms" IsPeriod
  probe : Fits es "probe_index" IsProbeIndex
  offset : Fits es "waveform_offset" IsOffset
  handshake : Fits es "ready_handshake" IsFlag

structure CalibrationFits (es : Table) : Prop where
  forward : Fits es "fwd" IsSide
  reflected : Fits es "rfl" IsSide

structure WellTyped (t : Table) : Prop where
  device : Fits t "device" IsText
  acquisition : ∃ es, Section t "acquisition" planNames es ∧ AcquisitionFits es
  calibration : ∃ es, Section t "calibration" sideNames es ∧ CalibrationFits es

end Meaning

section Lookups

lemma areSound_iff {vs : List Value} : Value.areSound vs = true ↔ ∀ v ∈ vs, v.isSound = true := by
  induction vs with
  | nil => simp [Value.areSound]
  | cons v vs ih => simp only [Value.areSound, Bool.and_eq_true, ih, List.forall_mem_cons]

lemma entriesSound_iff : Value.entriesSound es = true ↔ ∀ e ∈ es, e.2.isSound = true := by
  induction es with
  | nil => simp [Value.entriesSound]
  | cons e es ih => simp only [Value.entriesSound, Bool.and_eq_true, ih, List.forall_mem_cons]

lemma mem_of_lookup (h : es.lookup name = some v) : (name, v) ∈ es := by
  obtain ⟨before, after, rfl, -⟩ := List.lookup_eq_some_iff.mp h
  simp

lemma isSound_of_lookup (hs : Value.entriesSound es = true) (h : es.lookup name = some v) : v.isSound = true :=
  entriesSound_iff.mp hs _ (mem_of_lookup h)

lemma othersSound_of_sound (hs : Value.entriesSound es = true) (names : List String) : othersSound names es = true :=
  List.all_eq_true.mpr fun e he => Bool.or_eq_true_iff.mpr (.inr (entriesSound_iff.mp hs e he))

lemma lookup_zip (names : List String) (vs : List Value) (name : String) :
    (names.zip vs).lookup name = (names.idxOf? name).bind fun i => vs[i]? := by
  induction names generalizing vs with
  | nil => rfl
  | cons n names ih =>
    cases vs with
    | nil => simp
    | cons w vs =>
      rw [List.zip_cons_cons, List.lookup_cons, List.idxOf?_cons, ih vs]
      by_cases h : n = name
      · simp [h]
      · have h₁ : (n == name) = false := by simp [h]
        have h₂ : (name == n) = false := by simp [Ne.symm h]
        simp [h₁, h₂, Option.bind_map]

lemma field_of_standsFor (h : StandsFor names v es) (name : String) : field names name v = es.lookup name := by
  cases h with
  | table es => rfl
  | array vs => exact (lookup_zip names vs name).symm
  | dateTime text => rfl

lemma entriesSound_of_standsFor (hs : v.isSound = true) (h : StandsFor names v es) : Value.entriesSound es = true := by
  cases h with
  | table es => exact hs
  | array vs => exact entriesSound_iff.mpr fun e he => areSound_iff.mp hs _ (List.of_mem_zip he).2
  | dateTime text => rfl

lemma isFields_iff (hs : v.isSound = true) : isFields names v = true ↔ ∃ es, StandsFor names v es := by
  constructor
  · intro h
    cases v with
    | table es => exact ⟨es, .table es⟩
    | array vs => exact ⟨_, .array vs⟩
    | dateTime text => exact ⟨[], .dateTime text⟩
    | _ => cases h
  · rintro ⟨es, h⟩
    cases h with
    | table es => exact othersSound_of_sound hs names
    | array vs => rfl
    | dateTime text => rfl

end Lookups

section Fields

lemma readString_iff {s : String} : readString v = some s ↔ IsText v s := by
  cases v <;> simp [readString, IsText]

lemma readBoolean_iff {b : Bool} : readBoolean v = some b ↔ IsFlag v b := by
  cases v <;> simp [readBoolean, IsFlag]

lemma readInteger_iff {low high n : Int} : readInteger low high v = some n ↔ IsInteger low high v n := by
  cases v with
  | integer m =>
    simp only [readInteger, IsInteger, Option.ite_none_right_eq_some, Option.some.injEq, Value.integer.injEq]
    constructor
    · rintro ⟨hm, rfl⟩
      exact ⟨rfl, hm⟩
    · rintro ⟨rfl, hm⟩
      exact ⟨hm, rfl⟩
  | _ => simp [readInteger, IsInteger]

lemma readReal_iff {x : Float} : readReal v = some x ↔ IsNumber v x := by
  constructor
  · intro h
    cases v with
    | real y =>
      cases h
      exact .real _
    | integer n =>
      obtain ⟨hn, rfl⟩ := Option.ite_none_right_eq_some.mp h |>.imp_right Option.some.inj
      exact .integer n hn.1 hn.2
    | _ => cases h
  · rintro (_ | ⟨n, hl, hu⟩)
    · rfl
    · exact if_pos ⟨hl, hu⟩

lemma orDefault_iff {read : Value → Option α} (hread : ∀ v, es.lookup name = some v → (read v = some a ↔ reads v a)) :
    orDefault fallback read (es.lookup name) = some a ↔ Gives es name reads fallback a := by
  rw [Gives]
  cases h : es.lookup name with
  | none => simp [orDefault, eq_comm]
  | some v => exact hread v h

lemma exists_gives : (∃ a, Gives es name reads fallback a) ↔ Fits es name reads := by
  simp only [Gives, Fits]
  cases es.lookup name with
  | none => simp
  | some v => simp

lemma Gives.bounds {low high d n : Int} (h : Gives es name (IsInteger low high) d n) (hl : low ≤ d) (hh : d ≤ high) :
    low ≤ n ∧ n ≤ high := by
  rw [Gives] at h
  split at h
  · exact h ▸ ⟨hl, hh⟩
  · exact h.2

end Fields

section Sections

lemma fields_iff {x : Option α} (hs : v.isSound = true) :
    (if isFields names v then x else none) = some a ↔ ∃ es, StandsFor names v es ∧ x = some a := by
  rw [Option.ite_none_right_eq_some, isFields_iff hs, exists_and_right]

lemma readChannel_iff {ch : ChannelCalibration} (hs : v.isSound = true) : readChannel v = some ch ↔ IsChannel v ch := by
  rw [readChannel, fields_iff hs]
  refine exists_congr fun es => and_congr_right fun h => ?_
  simp only [field_of_standsFor h, bind, Option.bind_eq_some_iff, Option.some.injEq, readReal_iff]
  constructor
  · rintro ⟨k, hk, b, hb, rfl⟩
    exact ⟨hk, hb⟩
  · rintro ⟨hk, hb⟩
    exact ⟨ch.k, hk, ch.b, hb, rfl⟩

variable {x₀ x₁ x₂ x₃ : Value} {rest : List Value} {side : Vector ChannelCalibration 4}

lemma isSound_of_array (hs : (Value.array (x₀ :: x₁ :: x₂ :: x₃ :: rest)).isSound = true) :
    x₀.isSound = true ∧ x₁.isSound = true ∧ x₂.isSound = true ∧ x₃.isSound = true := by
  have h := areSound_iff.mp hs
  simp only [List.forall_mem_cons] at h
  exact ⟨h.1, h.2.1, h.2.2.1, h.2.2.2.1⟩

lemma isSide_array_iff :
    IsSide (.array (x₀ :: x₁ :: x₂ :: x₃ :: rest)) side ↔ IsChannel x₀ (side.get 0) ∧ IsChannel x₁ (side.get 1) ∧
      IsChannel x₂ (side.get 2) ∧ IsChannel x₃ (side.get 3) := by
  constructor
  · rintro ⟨vs, hvs, h⟩
    cases hvs
    obtain ⟨_, ⟨⟩, h₀⟩ := h 0 (by decide)
    obtain ⟨_, ⟨⟩, h₁⟩ := h 1 (by decide)
    obtain ⟨_, ⟨⟩, h₂⟩ := h 2 (by decide)
    obtain ⟨_, ⟨⟩, h₃⟩ := h 3 (by decide)
    exact ⟨h₀, h₁, h₂, h₃⟩
  · rintro ⟨h₀, h₁, h₂, h₃⟩
    refine ⟨_, rfl, fun i hi => ?_⟩
    interval_cases i
    · exact ⟨x₀, rfl, h₀⟩
    · exact ⟨x₁, rfl, h₁⟩
    · exact ⟨x₂, rfl, h₂⟩
    · exact ⟨x₃, rfl, h₃⟩

lemma readSide_iff (hs : v.isSound = true) : readSide v = some side ↔ IsSide v side := by
  unfold readSide
  split
  · obtain ⟨h₀, h₁, h₂, h₃⟩ := isSound_of_array hs
    simp only [isSide_array_iff, bind, Option.bind_eq_some_iff, Option.some.injEq, readChannel_iff h₀,
      readChannel_iff h₁, readChannel_iff h₂, readChannel_iff h₃]
    constructor
    · rintro ⟨c₀, h₀, c₁, h₁, c₂, h₂, c₃, h₃, rfl⟩
      exact ⟨h₀, h₁, h₂, h₃⟩
    · rintro ⟨h₀, h₁, h₂, h₃⟩
      refine ⟨_, h₀, _, h₁, _, h₂, _, h₃, Vector.ext fun i hi => ?_⟩
      interval_cases i <;> rfl
  · rename_i hshort
    refine iff_of_false nofun ?_
    rintro ⟨vs, rfl, h⟩
    obtain ⟨w, hw, -⟩ := h 3 (by decide)
    match vs with
    | [] | [_] | [_, _] | [_, _, _] => cases hw
    | _ :: _ :: _ :: _ :: _ => exact hshort _ _ _ _ _ rfl

lemma toNat_ofInt_64 {n : Int} (hl : 0 ≤ n) (hh : n ≤ 2 ^ 64 - 1) : ((UInt64.ofInt n).toNat : Int) = n := by
  rw [UInt64.ofInt, UInt64.toNat_ofNat_of_lt' (by simp only [UInt64.size]; omega)]
  omega

lemma toNat_ofInt_32 {n : Int} (hl : 0 ≤ n) (hh : n ≤ 2 ^ 32 - 1) : ((UInt32.ofInt n).toNat : Int) = n := by
  rw [Conversion.toNat_ofInt]
  omega

lemma acquisitionMeans_ofInt {period index offset : Int} {handshake : Bool}
    (hp : Gives es "period_ms" IsPeriod standard.plan.periodMs.toNat period)
    (hi : Gives es "probe_index" IsProbeIndex standard.probeIndex.toInt index)
    (ho : Gives es "waveform_offset" IsOffset standard.plan.waveformOffset.toNat offset)
    (hh : Gives es "ready_handshake" IsFlag standard.plan.handshake handshake) :
    AcquisitionMeans es ⟨UInt64.ofInt period, UInt32.ofInt offset, handshake⟩ (Int64.ofInt index) := by
  obtain ⟨hpl, hph⟩ := Gives.bounds hp (by decide) (by decide)
  obtain ⟨hil, hih⟩ := Gives.bounds hi (by decide) (by decide)
  obtain ⟨hol, hoh⟩ := Gives.bounds ho (by decide) (by decide)
  constructor
  · rwa [toNat_ofInt_64 hpl hph]
  · rwa [Int64.toInt_ofInt_of_le hil (by omega)]
  · rwa [toNat_ofInt_32 hol hoh]
  · exact hh

theorem readAcquisition_iff {plan : Plan} {probe : Int64} (hs : v.isSound = true) :
    readAcquisition v = some (plan, probe) ↔ ∃ es, StandsFor planNames v es ∧ AcquisitionMeans es plan probe := by
  rw [readAcquisition, fields_iff hs]
  refine exists_congr fun es => and_congr_right fun h => ?_
  -- the defaults and the ranges of the reader are those of the fields
  have hperiod (n : Int) : orDefault 1000 (readInteger 0 18446744073709551615) (es.lookup "period_ms") = some n ↔
      Gives es "period_ms" IsPeriod standard.plan.periodMs.toNat n := orDefault_iff fun _ _ => readInteger_iff
  have hprobe (n : Int) : orDefault 0 (readInteger (-9223372036854775808) 9223372036854775807)
      (es.lookup "probe_index") = some n ↔ Gives es "probe_index" IsProbeIndex standard.probeIndex.toInt n :=
    orDefault_iff fun _ _ => readInteger_iff
  have hoffset (n : Int) : orDefault 262144 (readInteger 0 4294967295) (es.lookup "waveform_offset") = some n ↔
      Gives es "waveform_offset" IsOffset standard.plan.waveformOffset.toNat n :=
    orDefault_iff fun _ _ => readInteger_iff
  have hhandshake (b : Bool) : orDefault false readBoolean (es.lookup "ready_handshake") = some b ↔
      Gives es "ready_handshake" IsFlag standard.plan.handshake b := orDefault_iff fun _ _ => readBoolean_iff
  simp only [field_of_standsFor h, bind, Option.bind_eq_some_iff, Option.some.injEq, Prod.mk.injEq, hperiod, hprobe,
    hoffset, hhandshake]
  constructor
  · rintro ⟨period, hp, index, hi, offset, ho, handshake, hh, rfl, rfl⟩
    exact acquisitionMeans_ofInt hp hi ho hh
  · intro hmeans
    exact ⟨_, hmeans.period, _, hmeans.probe, _, hmeans.offset, _, hmeans.handshake,
      by rw [ofInt_toNat_64, ofInt_toNat_32], Int64.ofInt_toInt _⟩

lemma exists_acquisitionMeans : (∃ plan probe, AcquisitionMeans es plan probe) ↔ AcquisitionFits es := by
  constructor
  · rintro ⟨plan, probe, h⟩
    exact ⟨exists_gives.mp ⟨_, h.period⟩, exists_gives.mp ⟨_, h.probe⟩, exists_gives.mp ⟨_, h.offset⟩,
      exists_gives.mp ⟨_, h.handshake⟩⟩
  · intro h
    obtain ⟨period, hp⟩ := exists_gives.mpr h.period
    obtain ⟨index, hi⟩ := exists_gives.mpr h.probe
    obtain ⟨offset, ho⟩ := exists_gives.mpr h.offset
    obtain ⟨handshake, hh⟩ := exists_gives.mpr h.handshake
    exact ⟨_, _, acquisitionMeans_ofInt hp hi ho hh⟩

theorem readCalibration_iff {calibration : Calibration} (hs : v.isSound = true) :
    readCalibration v = some calibration ↔ ∃ es, StandsFor sideNames v es ∧ CalibrationMeans es calibration := by
  rw [readCalibration, fields_iff hs]
  refine exists_congr fun es => and_congr_right fun h => ?_
  have hside (name : String) (fallback side : Vector ChannelCalibration 4) :
      orDefault fallback readSide (es.lookup name) = some side ↔ Gives es name IsSide fallback side :=
    orDefault_iff fun w hw => readSide_iff (isSound_of_lookup (entriesSound_of_standsFor hs h) hw)
  simp only [field_of_standsFor h, bind, Option.bind_eq_some_iff, Option.some.injEq, hside]
  constructor
  · rintro ⟨forward, hf, reflected, hr, rfl⟩
    exact ⟨hf, hr⟩
  · intro hmeans
    exact ⟨_, hmeans.forward, _, hmeans.reflected, rfl⟩

lemma exists_calibrationMeans : (∃ calibration, CalibrationMeans es calibration) ↔ CalibrationFits es := by
  constructor
  · rintro ⟨calibration, h⟩
    exact ⟨exists_gives.mp ⟨_, h.forward⟩, exists_gives.mp ⟨_, h.reflected⟩⟩
  · intro h
    obtain ⟨forward, hf⟩ := exists_gives.mpr h.forward
    obtain ⟨reflected, hr⟩ := exists_gives.mpr h.reflected
    exact ⟨⟨forward, reflected⟩, hf, hr⟩

lemma orDefault_section {read : Value → Option α} (hempty : read (.table []) = some fallback) (v : Option Value) :
    orDefault fallback read v = read (v.getD (.table [])) := by
  cases v with
  | none => exact hempty.symm
  | some v => rfl

lemma isSound_section (hs : Value.entriesSound t = true) (name : String) :
    ((t.lookup name).getD (.table [])).isSound = true := by
  cases h : t.lookup name with
  | none => rfl
  | some v => exact isSound_of_lookup hs h

theorem ofTable?_iff (hs : Value.entriesSound t = true) : ofTable? t = some c ↔ Means t c := by
  have hdevice (s : String) : orDefault standardDevice readString (t.lookup "device") = some s ↔
      Gives t "device" IsText standard.device s := orDefault_iff fun _ _ => readString_iff
  have hplan (plan : Plan) (probe : Int64) :
      orDefault ({}, 0) readAcquisition (t.lookup "acquisition") = some (plan, probe) ↔
        ∃ es, Section t "acquisition" planNames es ∧ AcquisitionMeans es plan probe := by
    have hempty : readAcquisition (.table []) = some ({}, 0) := rfl
    rw [orDefault_section hempty]
    exact readAcquisition_iff (isSound_section hs _)
  have hcalibration (calibration : Calibration) :
      orDefault .standard readCalibration (t.lookup "calibration") = some calibration ↔
        ∃ es, Section t "calibration" sideNames es ∧ CalibrationMeans es calibration := by
    have hempty : readCalibration (.table []) = some .standard := rfl
    rw [orDefault_section hempty]
    exact readCalibration_iff (isSound_section hs _)
  rw [ofTable?, if_pos (othersSound_of_sound hs _)]
  simp only [bind, Option.bind_eq_some_iff, Option.some.injEq, Prod.exists, hdevice, hplan, hcalibration]
  constructor
  · rintro ⟨device, hd, plan, probe, ha, calibration, hc, rfl⟩
    exact ⟨hd, ha, hc⟩
  · intro hmeans
    exact ⟨_, hmeans.device, _, _, hmeans.acquisition, _, hmeans.calibration, rfl⟩

theorem exists_means : (∃ c, Means t c) ↔ WellTyped t := by
  constructor
  · rintro ⟨c, hd, ⟨es, hes, ha⟩, fs, hfs, hc⟩
    exact ⟨exists_gives.mp ⟨_, hd⟩, ⟨es, hes, exists_acquisitionMeans.mp ⟨_, _, ha⟩⟩,
      ⟨fs, hfs, exists_calibrationMeans.mp ⟨_, hc⟩⟩⟩
  · rintro ⟨hd, ⟨es, hes, ha⟩, fs, hfs, hc⟩
    obtain ⟨device, hd⟩ := exists_gives.mpr hd
    obtain ⟨plan, probe, ha⟩ := exists_acquisitionMeans.mpr ha
    obtain ⟨calibration, hc⟩ := exists_calibrationMeans.mpr hc
    exact ⟨⟨device, plan, probe, calibration⟩, hd, ⟨es, hes, ha⟩, fs, hfs, hc⟩

end Sections

lemma ofTable_eq_ok : ofTable t = .ok c ↔ ofTable? t = some c ∧ Valid c := by
  rw [ofTable, ← validate_iff]
  cases ofTable? t with
  | none => simp
  | some d =>
    change d.validate.map (fun _ => d) = .ok c ↔ some d = some c ∧ c.validate = .ok ()
    constructor
    · intro h
      cases hv : d.validate with
      | error e =>
        rw [hv] at h
        cases h
      | ok u =>
        rw [hv] at h
        cases h
        exact ⟨rfl, hv⟩
    · rintro ⟨h, hv⟩
      cases h
      rw [hv]
      rfl

end RfBoard.Config
