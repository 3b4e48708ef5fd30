import RfBoard.Config
import RfBoard.Proofs.Double.Bounded
import RfBoard.Proofs.FrameDerivation

/-!
Which samples of a derived frame are undefined, and which of these are counted.
-/

namespace RfBoard

open Double

/-- Angles in radians are between -π and π, and rounding does not bring one to 4. -/
def Elementary.AngleBounded [Elementary] : Prop :=
  ∀ y x : Float, y.isFinite = true → x.isFinite = true → -4 ≤ Elementary.atan2 y x ∧ Elementary.atan2 y x ≤ 4

namespace Frame

def undefinedSamples (f : Frame) (c : DerivedChannel) : Nat :=
  (List.finRange 4096).countP fun i => !(f.sample c i).isFinite

def CountsOf (f : Frame) (c : DerivedChannel) : Prop := (f.faultsOf c).toNat = f.undefinedSamples c

def Counts (f : Frame) : Prop := ∀ c, f.CountsOf c

lemma undefinedSamples_eq_zero {f : Frame} {c : DerivedChannel} :
    f.undefinedSamples c = 0 ↔ ∀ i, (f.sample c i).isFinite = true := by
  simp [undefinedSamples, List.countP_eq_zero]

end Frame

def DerivedChannel.isPower : DerivedChannel → Bool
  | .fwd1Power | .rfl1Power | .fwd2Power | .rfl2Power | .inPower | .fwdPower | .rflPower => true
  | _ => false

def ChannelCalibration.fullScale [Elementary] (c : ChannelCalibration) : Float :=
  c.power (Number.ofSample Int16.minValue) (Number.ofSample Int16.minValue)

inductive Detector where
  | forward1
  | reflected1
  | forward2
  | reflected2
deriving DecidableEq, Repr

namespace Detector

def calibration (cal : Calibration) : Detector → ChannelCalibration
  | forward1 => cal.forward1
  | reflected1 => cal.reflected1
  | forward2 => cal.forward2
  | reflected2 => cal.reflected2

def inPhase : Detector → RawChannel
  | forward1 => .fwd1I
  | reflected1 => .rfl1I
  | forward2 => .fwd2I
  | reflected2 => .rfl2I

def quadrature : Detector → RawChannel
  | forward1 => .fwd1Q
  | reflected1 => .rfl1Q
  | forward2 => .fwd2Q
  | reflected2 => .rfl2Q

def channel : Detector → DerivedChannel
  | forward1 => .fwd1Power
  | reflected1 => .rfl1Power
  | forward2 => .fwd2Power
  | reflected2 => .rfl2Power

end Detector

section Bounds

variable {i q : Float} {c : ChannelCalibration}

lemma within_ofSample (s : Int16) : Within (Number.ofSample s) (2 ^ 15) := by
  have hs : s.toInt32.toUInt32.toBitVec.toInt = s.toInt := Int16.toInt_toInt32 s
  have hl := s.le_toInt
  have hu := s.toInt_lt
  have hB : Representable (2 ^ 15) := representable_two_pow (by decide)
  rw [BitVec.toInt_eq_toNat_cond] at hs
  rw [Number.ofSample, Number.ofWord, Bool.true_and]
  generalize s.toInt32.toUInt32 = w at hs
  have hw : w.toBitVec.toNat = w.toNat := rfl
  have hn := w.toNat_lt
  rw [hw] at hs
  split
  · rename_i hd
    have hd' : 2 ^ 31 ≤ w.toNat := UInt32.le_iff_toNat_le.mp (of_decide_eq_true hd)
    have hz : (0 - w).toNat ≤ 2 ^ 15 := by
      rw [UInt32.toNat_sub, UInt32.toNat_zero]
      omega
    exact (within_toFloat hB (by exact_mod_cast hz)).neg
  · rename_i hd
    have hd' : ¬ 2 ^ 31 ≤ w.toNat := fun h => hd (decide_eq_true (UInt32.le_iff_toNat_le.mpr h))
    have hz : w.toNat ≤ 2 ^ 15 := by omega
    exact within_toFloat hB (by exact_mod_cast hz)

lemma within_wordAngle (hi : Within i (2 ^ 15)) : Within (Signal.wordAngle i) (2 ^ 8) := by
  have hd : Within (i / 32768) (2 ^ 0) :=
    hi.div (beyond_ofNat (by decide : 0 < 32768) (by decide)) (representable_two_pow (by decide)) (by norm_num)
  exact hd.mul (within_ofNat (by decide : 0 < 180) (by decide)) (representable_two_pow (by decide)) (by norm_num)

lemma sized_squares (hi : Within i (2 ^ 15)) (hq : Within q (2 ^ 15)) :
    Sized .positive (2 ^ 31) (i * i + q * q).toModel.unpack := by
  have hB : Representable (2 ^ 31) := representable_two_pow (by decide)
  -- with equal signs the sum keeps the sign, and the root needs it
  have hsquare : ∀ x, Within x (2 ^ 15) → Sized .positive (2 ^ 30) (x * x).toModel.unpack := by
    rintro x ⟨s, hx⟩
    have hm : Sized (s * s) (2 ^ 30) (x * x).toModel.unpack :=
      hx.mul hx (representable_two_pow (by decide)) (by norm_num)
    cases s <;> exact hm
  obtain ⟨s, hs, h⟩ := (hsquare i hi).add (hsquare q hq) hB (by norm_num)
  exact hs rfl ▸ h

lemma within_amplitude (hi : Within i (2 ^ 15)) (hq : Within q (2 ^ 15)) :
    Within (Signal.amplitude i q) (2 ^ 16) :=
  ⟨.positive, (sized_squares hi hq).sqrt (representable_two_pow (by decide)) (by norm_num)⟩

lemma beyond_pi : Beyond Signal.pi 1 := by
  refine ⟨.positive, 0x1921FB54442D18, -51, by decide, rfl, ?_⟩
  refine le_trans ?_ (two_zpow_le_scaled (k := 52) (by decide) (-51))
  norm_num

lemma beyond_thousand : Beyond 1000 (1000 : Nat) := beyond_ofNat (by decide : 0 < 1000) (by decide)

lemma within_div_thousand {x : Float} (h : x.isFinite = true) : Within (x / 1000) (2 ^ 1015) := by
  refine (within_of_isFinite h).div beyond_thousand (representable_two_pow (by decide)) ?_
  calc largest 971 ≤ 2 ^ (1024 : Int) := (largest_lt 971).le
    _ = 2 ^ 1015 * 2 ^ 9 := by rw [← pow_add, ← zpow_natCast]; rfl
    _ ≤ 2 ^ 1015 * (1000 : Nat) := mul_le_mul_of_nonneg_left (by norm_num) (by positivity)

variable [Elementary]

lemma within_phase (ha : Elementary.AngleBounded) (hi : Within i (2 ^ 15)) (hq : Within q (2 ^ 15)) :
    Within (Signal.phase i q) (2 ^ 10) := by
  obtain ⟨h₁, h₂⟩ := ha q i hq.isFinite hi.isFinite
  have hangle : Within (Elementary.atan2 q i) (4 : Nat) := within_of_between (by decide) (by decide) h₁ h₂
  have hm : Within (Elementary.atan2 q i * 180) (2 ^ 10) :=
    hangle.mul (within_ofNat (by decide : 0 < 180) (by decide)) (representable_two_pow (by decide)) (by norm_num)
  exact hm.div beyond_pi (representable_two_pow (by decide)) (by norm_num)

lemma within_power (h : (c.power i q).isFinite = true) : Within (c.power i q) (2 ^ 1015) :=
  within_div_thousand (isFinite_of_div h)

lemma isFinite_power_of_fullScale (h : c.fullScale.isFinite = true) (hi : Within i (2 ^ 15))
    (hq : Within q (2 ^ 15)) : (c.power i q).isFinite = true := by
  have hs : Within c.scale (largest 940) :=
    within_of_isFinite_mul (k := 31) (by rfl) (isFinite_of_div h) (by decide)
  have hm : Within ((i * i + q * q) * c.scale) (largest 971) :=
    Within.mul ⟨_, sized_squares hi hq⟩ hs (representable_largest (by decide) (by decide))
      (two_pow_mul_largest 31 940).le
  exact (within_div_thousand hm.isFinite).isFinite

end Bounds

namespace DerivedPoint

lemma isError_vswr (fwd rfl : Float) :
    isError (Signal.vswr fwd rfl) = !(ratioOrNaN (Signal.vswr fwd rfl)).isFinite := by
  rw [Signal.vswr]
  split
  · rfl
  · dsimp only
    split
    · rename_i h
      rw [ratioOrNaN, h]
      rfl
    · rfl

end DerivedPoint

namespace RawWaveform

variable [Elementary] (raw : RawWaveform) (cal : Calibration) (f : Frame) (i : Fin 4096)

def powerAt (d : Detector) : Float :=
  (d.calibration cal).power (Number.ofSample (raw.sample d.inPhase i)) (Number.ofSample (raw.sample d.quadrature i))

lemma value_power (d : Detector) : (raw.pointAt cal i).values.get d.channel.index = raw.powerAt cal i d := by
  cases d <;> rfl

lemma sample_power (d : Detector) : (raw.derive cal f).sample d.channel i = raw.powerAt cal i d := by
  rw [sample_derive, value_power]

lemma isFinite_power {c : DerivedChannel} (hp : ∀ d, (raw.powerAt cal i d).isFinite = true) (hc : c.isPower = true) :
    ((raw.pointAt cal i).values.get c.index).isFinite = true := by
  have hw : ∀ d, Within (raw.powerAt cal i d) (2 ^ 1015) := fun d => within_power (hp d)
  have hfwd : Within (raw.powerAt cal i .forward1 + raw.powerAt cal i .forward2) (2 ^ 1016) :=
    (hw _).add (hw _) (representable_two_pow (by decide)) (two_pow_add_le le_rfl le_rfl)
  have hrfl : Within (raw.powerAt cal i .reflected1 + raw.powerAt cal i .reflected2) (2 ^ 1016) :=
    (hw _).add (hw _) (representable_two_pow (by decide)) (two_pow_add_le le_rfl le_rfl)
  cases c with
  | fwd1Power => exact hp .forward1
  | rfl1Power => exact hp .reflected1
  | fwd2Power => exact hp .forward2
  | rfl2Power => exact hp .reflected2
  | fwdPower => exact hfwd.isFinite
  | rflPower => exact hrfl.isFinite
  | inPower =>
    have hsub : Within (_ - raw.powerAt cal i .reflected1) (2 ^ 1017) :=
      hfwd.sub (hw _) (representable_two_pow (by decide)) (two_pow_add_le le_rfl (by decide))
    have hin : Within (_ - raw.powerAt cal i .reflected2) (2 ^ 1018) :=
      hsub.sub (hw _) (representable_two_pow (by decide)) (two_pow_add_le le_rfl (by decide))
    exact hin.isFinite
  | _ => cases hc

lemma mark_eq (ha : Elementary.AngleBounded) {c : DerivedChannel} (hc : c.isPower = false) :
    c.mark (raw.pointAt cal i) = !((raw.pointAt cal i).values.get c.index).isFinite := by
  have hs : ∀ r, Within (Number.ofSample (raw.sample r i)) (2 ^ 15) := fun r => within_ofSample _
  have hfinite {x : Float} {b : ℝ} (hx : Within x b) : false = !x.isFinite := by rw [hx.isFinite, Bool.not_true]
  cases c with
  | cav2Amp => exact hfinite (hs .pickup2I)
  | cav1Amp => exact hfinite (hs .pickup1I)
  | dacAmp => exact hfinite (hs .dacI)
  | cav2Phase => exact hfinite (within_wordAngle (hs .pickup2Q))
  | cav1Phase => exact hfinite (within_wordAngle (hs .pickup1Q))
  | dacPhase => exact hfinite (within_wordAngle (hs .dacQ))
  | fwd1Amp => exact hfinite (within_amplitude (hs .fwd1I) (hs .fwd1Q))
  | rfl1Amp => exact hfinite (within_amplitude (hs .rfl1I) (hs .rfl1Q))
  | fwd2Amp => exact hfinite (within_amplitude (hs .fwd2I) (hs .fwd2Q))
  | rfl2Amp => exact hfinite (within_amplitude (hs .rfl2I) (hs .rfl2Q))
  | fwd1Phase => exact hfinite (within_phase ha (hs .fwd1I) (hs .fwd1Q))
  | rfl1Phase => exact hfinite (within_phase ha (hs .rfl1I) (hs .rfl1Q))
  | fwd2Phase => exact hfinite (within_phase ha (hs .fwd2I) (hs .fwd2Q))
  | rfl2Phase => exact hfinite (within_phase ha (hs .rfl2I) (hs .rfl2Q))
  | vswr1 => exact DerivedPoint.isError_vswr _ _
  | vswr2 => exact DerivedPoint.isError_vswr _ _
  | _ => cases hc

lemma countsOf_of_mark_eq {c : DerivedChannel}
    (h : ∀ i, c.mark (raw.pointAt cal i) = !((raw.pointAt cal i).values.get c.index).isFinite) :
    (raw.derive cal f).CountsOf c := by
  rw [Frame.CountsOf, faultsOf_derive, marked_eq_countP, Frame.undefinedSamples]
  refine List.countP_congr fun i _ => ?_
  rw [sample_derive, h i]

lemma faultsOf_power (d : Detector) : ((raw.derive cal f).faultsOf d.channel).toNat = 0 := by
  rw [faultsOf_derive]
  cases d <;> exact raw.marked_unmarked cal 4096

theorem counts_derive_iff (ha : Elementary.AngleBounded) :
    (raw.derive cal f).Counts ↔ ∀ i d, (raw.powerAt cal i d).isFinite = true := by
  constructor
  · intro h i d
    have hz : (raw.derive cal f).undefinedSamples d.channel = 0 := by rw [← h d.channel, faultsOf_power]
    have hi := Frame.undefinedSamples_eq_zero.mp hz i
    rwa [sample_power] at hi
  · intro hp c
    apply raw.countsOf_of_mark_eq
    intro i
    cases hc : c.isPower with
    | false => exact raw.mark_eq cal i ha hc
    | true =>
      rw [raw.isFinite_power cal i (hp i) hc]
      cases c <;> first | rfl | cases hc

def steady (v : Int16) : RawWaveform := ⟨Vector.replicate 57344 v⟩

lemma powerAt_steady (v : Int16) (d : Detector) : (steady v).powerAt cal i d =
    (d.calibration cal).power (Number.ofSample v) (Number.ofSample v) := by
  have hs : ∀ c, (steady v).sample c i = v := fun c => Vector.getElem_replicate ..
  rw [powerAt, hs, hs]

end RawWaveform

namespace Calibration

/-- A calibration counts just if the full-scale power of each detector is finite. All channels but the powers
count with any calibration. -/
theorem counts_iff [Elementary] (cal : Calibration) (ha : Elementary.AngleBounded) :
    ((∀ (raw : RawWaveform) (f : Frame), (raw.derive cal f).Counts) ↔
      ∀ d : Detector, (d.calibration cal).fullScale.isFinite = true) ∧
    ∀ (raw : RawWaveform) (f : Frame) (c : DerivedChannel), c.isPower = false → (raw.derive cal f).CountsOf c := by
  refine ⟨⟨?_, ?_⟩, fun raw f c hc => raw.countsOf_of_mark_eq cal f fun i => raw.mark_eq cal i ha hc⟩
  · intro h d
    have hp := ((RawWaveform.steady Int16.minValue).counts_derive_iff cal .zero ha).mp (h _ _) 0 d
    rwa [RawWaveform.powerAt_steady] at hp
  · intro h raw f
    rw [raw.counts_derive_iff cal f ha]
    exact fun i d => isFinite_power_of_fullScale (h d) (within_ofSample _) (within_ofSample _)

end Calibration

/-- Powers of ten and angles where the calibrations below ask for them: `10 ^ 7.41`, `10 ^ 400`, which is
out of range, and the angle of the origin. -/
@[reducible]
def Elementary.sampled : Elementary where
  pow _ y := if y < 308.25 then 25703957.827688646 else 1 / 0
  atan2 _ _ := 0

lemma Elementary.angleBounded_sampled : @Elementary.AngleBounded .sampled := by
  intro y x _ _
  change (-4 : Float) ≤ 0 ∧ (0 : Float) ≤ 4
  decide +kernel

namespace Calibration

theorem counts_standard : @Elementary.AngleBounded .sampled ∧
    (∀ d : Detector, (@ChannelCalibration.fullScale .sampled (d.calibration standard)).isFinite = true) ∧
      (@RawWaveform.derive .sampled .zero standard .zero).Counts := by
  have hf : ∀ d : Detector, (@ChannelCalibration.fullScale .sampled (d.calibration standard)).isFinite = true := by
    intro d
    cases d <;> decide +kernel
  have ha := Elementary.angleBounded_sampled
  exact ⟨ha, hf, (@counts_iff .sampled standard ha).1.mpr hf _ _⟩

def steep : Calibration where
  forward := #v[⟨1, 4000⟩, ⟨1.5652e-10, 74.1⟩, ⟨1.5818e-10, 74.1⟩, ⟨1.5818e-10, 74.1⟩]
  reflected := standard.reflected

theorem uncounted_steep :
    ({ Config.standard with calibration := steep }).validate = .ok () ∧ steep.isValid = true ∧
    ((@RawWaveform.derive .sampled .zero steep .zero).faultsOf .fwd1Power).toNat = 0 ∧
    (@RawWaveform.derive .sampled .zero steep .zero).undefinedSamples .fwd1Power = 4096 := by
  have hp (i : Fin 4096) : (!((@RawWaveform.derive .sampled .zero steep .zero).sample .fwd1Power i).isFinite) = true := by
    have hs := @RawWaveform.sample_power .sampled (.steady 0) steep .zero i .forward1
    rw [@RawWaveform.powerAt_steady .sampled] at hs
    exact (congrArg (!Float.isFinite ·) hs).trans (by decide +kernel)
  refine ⟨by decide +kernel, by decide +kernel, @RawWaveform.faultsOf_power .sampled .zero steep .zero .forward1, ?_⟩
  rw [Frame.undefinedSamples, List.countP_eq_length.mpr fun i _ => hp i, List.length_finRange]

end Calibration

end RfBoard
