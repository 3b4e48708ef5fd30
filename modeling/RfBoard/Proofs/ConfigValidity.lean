import RfBoard.Config
import Mathlib.Logic.Basic
import Mathlib.Tactic.SplitIfs

namespace RfBoard.Config

variable {c : Config}

def IsUsable (ch : ChannelCalibration) : Prop := ch.k.isFinite = true ∧ ch.k > 0 ∧ ch.b.isFinite = true

structure Valid (c : Config) : Prop where
  period : 0 < c.plan.periodMs.toNat
  offset : c.plan.waveformOffset.toNat % 4 = 0
  forward : ∀ ch ∈ c.calibration.forward, IsUsable ch
  reflected : ∀ ch ∈ c.calibration.reflected, IsUsable ch

lemma isValid_iff {calibration : Calibration} : calibration.isValid = true ↔
    (∀ ch ∈ calibration.forward, IsUsable ch) ∧ ∀ ch ∈ calibration.reflected, IsUsable ch := by
  have hchannel (ch : ChannelCalibration) : ch.isValid = true ↔ IsUsable ch := by
    simp only [ChannelCalibration.isValid, IsUsable, Bool.and_eq_true, decide_eq_true_eq, and_assoc]
  simp only [Calibration.isValid, Bool.and_eq_true, Vector.all_eq_true', hchannel]

lemma validate_iff : c.validate = .ok () ↔ Valid c := by
  have hperiod : c.plan.periodMs = 0 ↔ ¬ 0 < c.plan.periodMs.toNat := by
    rw [← UInt64.toNat_inj]
    simp
  have hoffset : c.plan.waveformOffset % 4 = 0 ↔ c.plan.waveformOffset.toNat % 4 = 0 := by
    rw [← UInt32.toNat_inj, UInt32.toNat_mod]
    rfl
  constructor
  · intro h
    rw [validate] at h
    split_ifs at h with hp ho hc
    obtain ⟨hf, hr⟩ := isValid_iff.mp (by simpa using hc)
    exact ⟨not_not.mp (mt hperiod.mpr hp), hoffset.mp (not_not.mp ho), hf, hr⟩
  · rintro ⟨hp, ho, hf, hr⟩
    have hc := isValid_iff.mpr ⟨hf, hr⟩
    rw [validate, if_neg (mt hperiod.mp (not_not.mpr hp)), if_neg (not_not.mpr (hoffset.mpr ho)), hc]
    rfl

lemma aligned_of_validate (h : c.validate = .ok ()) : c.plan.waveformOffset.toNat % 4 = 0 := (validate_iff.mp h).offset

lemma isValid_of_validate (h : c.validate = .ok ()) : c.calibration.isValid = true :=
  isValid_iff.mpr ⟨(validate_iff.mp h).forward, (validate_iff.mp h).reflected⟩

end RfBoard.Config
