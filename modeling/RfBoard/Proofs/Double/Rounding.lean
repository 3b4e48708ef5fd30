import RfBoard.Proofs.Double.Packing

namespace RfBoard.Double

open Float.Model Float.Model.UnpackedFloat

variable {s : Sign} {m k N : Nat} {e t : Int} {acc : Accuracy}

lemma targetExponent_eq (t : Int) : Format.binary64.targetExponent t = max (t - 53) (-1074) := rfl

lemma Canonical.targetExponent (h : Canonical m e) : Format.binary64.targetExponent (totalExponent m e) = e := by
  have hl := h.log2_le
  have hb := h.least
  rw [targetExponent_eq, totalExponent]
  rcases h.full with hf | rfl
  · rw [log2_full hf h.lt]
    omega
  · omega

lemma shiftRight_succ (em : ExtendedMantissa) (k : Nat) : em >>> (k + 1) = (em >>> k).shiftRightOne := rfl

lemma shiftRight_exact (m k : Nat) : (⟨m * 2 ^ k, false, false⟩ : ExtendedMantissa) >>> k = ⟨m, false, false⟩ := by
  induction k generalizing m with
  | zero =>
    rw [Nat.pow_zero, Nat.mul_one]
    rfl
  | succ k ih =>
    have hm : m * 2 ^ (k + 1) = 2 * m * 2 ^ k := by
      rw [Nat.pow_succ]
      ac_rfl
    rw [shiftRight_succ, hm, ih, ExtendedMantissa.shiftRightOne]
    simp

lemma mantissa_shiftRight (em : ExtendedMantissa) (k : Nat) : (em >>> k).mantissa = em.mantissa / 2 ^ k := by
  induction k with
  | zero => exact (Nat.div_one _).symm
  | succ k ih =>
    rw [shiftRight_succ, ExtendedMantissa.shiftRightOne, ih, Nat.div_div_eq_div_mul, Nat.pow_succ]

lemma le_roundedMantissa (em : ExtendedMantissa) : em.mantissa ≤ em.roundedMantissa := by
  obtain ⟨m, _ | _, _ | _⟩ := em <;>
    simp only [ExtendedMantissa.roundedMantissa, ExtendedMantissa.accuracy, Accuracy.roundToNearestEven] <;> omega

lemma roundedMantissa_le (em : ExtendedMantissa) : em.roundedMantissa ≤ em.mantissa + 1 := by
  obtain ⟨m, _ | _, _ | _⟩ := em <;>
    simp only [ExtendedMantissa.roundedMantissa, ExtendedMantissa.accuracy, Accuracy.roundToNearestEven] <;> omega

lemma shiftToTargetExponent_canonical (h : Canonical m e) :
    shiftToTargetExponent .binary64 m e .exact = (⟨m, false, false⟩, e) := by
  rw [shiftToTargetExponent, h.targetExponent, shiftToExponent, Int.sub_self]
  exact Prod.ext rfl (Int.add_zero e)

lemma log2_mul_two_pow (hm : 0 < m) (k : Nat) : (m * 2 ^ k).log2 = m.log2 + k := by
  induction k with
  | zero => rw [Nat.pow_zero, Nat.mul_one, Nat.add_zero]
  | succ k ih =>
    have hk : m * 2 ^ (k + 1) = 2 * (m * 2 ^ k) := by
      rw [Nat.pow_succ]
      ac_rfl
    have hz : m * 2 ^ k ≠ 0 := Nat.ne_of_gt (Nat.mul_pos hm (Nat.two_pow_pos k))
    rw [hk, Nat.log2_two_mul hz, ih]
    rfl

lemma totalExponent_mul_two_pow (hm : 0 < m) (k : Nat) (e : Int) :
    totalExponent (m * 2 ^ k) (e - k) = totalExponent m e := by
  rw [totalExponent, totalExponent, log2_mul_two_pow hm]
  push_cast
  omega

lemma shiftToTargetExponent_multiple (hm : 0 < m) (h : Canonical m e) (k : Nat) :
    shiftToTargetExponent .binary64 (m * 2 ^ k) (e - k) .exact = (⟨m, false, false⟩, e) := by
  have hk : (e - (e - k)).toNat = k := by omega
  rw [shiftToTargetExponent, totalExponent_mul_two_pow hm, h.targetExponent, shiftToExponent, hk]
  exact Prod.ext (shiftRight_exact m k) (by dsimp only; omega)

theorem roundWithAccuracy_multiple (hm : 0 < m) (h : Canonical m e) (k : Nat) :
    roundWithAccuracy .binary64 s (m * 2 ^ k) (e - k) .exact = .finite s m e hm := by
  have hz : m ≠ 0 := by omega
  have hr : (⟨m, false, false⟩ : ExtendedMantissa).roundedMantissa = m := rfl
  simp only [roundWithAccuracy, shiftToTargetExponent_multiple hm h, hr, shiftToTargetExponent_canonical h, hz,
    dite_false]

lemma round_of_shift (hm : 0 < m) {k : Nat} (h : Canonical (m * 2 ^ k) (e - k)) :
    UnpackedFloat.round .binary64 s m e =
      .finite s (m * 2 ^ k) (e - k) (Nat.mul_pos hm (Nat.two_pow_pos k)) := by
  have ht : Format.binary64.targetExponent (totalExponent m e) = e - k := by
    rw [← totalExponent_mul_two_pow hm k, h.targetExponent]
  have hk : (e - (e - k)).toNat = k := by omega
  have hr : roundWithAccuracy .binary64 s (m * 2 ^ k * 2 ^ 0) (e - k - (0 : Nat)) .exact = _ :=
    roundWithAccuracy_multiple (Nat.mul_pos hm (Nat.two_pow_pos k)) h 0
  simp only [UnpackedFloat.round, ht, decreaseExponent, hk, Nat.shiftLeft_eq]
  simpa using hr

def ceiling (m : Nat) : Accuracy → Nat
  | .exact => m
  | .inexact _ => m + 1

lemma le_ceiling (m : Nat) (acc : Accuracy) : m ≤ ceiling m acc := by
  cases acc with
  | exact => exact le_rfl
  | inexact o => exact Nat.le_succ m

lemma mantissa_ofMantissaAndAccuracy (m : Nat) (acc : Accuracy) :
    (ExtendedMantissa.ofMantissaAndAccuracy m acc).mantissa = m := by
  obtain _ | (_ | _ | _) := acc <;> rfl

def shortened (m : Nat) (acc : Accuracy) (k : Nat) : Nat :=
  (ExtendedMantissa.ofMantissaAndAccuracy m acc >>> k).roundedMantissa

lemma le_shortened (m : Nat) (acc : Accuracy) (k : Nat) : m / 2 ^ k ≤ shortened m acc k := by
  have h := le_roundedMantissa (ExtendedMantissa.ofMantissaAndAccuracy m acc >>> k)
  rwa [mantissa_shiftRight, mantissa_ofMantissaAndAccuracy] at h

lemma shortened_le (m : Nat) (acc : Accuracy) (k : Nat) : shortened m acc k ≤ m / 2 ^ k + 1 := by
  have h := roundedMantissa_le (ExtendedMantissa.ofMantissaAndAccuracy m acc >>> k)
  rwa [mantissa_shiftRight, mantissa_ofMantissaAndAccuracy] at h

lemma shortened_le_of_ceiling (h : ceiling m acc ≤ N * 2 ^ k) : shortened m acc k ≤ N := by
  rcases Nat.lt_or_ge (m / 2 ^ k) N with hlt | hge
  · exact (shortened_le m acc k).trans hlt
  · -- nothing of `m` is below the integer then, so there is nothing to round up
    have hm : N * 2 ^ k ≤ m := (Nat.le_div_iff_mul_le (Nat.two_pow_pos k)).mp hge
    have hc := le_ceiling m acc
    obtain rfl : m = N * 2 ^ k := by omega
    cases acc with
    | exact =>
      rw [shortened, ExtendedMantissa.ofMantissaAndAccuracy, shiftRight_exact]
      exact le_rfl
    | inexact o => exact absurd h (Nat.not_succ_le_self _)

lemma shiftToTargetExponent_eq (ht : e ≤ Format.binary64.targetExponent (totalExponent m e)) :
    shiftToTargetExponent .binary64 m e acc =
      (ExtendedMantissa.ofMantissaAndAccuracy m acc >>>
          (Format.binary64.targetExponent (totalExponent m e) - e).toNat,
        Format.binary64.targetExponent (totalExponent m e)) := by
  rw [shiftToTargetExponent, shiftToExponent]
  exact Prod.ext rfl (by dsimp only; omega)

lemma div_two_pow_target (ht : t = Format.binary64.targetExponent (totalExponent m e)) (he : e ≤ t) :
    m / 2 ^ (t - e).toNat < 2 ^ 53 ∧ (2 ^ 52 ≤ m / 2 ^ (t - e).toNat ∨ t = -1074) := by
  obtain ⟨k, hk⟩ : ∃ k, k = (t - e).toNat := ⟨_, rfl⟩
  rw [← hk]
  rw [targetExponent_eq, totalExponent] at ht
  rcases Nat.eq_zero_or_pos m with rfl | hm
  · rw [Nat.zero_div, Nat.log2_zero] at *
    omega
  constructor
  · rw [Nat.div_lt_iff_lt_mul (Nat.two_pow_pos k), ← Nat.pow_add]
    exact (Nat.log2_lt (by omega)).mp (by omega)
  · by_cases hl : t = -1074
    · exact .inr hl
    · left
      rw [Nat.le_div_iff_mul_le (Nat.two_pow_pos k), ← Nat.pow_add]
      exact (Nat.le_log2 (by omega)).mp (by omega)

theorem roundWithAccuracy_cases (ht : t = Format.binary64.targetExponent (totalExponent m e)) (he : e ≤ t) :
    (shortened m acc (t - e).toNat = 0 ∧ roundWithAccuracy .binary64 s m e acc = .zero s) ∨
      (∃ hr, roundWithAccuracy .binary64 s m e acc = .finite s (shortened m acc (t - e).toNat) t hr ∧
        Canonical (shortened m acc (t - e).toNat) t) ∨
      shortened m acc (t - e).toNat = 2 ^ 53 ∧
        roundWithAccuracy .binary64 s m e acc = .finite s (2 ^ 52) (t + 1) (by decide) ∧
        Canonical (2 ^ 52) (t + 1) := by
  obtain ⟨hlt, hfull⟩ := div_two_pow_target ht he
  have hl := le_shortened m acc (t - e).toNat
  have hu := shortened_le m acc (t - e).toNat
  have hleast : -1074 ≤ t := by
    rw [ht, targetExponent_eq]
    exact le_max_right _ _
  have h₁ : shiftToTargetExponent .binary64 m e acc =
      (ExtendedMantissa.ofMantissaAndAccuracy m acc >>> (t - e).toNat, t) := by
    rw [shiftToTargetExponent_eq (ht ▸ he), ← ht]
  have hr : (ExtendedMantissa.ofMantissaAndAccuracy m acc >>> (t - e).toNat).roundedMantissa =
    shortened m acc (t - e).toNat := rfl
  generalize shortened m acc (t - e).toNat = r at hl hu hr
  by_cases hc : r < 2 ^ 53
  · have hcan : Canonical r t := ⟨hc, hleast, by omega⟩
    have h₂ := shiftToTargetExponent_canonical hcan
    rcases Nat.eq_zero_or_pos r with rfl | hp
    · exact .inl ⟨rfl, by simp only [roundWithAccuracy, h₁, hr, h₂, dite_true]⟩
    · have hz : r ≠ 0 := by omega
      exact .inr (.inl ⟨hp, by simp only [roundWithAccuracy, h₁, hr, h₂, hz, dite_false], hcan⟩)
  · have hcan : Canonical (2 ^ 52) (t + 1) := ⟨by decide, by omega, .inl (by decide)⟩
    have h₂ := shiftToTargetExponent_multiple (by decide) hcan 1
    obtain rfl : r = 2 ^ 52 * 2 ^ 1 := by omega
    rw [show t + 1 - (1 : Nat) = t by omega] at h₂
    have hz : (2 : Nat) ^ 52 ≠ 0 := by decide
    refine .inr (.inr ⟨rfl, ?_, hcan⟩)
    simp only [roundWithAccuracy, h₁, hr, h₂, hz, dite_false]

theorem roundWithAccuracy_long (hm : 52 ≤ m.log2) (he : -1074 ≤ e + (m.log2 - 52 : Nat)) :
    ∃ r t hr, roundWithAccuracy .binary64 s m e .exact = .finite s r t hr ∧ Canonical r t ∧ 2 ^ 52 ≤ r ∧
      e + (m.log2 - 52 : Nat) ≤ t ∧ t ≤ e + (m.log2 - 52 : Nat) + 1 := by
  obtain ⟨t, ht⟩ : ∃ t, t = e + (m.log2 - 52 : Nat) := ⟨_, rfl⟩
  rw [← ht] at he ⊢
  have htarget : t = Format.binary64.targetExponent (totalExponent m e) := by
    rw [targetExponent_eq, totalExponent]
    omega
  have hm₀ : m ≠ 0 := by
    rintro rfl
    exact absurd hm (by decide)
  have hfull : 2 ^ 52 ≤ m / 2 ^ (t - e).toNat := by
    rw [Nat.le_div_iff_mul_le (Nat.two_pow_pos _), ← Nat.pow_add]
    exact (Nat.le_log2 hm₀).mp (by omega)
  have hr := hfull.trans (le_shortened m .exact (t - e).toNat)
  rcases @roundWithAccuracy_cases s m e t .exact htarget (by omega) with ⟨hz, _⟩ | ⟨hp, hf, hc⟩ | ⟨_, hf, hc⟩
  · omega
  · exact ⟨_, _, hp, hf, hc, hr, le_rfl, by omega⟩
  · exact ⟨_, _, by decide, hf, hc, le_rfl, by omega, le_rfl⟩

end RfBoard.Double
