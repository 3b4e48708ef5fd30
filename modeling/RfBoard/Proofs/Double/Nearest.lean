import RfBoard.Number.Reading
import RfBoard.Number.Shortest
import RfBoard.Proofs.Double.Bounded

/-!
Which reals are rounded to a double: half a step around it, with the ends where the mantissa is even.
-/

namespace RfBoard.Double

open Float.Model Float.Model.UnpackedFloat

variable {s s₁ s₂ : Sign} {m n q k r M D m₁ m₂ : Nat} {e t E T e₁ e₂ : Int} {x z : ℝ}
  {em : ExtendedMantissa} {acc : Accuracy}

structure NearestEven (r : Nat) (z : ℝ) : Prop where
  low : r - 1 / 2 ≤ z
  high : z ≤ r + 1 / 2
  odd : r % 2 = 1 → r - 1 / 2 < z ∧ z < r + 1 / 2

structure RoundsTo (x : ℝ) (m : Nat) (e : Int) : Prop where
  nearest : NearestEven m (x / 2 ^ e)
  narrow : Number.narrowBelow m e = true → m - 1 / 4 ≤ x / 2 ^ e

inductive Cut (z : ℝ) : ExtendedMantissa → Prop
  | exact {m : Nat} : z = m → Cut z ⟨m, false, false⟩
  | low {m : Nat} : m < z → z < m + 1 / 2 → Cut z ⟨m, false, true⟩
  | half {m : Nat} : z = m + 1 / 2 → Cut z ⟨m, true, false⟩
  | high {m : Nat} : m + 1 / 2 < z → z < m + 1 → Cut z ⟨m, true, true⟩

namespace Cut

lemma shiftRightOne (h : Cut z em) : Cut (z / 2) em.shiftRightOne := by
  have hm : (em.mantissa : ℝ) = 2 * (em.mantissa / 2 : Nat) + (em.mantissa % 2 : Nat) := by
    exact_mod_cast (Nat.div_add_mod em.mantissa 2).symm
  rcases Nat.mod_two_eq_zero_or_one em.mantissa with hb | hb <;> cases h <;> dsimp only at hb hm <;>
    simp only [ExtendedMantissa.shiftRightOne, hb, bne_self_eq_false, Nat.reduceBNe, Bool.or_false, Bool.or_true,
      Nat.cast_zero, Nat.cast_one] at hm ⊢ <;>
    first
      | refine .exact ?_; linarith
      | refine .low ?_ ?_ <;> linarith
      | refine .half ?_; linarith
      | refine .high ?_ ?_ <;> linarith

lemma shiftRight (h : Cut z em) (k : Nat) : Cut (z / 2 ^ k) (em >>> k) := by
  induction k with
  | zero => rwa [pow_zero, div_one]
  | succ k ih =>
    rw [shiftRight_succ, pow_succ, ← div_div]
    exact ih.shiftRightOne

lemma floor (h : Cut z em) : em.mantissa ≤ z ∧ z < em.mantissa + 1 := by
  cases h <;> exact ⟨by dsimp only; linarith, by dsimp only; linarith⟩

lemma nearestEven (h : Cut z em) : NearestEven em.roundedMantissa z := by
  cases h with
    simp only [ExtendedMantissa.roundedMantissa, ExtendedMantissa.accuracy, Accuracy.roundToNearestEven]
  | exact h => exact ⟨by linarith, by linarith, fun _ => ⟨by linarith, by linarith⟩⟩
  | low h h' => exact ⟨by linarith, by linarith, fun _ => ⟨by linarith, by linarith⟩⟩
  | @half m h =>
    -- the half goes to the even one of the two
    rcases Nat.mod_two_eq_zero_or_one m with hb | hb
    · rw [hb, Nat.add_zero]
      exact ⟨by linarith, by linarith, fun h => by omega⟩
    · rw [hb]
      exact ⟨by push_cast; linarith, by push_cast; linarith, fun h => by omega⟩
  | high h h' =>
    exact ⟨by push_cast; linarith, by push_cast; linarith, fun _ => ⟨by push_cast; linarith, by push_cast; linarith⟩⟩

end Cut

lemma cut_quotient (n : Nat) (hm : 0 < m) :
    Cut ((n : ℝ) / m) (.ofMantissaAndAccuracy (n / m) (accuracyOfFraction (n % m) m)) := by
  have hp : (0 : ℝ) < m := Nat.cast_pos.mpr hm
  have hd : (n : ℝ) / m = (n / m : Nat) + (n % m : Nat) / m := by
    rw [div_eq_iff hp.ne', add_mul, div_mul_cancel₀ _ hp.ne']
    exact_mod_cast (Nat.div_add_mod' n m).symm
  have hr : ((n % m : Nat) : ℝ) / m < 1 := (div_lt_one hp).mpr (Nat.cast_lt.mpr (Nat.mod_lt n hm))
  generalize n % m = r at hd hr
  rw [accuracyOfFraction]
  by_cases hz : r = 0
  · rw [if_pos hz]
    rw [hz, Nat.cast_zero, zero_div, add_zero] at hd
    exact .exact hd
  · rw [if_neg hz]
    have hl : (0 : ℝ) < r / m := div_pos (Nat.cast_pos.mpr (by omega)) hp
    have ht : (r : ℝ) / m * (2 * m) = 2 * r := by field_simp
    rcases lt_trichotomy (2 * r) m with hc | hc | hc
    · rw [compare_lt_iff_lt.mpr hc]
      have : (r : ℝ) / m < 1 / 2 := by
        rw [div_lt_div_iff₀ hp two_pos]
        exact_mod_cast (by omega : r * 2 < 1 * m)
      exact .low (by linarith) (by linarith)
    · rw [compare_eq_iff_eq.mpr hc]
      have : (r : ℝ) / m = 1 / 2 := by
        rw [div_eq_div_iff hp.ne' two_ne_zero]
        exact_mod_cast (by omega : r * 2 = 1 * m)
      exact .half (by linarith)
    · rw [compare_gt_iff_gt.mpr hc]
      have : 1 / 2 < (r : ℝ) / m := by
        rw [div_lt_div_iff₀ two_pos hp]
        exact_mod_cast (by omega : 1 * m < r * 2)
      exact .high (by linarith) (by linarith)

lemma cut_divCore (hm₂ : 0 < m₂) :
    Cut (scaled m₁ e₁ / scaled m₂ e₂ / 2 ^ (divCore .binary64 m₁ e₁ m₂ e₂).2.1)
      (.ofMantissaAndAccuracy (divCore .binary64 m₁ e₁ m₂ e₂).1 (divCore .binary64 m₁ e₁ m₂ e₂).2.2) := by
  obtain ⟨t, ht⟩ : ∃ t, t = min (e₁ - e₂)
    (Format.binary64.targetExponent (totalExponent m₁ e₁ - totalExponent m₂ e₂)) := ⟨_, rfl⟩
  simp only [divCore, ← ht, Nat.shiftLeft_eq]
  have hx : scaled m₁ e₁ / scaled m₂ e₂ / 2 ^ t = (m₁ * 2 ^ (e₁ - e₂ - t).toNat : Nat) / m₂ := by
    have he : e₁ = e₂ + t + ((e₁ - e₂ - t).toNat : Int) := by omega
    rw [scaled, scaled, he, zpow_add₀ two_ne_zero, zpow_add₀ two_ne_zero, zpow_natCast, ← he]
    push_cast
    field_simp
  rw [hx]
  exact cut_quotient _ hm₂

lemma cut_sqrt (n : Nat) : Cut √n (.ofMantissaAndAccuracy n.sqrt
    (if n - n.sqrt * n.sqrt = 0 then .exact
    else .inexact (if n - n.sqrt * n.sqrt ≤ n.sqrt then .lt else .gt))) := by
  have hl := Nat.sqrt_le n
  have hu := Nat.lt_succ_sqrt n
  generalize n.sqrt = q at hl hu
  by_cases hz : n - q * q = 0
  · obtain rfl : n = q * q := by omega
    rw [if_pos hz, Nat.cast_mul, Real.sqrt_mul_self (Nat.cast_nonneg q)]
    exact .exact rfl
  rw [if_neg hz]
  -- the remainder is an integer, so the root is never half way
  by_cases hq : n - q * q ≤ q
  · have hlow : (q : ℝ) * q < n := by exact_mod_cast (by omega : q * q < n)
    have hup : (n : ℝ) ≤ q * q + q := by exact_mod_cast (by omega : n ≤ q * q + q)
    rw [if_pos hq]
    refine .low (Real.lt_sqrt_of_sq_lt ?_) ((Real.sqrt_lt' (by positivity)).mpr ?_) <;> nlinarith only [hlow, hup]
  · have hlow : (q : ℝ) * q + q + 1 ≤ n := by exact_mod_cast (by omega : q * q + q + 1 ≤ n)
    have hup : (n : ℝ) < (q + 1) * (q + 1) := by exact_mod_cast hu
    rw [if_neg hq]
    refine .high (Real.lt_sqrt_of_sq_lt ?_) ((Real.sqrt_lt' (by positivity)).mpr ?_) <;> nlinarith only [hlow, hup]

lemma cut_sqrtCore (m : Nat) (e : Int) : Cut (√(scaled m e) / 2 ^ (sqrtCore .binary64 m e).2.1)
    (.ofMantissaAndAccuracy (sqrtCore .binary64 m e).1 (sqrtCore .binary64 m e).2.2) := by
  obtain ⟨t, ht⟩ : ∃ t, t = min (e.ediv 2)
    (Format.binary64.targetExponent ((totalExponent m e + 1).ediv 2)) := ⟨_, rfl⟩
  simp only [sqrtCore, ← ht, Nat.shiftLeft_eq]
  have hh : e.ediv 2 = e / 2 := rfl
  rw [sqrt_scaled (by omega : e = 2 * t + (e - 2 * t).toNat), mul_div_cancel_right₀ _ (by positivity)]
  exact cut_sqrt _

lemma NearestEven.mono {z' : ℝ} (h : NearestEven r z) (h' : NearestEven m z') (hz : z ≤ z') : r ≤ m := by
  by_contra hlt
  have hm : (m : ℝ) + 1 ≤ r := by exact_mod_cast (by omega : m + 1 ≤ r)
  have hl := h.low
  have hu := h'.high
  -- then both are half way from `m` to `m + 1`, and one of the two is odd
  have hr : (r : ℝ) = m + 1 := by linarith
  have hr' : r = m + 1 := by exact_mod_cast hr
  rcases Nat.mod_two_eq_zero_or_one r with hb | hb
  · have ho := h'.odd (by omega)
    linarith
  · have ho := h.odd hb
    linarith

lemma NearestEven.unique (h : NearestEven r z) (h' : NearestEven m z) : r = m :=
  le_antisymm (h.mono h' le_rfl) (h'.mono h le_rfl)

lemma RoundsTo.eq_least (h : RoundsTo x M E) (hM : Canonical M E) (hE : -1074 < E) (hx : x / 2 ^ E < 2 ^ 52) :
    M = 2 ^ 52 ∧ 2 ^ 52 - 1 / 4 ≤ x / 2 ^ E := by
  have hf := hM.full.resolve_right hE.ne'
  have hM' : (M : ℝ) < 2 ^ 52 + 1 := by linarith [h.nearest.low]
  obtain rfl : M = 2 ^ 52 := by
    have : M < 2 ^ 52 + 1 := by exact_mod_cast hM'
    omega
  have hn : Number.narrowBelow (2 ^ 52) E = true := by simpa [Number.narrowBelow] using hE
  exact ⟨rfl, by exact_mod_cast h.narrow hn⟩

lemma RoundsTo.exponent (h : RoundsTo x M E) (hM : Canonical M E) (hq : q < 2 ^ 53) (hfull : 2 ^ 52 ≤ q ∨ t = -1074)
    (ht : -1074 ≤ t) (hl : (q : ℝ) ≤ x / 2 ^ t) (hu : x / 2 ^ t < q + 1) :
    t = E ∨ t + 1 = E ∧ M = 2 ^ 52 ∧ 2 ^ 53 - 1 / 2 ≤ x / 2 ^ t ∧ x / 2 ^ t < 2 ^ 53 := by
  have hq' : (q : ℝ) + 1 ≤ 2 ^ 53 := by exact_mod_cast hq
  have hscale : x / 2 ^ E = x / 2 ^ t * 2 ^ (t - E) := by
    rw [zpow_sub₀ two_ne_zero]
    field_simp
  rcases lt_trichotomy t E with hlt | rfl | hgt
  · obtain ⟨d, hd⟩ := Int.eq_ofNat_of_zero_le (show 0 ≤ E - t - 1 by omega)
    have hp : (1 : ℝ) ≤ 2 ^ d := one_le_pow₀ one_le_two
    have hz : x / 2 ^ t = x / 2 ^ E * 2 * 2 ^ d := by
      rw [hscale, show t - E = -((d + 1 : Nat) : Int) by push_cast; omega, zpow_neg, zpow_natCast, pow_succ]
      field_simp
    have hE : x / 2 ^ E < 2 ^ 52 := by nlinarith
    obtain ⟨hM₀, hw⟩ := h.eq_least hM (by omega) hE
    have hd₀ : d = 0 := by
      by_contra hd₀
      have : (2 : ℝ) ^ 1 ≤ 2 ^ d := pow_le_pow_right₀ one_le_two (by omega)
      nlinarith
    rw [hd₀, pow_zero, mul_one] at hz
    exact .inr ⟨by omega, hM₀, by linarith, by linarith⟩
  · exact .inl rfl
  · have hE := hM.least
    have hf : (2 : ℝ) ^ 52 ≤ q := by exact_mod_cast hfull.resolve_right (by omega)
    have hp : (2 : ℝ) ^ (1 : Int) ≤ 2 ^ (t - E) := zpow_le_zpow_right₀ one_le_two (by omega)
    rw [zpow_one] at hp
    have hM' : (M : ℝ) + 1 ≤ 2 ^ 53 := by exact_mod_cast hM.lt
    have hh := h.nearest.high
    nlinarith

theorem roundWithAccuracy_of_roundsTo (h : Approximates q e acc T x) (hc : Cut (x / 2 ^ e) (.ofMantissaAndAccuracy q acc))
    (hM : Canonical M E) (hp : 0 < M) (hx : RoundsTo x M E) :
    roundWithAccuracy .binary64 s q e acc = .finite s M E hp := by
  obtain ⟨t, ht⟩ : ∃ t, t = Format.binary64.targetExponent (totalExponent q e) := ⟨_, rfl⟩
  have he : e ≤ t := ht ▸ h.exponent_le
  obtain ⟨k, hk⟩ : ∃ k, k = (t - e).toNat := ⟨_, rfl⟩
  have hz : x / 2 ^ t = x / 2 ^ e / 2 ^ k := by
    rw [show t = e + (k : Int) by omega, zpow_add₀ two_ne_zero, zpow_natCast, div_div]
  have hcut := hz ▸ hc.shiftRight k
  have hn : NearestEven (shortened q acc k) (x / 2 ^ t) := hcut.nearestEven
  obtain ⟨hl, hu⟩ := hcut.floor
  rw [mantissa_shiftRight, mantissa_ofMantissaAndAccuracy] at hl hu
  obtain ⟨hlt, hfull⟩ := div_two_pow_target ht he
  have hleast : -1074 ≤ t := by
    rw [ht, targetExponent_eq]
    exact le_max_right _ _
  have hcases := @roundWithAccuracy_cases s q e t acc ht he
  rw [← hk] at hlt hfull hcases
  rcases hx.exponent hM hlt hfull hleast hl hu with rfl | ⟨rfl, rfl, hw, hw'⟩
  · have hr := hn.unique hx.nearest
    rw [hr] at hcases
    rcases hcases with ⟨hr₀, -⟩ | ⟨_, hf, -⟩ | ⟨hb, -, -⟩
    · omega
    · exact hf
    · exact absurd hM.lt (by omega)
  · have hr : shortened q acc k = 2 ^ 53 := by
      refine hn.unique ⟨by push_cast; linarith, by push_cast; linarith, fun h => by omega⟩
    rw [hr] at hcases
    rcases hcases with ⟨hr₀, -⟩ | ⟨_, -, hc⟩ | ⟨-, hf, -⟩
    · omega
    · exact absurd hc.lt (by omega)
    · exact hf

lemma div_of_roundsTo {hm₁ : 0 < m₁} {hm₂ : 0 < m₂} (hM : Canonical M E) (hp : 0 < M)
    (hx : RoundsTo (scaled m₁ e₁ / scaled m₂ e₂) M E) :
    UnpackedFloat.div .binary64 (.finite s₁ m₁ e₁ hm₁) (.finite s₂ m₂ e₂ hm₂) = .finite (s₁ / s₂) M E hp :=
  roundWithAccuracy_of_roundsTo (approximates_divCore hm₁ hm₂) (cut_divCore hm₂) hM hp hx

lemma RoundsTo.two_zpow_le (h : RoundsTo x M E) (hM : Canonical M E) (hp : 0 < M) : (2 : ℝ) ^ (-1075 : Int) ≤ x := by
  have hl := h.nearest.low
  have h₁ : (1 : ℝ) ≤ M := by exact_mod_cast hp
  have hw : (1 : ℝ) / 2 ≤ x / 2 ^ E := by linarith
  rw [le_div_iff₀ (by positivity)] at hw
  refine le_trans ?_ hw
  rw [show (1 : ℝ) / 2 = 2 ^ (-1 : Int) by norm_num, ← zpow_add₀ two_ne_zero]
  exact zpow_le_zpow_right₀ one_le_two (by have := hM.least; omega)

lemma compareScaled_eq (a : Nat) (k : Int) (b : Nat) (e : Int) :
    Number.compareScaled a k b e = compare ((a : ℝ) * 10 ^ k) (scaled b e) := by
  obtain ⟨c, hc⟩ : ∃ c : ℝ, c = 10 ^ (-k).toNat * 2 ^ (-e).toNat := ⟨_, rfl⟩
  have hc₀ : 0 < c := by
    rw [hc]
    positivity
  have ha : (((a * Nat.pow 10 k.toNat) <<< (-e).toNat : Nat) : ℝ) = a * 10 ^ k * c := by
    have hk : (k.toNat : Int) = k + (-k).toNat := by omega
    rw [hc, Nat.shiftLeft_eq, Nat.pow_eq, Nat.cast_mul, Nat.cast_mul, Nat.cast_pow, Nat.cast_pow, ← zpow_natCast _ k.toNat,
      hk, Nat.cast_ofNat, zpow_add₀ (by norm_num), zpow_natCast]
    ring
  have hb : ((b <<< e.toNat * Nat.pow 10 (-k).toNat : Nat) : ℝ) = scaled b e * c := by
    have he : (e.toNat : Int) = e + (-e).toNat := by omega
    rw [hc, scaled, Nat.shiftLeft_eq, Nat.pow_eq, Nat.cast_mul, Nat.cast_mul, Nat.cast_pow, Nat.cast_pow,
      ← zpow_natCast _ e.toNat, he, Nat.cast_ofNat, zpow_add₀ two_ne_zero, zpow_natCast]
    push_cast
    ring
  rw [Number.compareScaled]
  rcases lt_trichotomy ((a : ℝ) * 10 ^ k) (scaled b e) with h | h | h
  · rw [compare_lt_iff_lt.mpr h, compare_lt_iff_lt, ← Nat.cast_lt (α := ℝ), ha, hb]
    exact mul_lt_mul_of_pos_right h hc₀
  · rw [compare_eq_iff_eq.mpr h, compare_eq_iff_eq, ← Nat.cast_inj (R := ℝ), ha, hb, h]
  · rw [compare_gt_iff_gt.mpr h, compare_gt_iff_gt, ← Nat.cast_lt (α := ℝ), ha, hb]
    exact mul_lt_mul_of_pos_right h hc₀

def isPowerOfTen (i : Nat) : UnpackedFloat → Bool
  | .finite .positive m e _ => Number.compareScaled 1 i m e == .eq
  | _ => false

lemma isPowerOfTen_table : ∀ i : Fin Float.exactlyRepresentablePowersOfTen.size,
    isPowerOfTen i Float.exactlyRepresentablePowersOfTen[i].toModel.unpack = true := by
  decide +kernel

lemma unpack_powerOfTen {i : Nat} (hi : i < Float.exactlyRepresentablePowersOfTen.size) : ∃ m e hm,
    Float.exactlyRepresentablePowersOfTen[i].toModel.unpack = .finite .positive m e hm ∧ scaled m e = 10 ^ i := by
  have h := isPowerOfTen_table ⟨i, hi⟩
  rw [Fin.getElem_fin] at h
  generalize Float.exactlyRepresentablePowersOfTen[i].toModel.unpack = u at h
  cases u with
  | finite s m e hm =>
    cases s with
    | positive =>
      rw [isPowerOfTen, beq_iff_eq, compareScaled_eq, compare_eq_iff_eq] at h
      exact ⟨m, e, hm, rfl, by simpa using h.symm⟩
    | negative => cases h
  | zero => cases h
  | infinity => cases h
  | notANumber => cases h

lemma lt_two_zpow (D k : Nat) : (D : ℝ) / 10 ^ k < 2 ^ ((D.log2 : Int) + 1 - k) := by
  have hD : (D : ℝ) < 2 ^ (D.log2 + 1) := by exact_mod_cast Nat.lt_log2_self
  calc (D : ℝ) / 10 ^ k < 2 ^ (D.log2 + 1) / 2 ^ k := by
        gcongr
        norm_num
    _ = 2 ^ ((D.log2 : Int) + 1 - k) := by
        rw [zpow_sub₀ two_ne_zero, zpow_natCast]
        norm_cast

lemma lt_ten_zpow (D k : Nat) : (D : ℝ) / 10 ^ k < 10 ^ (-(k : Int) + (Number.ofScaled.digits D : Int)) := by
  have hD : D < 10 ^ Number.ofScaled.digits D := by
    calc D < 2 ^ (D.log2 + 1) := Nat.lt_log2_self
      _ ≤ 2 ^ (3 * Number.ofScaled.digits D) :=
        Nat.pow_le_pow_right two_pos (by rw [Number.ofScaled.digits]; omega)
      _ = 8 ^ Number.ofScaled.digits D := by rw [Nat.pow_mul]
      _ ≤ 10 ^ Number.ofScaled.digits D := Nat.pow_le_pow_left (by decide) _
  calc (D : ℝ) / 10 ^ k < 10 ^ Number.ofScaled.digits D / 10 ^ k := by
        gcongr
        exact_mod_cast hD
    _ = 10 ^ (-(k : Int) + (Number.ofScaled.digits D : Int)) := by
        rw [zpow_add₀ (by norm_num), zpow_neg, zpow_natCast, zpow_natCast]
        field_simp

theorem unpack_ofScientific (hk : 0 < k) (hD : 0 < D) (hM : Canonical M E) (hp : 0 < M) (hE : E ≤ 971)
    (h : RoundsTo (D / 10 ^ k) M E) : (Float.ofScientific D true k).toModel.unpack = .finite .positive M E hp := by
  by_cases hshort : D < 2 ^ 53 ∧ k ≤ 22
  · have hk' : k < Float.exactlyRepresentablePowersOfTen.size := Nat.lt_succ_of_le hshort.2
    obtain ⟨m, e, hm, hu, hten⟩ := unpack_powerOfTen hk'
    have hs : Float.ofScientific D true k = D.toUInt64.toFloat / Float.exactlyRepresentablePowersOfTen[k] :=
      dif_pos hshort
    have ht : D.toUInt64.toNat = D := by
      change D % 2 ^ 64 = D
      omega
    have hf := unpack_toFloat (x := D.toUInt64) (by omega) (by omega)
    simp only [ht] at hf
    rw [← hten, ← scaled_shifted D (52 - D.log2)] at h
    rw [hs, unpack_div, hf, hu, div_of_roundsTo hM hp h]
    exact model_unpack_pack hp hM hE
  · have hguard : ¬ Int.negOfNat k < -(2 ^ Format.binary64.exponentBits + D.log2 : Int) := by
      change ¬ -(k : Int) < -(2 ^ 11 + D.log2 : Int)
      intro hlt
      have hsmall : (2 : ℝ) ^ ((D.log2 : Int) + 1 - k) ≤ 2 ^ (-1075 : Int) :=
        zpow_le_zpow_right₀ one_le_two (by omega)
      exact absurd (h.two_zpow_le hM hp) (not_le.mpr ((lt_two_zpow D k).trans_le hsmall))
    have hneg : Int.negOfNat k = -k := rfl
    have hten : (D : ℝ) / 10 ^ k = scaled D 0 / scaled (10 ^ (-Int.negOfNat k).toNat) 0 := by
      rw [hneg, neg_neg, Int.toNat_natCast]
      simp [scaled]
    rw [hten] at h
    have hu : (Float.ofScientific D true k).toModel.unpack =
        (Float.Model.pack (UnpackedFloat.ofScientific .binary64 D (Int.negOfNat k))).unpack := by
      rw [Float.ofScientific, dif_neg hshort]
      rfl
    rw [hu, UnpackedFloat.ofScientific, dif_neg hD.ne', if_neg (by rw [hneg]; change ¬ -(k : Int) > 2 ^ 11; omega),
      if_neg hguard, if_neg (by omega), div_of_roundsTo hM hp h]
    exact model_unpack_pack hp hM hE

theorem unpack_ofScaled (hk : 0 < k) (hD : 0 < D) (hM : Canonical M E) (hp : 0 < M) (hE : E ≤ 971)
    (h : RoundsTo (D / 10 ^ k) M E) : (Number.ofScaled D (-k)).toModel.unpack = .finite .positive M E hp := by
  have hguard : ¬ -(k : Int) + (Number.ofScaled.digits D : Int) < -400 := by
    intro hlt
    have hpow : (2 : ℝ) ^ 1075 ≤ 10 ^ 400 := by exact_mod_cast (by decide +kernel : 2 ^ 1075 ≤ 10 ^ 400)
    have hsmall : (10 : ℝ) ^ (-(k : Int) + (Number.ofScaled.digits D : Int)) ≤ 2 ^ (-1075 : Int) :=
      calc (10 : ℝ) ^ (-(k : Int) + (Number.ofScaled.digits D : Int)) ≤ 10 ^ (-400 : Int) :=
            zpow_le_zpow_right₀ (by norm_num) (by omega)
        _ ≤ 2 ^ (-1075 : Int) := by
            rw [zpow_neg, zpow_neg]
            exact inv_anti₀ (by positivity) (by exact_mod_cast hpow)
    exact absurd (h.two_zpow_le hM hp) (not_le.mpr ((lt_ten_zpow D k).trans_le hsmall))
  rw [Number.ofScaled, if_neg hD.ne', if_neg (by omega), if_neg hguard, decide_eq_true (by omega), Int.natAbs_neg,
    Int.natAbs_natCast]
  exact unpack_ofScientific hk hD hM hp hE h

end RfBoard.Double
