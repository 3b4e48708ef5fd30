import RfBoard.Proofs.Double.Nearest
import RfBoard.Proofs.Double.RealValue

/-!
Arithmetic on doubles as rounded arithmetic on reals.
-/

namespace RfBoard.Double

open Float.Model Float.Model.UnpackedFloat

variable {s : Sign} {m q n : Nat} {e T : Int} {acc : Accuracy} {a b r z z' : ℝ} {x y : Float}

noncomputable def roundEven (z : ℝ) : Nat :=
  if z + z < (2 * ⌊z⌋₊ + 1 : Nat) ∨ z + z = (2 * ⌊z⌋₊ + 1 : Nat) ∧ ⌊z⌋₊ % 2 = 0 then ⌊z⌋₊ else ⌊z⌋₊ + 1

lemma nearestEven_roundEven (hz : 0 ≤ z) : NearestEven (roundEven z) z := by
  have hl := Nat.floor_le hz
  have hu := Nat.lt_floor_add_one z
  rw [roundEven]
  push_cast
  split
  · rename_i h
    refine ⟨by linarith, by rcases h with h | h <;> linarith, fun ho => ⟨by linarith, ?_⟩⟩
    rcases h with h | h
    · linarith
    · omega
  · rename_i h
    obtain ⟨h₁, h₂⟩ := not_or.mp h
    refine ⟨by push_cast; linarith, by push_cast; linarith, fun ho => ⟨?_, by push_cast; linarith⟩⟩
    have hne : z + z ≠ 2 * ⌊z⌋₊ + 1 := fun he => h₂ ⟨he, by omega⟩
    have hlt := lt_of_le_of_ne (not_lt.mp h₁) hne.symm
    push_cast
    linarith

lemma nearestEven_natCast (n : Nat) : NearestEven n n := ⟨by linarith, by linarith, fun _ => ⟨by linarith, by linarith⟩⟩

lemma roundEven_le_natCast (hz : 0 ≤ z) (h : z ≤ n) : roundEven z ≤ n :=
  (nearestEven_roundEven hz).mono (nearestEven_natCast n) h

lemma natCast_le_roundEven (h : n ≤ z) : n ≤ roundEven z :=
  (nearestEven_natCast n).mono (nearestEven_roundEven ((Nat.cast_nonneg n).trans h)) h

lemma abs_roundEven_sub_le (hz : 0 ≤ z) : |(roundEven z : ℝ) - z| ≤ 1 / 2 := by
  have h := nearestEven_roundEven hz
  exact abs_le.mpr ⟨by linarith [h.high], by linarith [h.low]⟩

noncomputable def gridExponent (r : ℝ) : Int := max (Int.log 2 r - 52) (-1074)

lemma gridExponent_eq (hl : (2 : ℝ) ^ T ≤ r) (hu : r < 2 ^ (T + 1)) : gridExponent r = max (T - 52) (-1074) := by
  have hr : 0 < r := lt_of_lt_of_le (by positivity) hl
  have h₁ : T ≤ Int.log 2 r := (Int.zpow_le_iff_le_log one_lt_two hr).mp (by exact_mod_cast hl)
  have h₂ : Int.log 2 r < T + 1 := (Int.lt_zpow_iff_log_lt one_lt_two hr).mp (by exact_mod_cast hu)
  rw [gridExponent]
  omega

lemma gridExponent_mono (ha : 0 < a) (hab : a ≤ b) : gridExponent a ≤ gridExponent b :=
  max_le_max_right _ (Int.sub_le_sub_right (Int.log_mono_right ha hab) 52)

lemma div_grid_lt (r : ℝ) : r / 2 ^ gridExponent r < 2 ^ 53 := by
  have hu := Int.lt_zpow_succ_log_self one_lt_two r
  have hg : Int.log 2 r + 1 ≤ (53 : Nat) + gridExponent r := by
    rw [gridExponent]
    push_cast
    omega
  rw [div_lt_iff₀ (by positivity), ← zpow_natCast, ← zpow_add₀ two_ne_zero]
  refine lt_of_lt_of_le (by exact_mod_cast hu) (zpow_le_zpow_right₀ one_le_two hg)

lemma le_div_grid (hr : 0 < r) (hg : gridExponent r ≠ -1074) : 2 ^ 52 ≤ r / 2 ^ gridExponent r := by
  have hl := Int.zpow_log_le_self one_lt_two hr
  have he : Int.log 2 r = (52 : Nat) + gridExponent r := by
    rw [gridExponent] at hg ⊢
    push_cast
    omega
  rw [le_div_iff₀ (by positivity), ← zpow_natCast, ← zpow_add₀ two_ne_zero, ← he]
  exact_mod_cast hl

noncomputable def roundedSize (r : ℝ) : ℝ := scaled (roundEven (r / scaled 1 (gridExponent r))) (gridExponent r)

lemma roundedSize_eq (r : ℝ) : roundedSize r = scaled (roundEven (r / 2 ^ gridExponent r)) (gridExponent r) := by
  have h : scaled 1 (gridExponent r) = 2 ^ gridExponent r := by rw [scaled, Nat.cast_one, one_mul]
  rw [roundedSize, h]

lemma roundedSize_nonneg (r : ℝ) : 0 ≤ roundedSize r := scaled_nonneg _ _

lemma roundedSize_zero : roundedSize 0 = 0 := by
  have h : roundEven 0 = 0 := Nat.le_zero.mp (roundEven_le_natCast le_rfl (by norm_num))
  rw [roundedSize_eq, zero_div, h, scaled, Nat.cast_zero, zero_mul]

lemma roundedSize_mono (ha : 0 ≤ a) (hab : a ≤ b) : roundedSize a ≤ roundedSize b := by
  rcases ha.eq_or_lt with rfl | ha
  · rw [roundedSize_zero]
    exact roundedSize_nonneg b
  have hza : 0 ≤ a / 2 ^ gridExponent a := by positivity
  have hzb : 0 ≤ b / 2 ^ gridExponent b := div_nonneg (ha.le.trans hab) (by positivity)
  rcases (gridExponent_mono ha hab).eq_or_lt with hg | hg
  · rw [roundedSize_eq, roundedSize_eq, ← hg]
    rw [← hg] at hzb
    exact scaled_le_scaled ((nearestEven_roundEven hza).mono (nearestEven_roundEven hzb) (by gcongr)) _
  · -- the smaller one ends below the least of the full mantissas at the next exponent
    have hleast : -1074 ≤ gridExponent a := le_max_right _ _
    have hsmall : roundEven (a / 2 ^ gridExponent a) ≤ 2 ^ 53 :=
      roundEven_le_natCast hza (by exact_mod_cast (div_grid_lt a).le)
    have hfull : 2 ^ 52 ≤ roundEven (b / 2 ^ gridExponent b) :=
      natCast_le_roundEven (by exact_mod_cast le_div_grid (ha.trans_le hab) (by omega))
    calc roundedSize a ≤ scaled (2 ^ 53) (gridExponent a) := (roundedSize_eq a).trans_le (scaled_le_scaled hsmall _)
      _ ≤ scaled (2 ^ 52) (gridExponent b) := by
        rw [scaled_eq_of_le hg.le]
        refine scaled_le_scaled ?_ _
        rw [show (2 : Nat) ^ 53 = 2 ^ 52 * 2 ^ 1 from rfl]
        exact Nat.mul_le_mul_left _ (Nat.pow_le_pow_right two_pos (by omega))
      _ ≤ roundedSize b := (scaled_le_scaled hfull _).trans_eq (roundedSize_eq b).symm

lemma scaled_div_grid (m : Nat) (e : Int) : scaled m e / 2 ^ e = m := by
  rw [scaled, mul_div_assoc, div_self (by positivity), mul_one]

lemma Canonical.gridExponent (h : Canonical m e) (hm : 0 < m) : gridExponent (scaled m e) = e := by
  have hu := scaled_lt_two_zpow_totalExponent m e
  rw [← sub_add_cancel (totalExponent m e) 1] at hu
  have ht := h.targetExponent
  rw [targetExponent_eq] at ht
  rw [gridExponent_eq (two_zpow_totalExponent_le hm e) hu]
  omega

lemma roundedSize_scaled (h : Canonical m e) : roundedSize (scaled m e) = scaled m e := by
  rcases Nat.eq_zero_or_pos m with rfl | hm
  · rw [scaled, Nat.cast_zero, zero_mul, roundedSize_zero]
  · have hr : roundEven m = m := (nearestEven_roundEven (Nat.cast_nonneg m)).unique (nearestEven_natCast m)
    rw [roundedSize_eq, h.gridExponent hm, scaled_div_grid, hr]

lemma Representable.roundedSize_eq (h : Representable b) : roundedSize b = b := by
  obtain ⟨m, e, hc, -, rfl⟩ := h
  exact roundedSize_scaled hc

lemma abs_roundedSize_sub_le (hr : 0 ≤ r) : |roundedSize r - r| ≤ 2 ^ (-53 : Int) * r + 2 ^ (-1075 : Int) := by
  rcases hr.eq_or_lt with rfl | hr
  · rw [roundedSize_zero, sub_zero, abs_zero]
    positivity
  have hp : (0 : ℝ) < 2 ^ gridExponent r := by positivity
  have hl := Int.zpow_log_le_self one_lt_two hr
  have hsub : roundedSize r - r = (roundEven (r / 2 ^ gridExponent r) - r / 2 ^ gridExponent r) * 2 ^ gridExponent r := by
    rw [sub_mul, div_mul_cancel₀ _ hp.ne', roundedSize_eq, scaled]
  have herr : |roundedSize r - r| ≤ 2 ^ (-1 + gridExponent r) := by
    rw [hsub, abs_mul, abs_of_pos hp, zpow_add₀ two_ne_zero, zpow_neg_one, ← one_div]
    exact mul_le_mul_of_nonneg_right (abs_roundEven_sub_le (div_pos hr hp).le) hp.le
  refine herr.trans ?_
  rcases le_total (-1074) (Int.log 2 r - 52) with hg | hg
  · have he : -1 + gridExponent r = -53 + Int.log 2 r := by
      rw [gridExponent]
      omega
    rw [he, zpow_add₀ two_ne_zero]
    have hlog : (2 : ℝ) ^ Int.log 2 r ≤ r := by exact_mod_cast hl
    exact (mul_le_mul_of_nonneg_left hlog (by positivity)).trans (le_add_of_nonneg_right (by positivity))
  · have he : -1 + gridExponent r = -1075 := by
      rw [gridExponent]
      omega
    rw [he]
    exact le_add_of_nonneg_left (by positivity)

/-- The point of the grid of doubles nearest to a real, as if there were no largest double. -/
noncomputable def rounded (r : ℝ) : ℝ := if 0 ≤ r then roundedSize r else -roundedSize (-r)

lemma rounded_of_nonneg (h : 0 ≤ r) : rounded r = roundedSize r := if_pos h

lemma rounded_neg (r : ℝ) : rounded (-r) = -rounded r := by
  rcases lt_trichotomy r 0 with h | rfl | h
  · rw [rounded, rounded, if_pos (by linarith), if_neg (by linarith), neg_neg]
  · rw [neg_zero, rounded_of_nonneg le_rfl, roundedSize_zero, neg_zero]
  · rw [rounded, rounded, if_neg (by linarith), if_pos h.le, neg_neg]

lemma abs_rounded (r : ℝ) : |rounded r| = roundedSize |r| := by
  rcases le_total 0 r with h | h
  · rw [rounded_of_nonneg h, abs_of_nonneg (roundedSize_nonneg r), abs_of_nonneg h]
  · have hn := rounded_neg r
    rw [rounded_of_nonneg (neg_nonneg.mpr h)] at hn
    rw [← abs_neg, ← hn, abs_of_nonneg (roundedSize_nonneg _), abs_of_nonpos h]

lemma rounded_nonneg (h : 0 ≤ r) : 0 ≤ rounded r := by
  rw [rounded_of_nonneg h]
  exact roundedSize_nonneg r

lemma rounded_mono : Monotone rounded := by
  intro a b hab
  rcases le_total 0 a with ha | ha
  · rw [rounded_of_nonneg ha, rounded_of_nonneg (ha.trans hab)]
    exact roundedSize_mono ha hab
  rcases le_total 0 b with hb | hb
  · have hn := rounded_nonneg (neg_nonneg.mpr ha)
    rw [rounded_neg] at hn
    linarith [rounded_nonneg hb]
  · rw [← neg_le_neg_iff, ← rounded_neg, ← rounded_neg, rounded_of_nonneg (neg_nonneg.mpr ha),
      rounded_of_nonneg (neg_nonneg.mpr hb)]
    exact roundedSize_mono (neg_nonneg.mpr hb) (neg_le_neg hab)

lemma abs_rounded_le (hb : Representable b) (h : |r| ≤ b) : |rounded r| ≤ b := by
  rw [abs_rounded, ← hb.roundedSize_eq]
  exact roundedSize_mono (abs_nonneg r) h

lemma le_abs_rounded (hb : Representable b) (h : b ≤ |r|) : b ≤ |rounded r| := by
  rw [abs_rounded, ← hb.roundedSize_eq]
  exact roundedSize_mono hb.nonneg h

lemma abs_rounded_sub_le (r : ℝ) : |rounded r - r| ≤ 2 ^ (-53 : Int) * |r| + 2 ^ (-1075 : Int) := by
  rcases le_total 0 r with h | h
  · rw [rounded_of_nonneg h, abs_of_nonneg h]
    exact abs_roundedSize_sub_le h
  · have hs := abs_roundedSize_sub_le (neg_nonneg.mpr h)
    rw [← rounded_of_nonneg (neg_nonneg.mpr h), rounded_neg, neg_sub_neg, abs_sub_comm] at hs
    rwa [abs_of_nonpos h]

section Results

inductive Stands (s : Sign) (r : ℝ) : UnpackedFloat → Prop
  | zero : r = 0 → Stands s r (.zero s)
  | finite {m : Nat} {e : Int} {hm : 0 < m} : Canonical m e → e ≤ 971 → r = scaled m e → Stands s r (.finite s m e hm)
  | infinite : 2 ^ 1024 ≤ r → Stands s r (.infinity s)

lemma Approximates.gridExponent_eq (h : Approximates q e acc T r) :
    gridExponent r = Format.binary64.targetExponent (totalExponent q e) := by
  have hl := h.le
  have hu := h.lt
  have he := h.exponent_le
  have hr : 0 < r := lt_of_lt_of_le (by positivity) h.low
  rw [targetExponent_eq] at he ⊢
  rcases Nat.eq_zero_or_pos q with rfl | hq
  · -- less than a unit at an exponent that is at the least one then
    have hlog : Int.log 2 r < e := by
      rw [← Int.lt_zpow_iff_log_lt one_lt_two hr]
      simpa [scaled] using hu
    rw [totalExponent, Nat.log2_zero] at he ⊢
    rw [Double.gridExponent]
    omega
  · have hlow := (two_zpow_totalExponent_le hq e).trans hl
    have hup : r < 2 ^ (totalExponent q e - 1 + 1) := by
      have hq' : q + 1 ≤ 2 ^ (q.log2 + 1) := Nat.lt_log2_self
      refine hu.trans_le ((scaled_le_scaled hq' e).trans_eq ?_)
      rw [scaled, totalExponent, sub_add_cancel, zpow_add₀ two_ne_zero, ← Nat.cast_succ, zpow_natCast]
      push_cast
      rfl
    rw [Double.gridExponent_eq hlow hup]
    omega

lemma two_pow_le_scaled_of_full (hm : 2 ^ 52 ≤ m) (he : 972 ≤ e) : (2 : ℝ) ^ 1024 ≤ scaled m e := by
  refine le_trans ?_ (two_zpow_le_scaled hm e)
  rw [← zpow_natCast]
  exact zpow_le_zpow_right₀ one_le_two (by push_cast; omega)

lemma stands_packed {hm : 0 < m} (hc : Canonical m e) :
    Stands s (scaled m e) (Float.Model.pack (.finite s m e hm)).unpack := by
  rcases le_or_gt e 971 with he | he
  · rw [model_unpack_pack hm hc he]
    exact .finite hc he rfl
  · rw [unpack_pack_overflow hm he]
    exact .infinite (two_pow_le_scaled_of_full (hc.full.resolve_right (by omega)) he)

theorem stands_of_approximates (h : Approximates q e acc T r) (hc : Cut (r / 2 ^ e) (.ofMantissaAndAccuracy q acc)) :
    Stands s (roundedSize r) (Float.Model.pack (roundWithAccuracy .binary64 s q e acc)).unpack := by
  obtain ⟨t, ht⟩ : ∃ t, t = Format.binary64.targetExponent (totalExponent q e) := ⟨_, rfl⟩
  have he : e ≤ t := ht ▸ h.exponent_le
  have hg : gridExponent r = t := h.gridExponent_eq.trans ht.symm
  have hr : 0 < r := lt_of_lt_of_le (by positivity) h.low
  have hz : r / 2 ^ t = r / 2 ^ e / 2 ^ (t - e).toNat := by
    rw [div_div, ← zpow_natCast, ← zpow_add₀ two_ne_zero, show e + ((t - e).toNat : Int) = t by omega]
  have hn : NearestEven (shortened q acc (t - e).toNat) (r / 2 ^ t) := (hz ▸ hc.shiftRight (t - e).toNat).nearestEven
  have hs : roundedSize r = scaled (shortened q acc (t - e).toNat) t := by
    rw [roundedSize_eq, hg, (nearestEven_roundEven (by positivity)).unique hn]
  rw [hs]
  rcases @roundWithAccuracy_cases s q e t acc ht he with ⟨h₀, hf⟩ | ⟨hp, hf, hcan⟩ | ⟨h₁, hf, hcan⟩
  · rw [hf, h₀, unpack_pack_zero]
    exact .zero (by rw [scaled, Nat.cast_zero, zero_mul])
  · rw [hf]
    exact stands_packed hcan
  · rw [hf, h₁, show (2 : Nat) ^ 53 = 2 ^ 52 * 2 ^ 1 from rfl, scaled_mul_two_pow]
    exact stands_packed hcan

lemma stands_exact (hm : 0 < m) (he : e ≤ Format.binary64.targetExponent (totalExponent m e)) :
    Stands s (roundedSize (scaled m e)) (Float.Model.pack (roundWithAccuracy .binary64 s m e .exact)).unpack :=
  stands_of_approximates (approximates_exact hm he) (.exact (scaled_div_grid m e))

lemma stands_round (hm : 0 < m) (e : Int) :
    Stands s (roundedSize (scaled m e)) (Float.Model.pack (UnpackedFloat.round .binary64 s m e)).unpack := by
  obtain ⟨k, hk⟩ : ∃ k, k = (e - Format.binary64.targetExponent (totalExponent m e)).toNat := ⟨_, rfl⟩
  have hx : scaled (m * 2 ^ k) (e - k) = scaled m e := by rw [scaled_mul_two_pow, Int.sub_add_cancel]
  simp only [UnpackedFloat.round, decreaseExponent, Nat.shiftLeft_eq, ← hk, ← hx]
  refine stands_exact (Nat.mul_pos hm (Nat.two_pow_pos k)) ?_
  rw [totalExponent_mul_two_pow hm]
  omega

end Results

section Operations

/-- What an operation gives whose result is the real `r`: the nearest double, or one that is not finite where `r`
is beyond all doubles. -/
structure Rounds (x : Float) (r : ℝ) : Prop where
  isFinite_iff : x.isFinite = true ↔ |rounded r| < 2 ^ 1024
  real_eq : x.isFinite = true → real x = rounded r

lemma rounded_signedReal (negative : Bool) (hr : 0 ≤ r) :
    rounded (signedReal negative r) = signedReal negative (roundedSize r) := by
  cases negative with
  | false => exact rounded_of_nonneg hr
  | true => exact (rounded_neg r).trans (congrArg _ (rounded_of_nonneg hr))

lemma abs_signedReal (negative : Bool) (hr : 0 ≤ r) : |signedReal negative r| = r := by
  cases negative with
  | false => exact abs_of_nonneg hr
  | true => exact (abs_neg r).trans (abs_of_nonneg hr)

lemma Canonical.scaled_lt (h : Canonical m e) (he : e ≤ 971) : scaled m e < 2 ^ 1024 := by
  refine (scaled_lt_two_zpow h.lt e).trans_le ?_
  rw [← zpow_natCast]
  exact zpow_le_zpow_right₀ one_le_two (by push_cast; omega)

lemma real_of_unpack_zero (h : x.toModel.unpack = .zero s) : real x = 0 := by
  rw [real, Number.exact, h]
  cases s <;> simp [exactReal, signedReal, scaled]

lemma real_of_unpack_finite {hm : 0 < m} (h : x.toModel.unpack = .finite s m e hm) :
    real x = signedReal (s == .negative) (scaled m e) := by
  rw [real, exact_of_unpack h]
  rfl

lemma Stands.rounds (hr : 0 ≤ r) (h : Stands s (roundedSize r) x.toModel.unpack) :
    Rounds x (signedReal (s == .negative) r) := by
  have habs : |rounded (signedReal (s == .negative) r)| = roundedSize r := by rw [abs_rounded, abs_signedReal _ hr]
  have hsign := rounded_signedReal (s == .negative) hr
  generalize hu : x.toModel.unpack = u at h
  cases h with
  | zero h₀ =>
    refine ⟨?_, fun _ => ?_⟩
    · rw [habs, h₀, isFinite_eq, hu]
      exact ⟨fun _ => by positivity, fun _ => rfl⟩
    · rw [hsign, h₀, real_of_unpack_zero hu]
      cases s <;> simp [signedReal]
  | finite hc he hs =>
    refine ⟨?_, fun _ => ?_⟩
    · rw [habs, hs, isFinite_eq, hu]
      exact ⟨fun _ => hc.scaled_lt he, fun _ => rfl⟩
    · rw [hsign, hs, real_of_unpack_finite hu]
  | infinite hl =>
    have hf : x.isFinite = false := by
      rw [isFinite_eq, hu]
      rfl
    refine ⟨?_, fun h => ?_⟩
    · rw [habs, hf]
      exact ⟨fun h => absurd h Bool.false_ne_true, fun h => absurd hl (not_le.mpr h)⟩
    · rw [hf] at h
      cases h

lemma rounds_zero (h : x.toModel.unpack = .zero s) : Rounds x 0 := by
  have hs : Stands s (roundedSize 0) x.toModel.unpack := by
    rw [h]
    exact .zero roundedSize_zero
  have hr := hs.rounds le_rfl
  cases s <;> simpa [signedReal] using hr

lemma unpack_of_isFinite (h : x.isFinite = true) :
    (∃ s, x.toModel.unpack = .zero s) ∨
      ∃ s m e hm, x.toModel.unpack = .finite s m e hm ∧ Canonical m e ∧ e ≤ 971 := by
  rw [isFinite_eq] at h
  cases hx : x.toModel.unpack with
  | notANumber => simp [hx, UnpackedFloat.isFinite] at h
  | infinity s => simp [hx, UnpackedFloat.isFinite] at h
  | zero s => exact .inl ⟨s, rfl⟩
  | finite s m e hm =>
    obtain ⟨hc, he⟩ := canonical_of_unpack hx
    exact .inr ⟨s, m, e, hm, rfl, hc, he⟩

lemma rounded_real (h : x.isFinite = true) : rounded (real x) = real x := by
  rcases unpack_of_isFinite h with ⟨s, hx⟩ | ⟨s, m, e, hm, hx, hc, -⟩
  · rw [real_of_unpack_zero hx, rounded_of_nonneg le_rfl, roundedSize_zero]
  · rw [real_of_unpack_finite hx, rounded_signedReal _ (scaled_nonneg m e), roundedSize_scaled hc]

lemma representable_abs_real (h : x.isFinite = true) : Representable |real x| := by
  rcases unpack_of_isFinite h with ⟨s, hx⟩ | ⟨s, m, e, hm, hx, hc, he⟩
  · rw [real_of_unpack_zero hx, abs_zero]
    exact ⟨0, -1074, ⟨by decide, le_rfl, .inr rfl⟩, by decide, by simp [scaled]⟩
  · rw [real_of_unpack_finite hx, abs_signedReal _ (scaled_nonneg m e)]
    exact representable_scaled hc he

lemma abs_real_lt (h : x.isFinite = true) : |real x| < 2 ^ 1024 := by
  obtain ⟨m, e, hc, he, hr⟩ := representable_abs_real h
  rw [hr]
  exact hc.scaled_lt he

lemma rounds_self (h : x.isFinite = true) : Rounds x (real x) where
  isFinite_iff := by
    rw [rounded_real h]
    exact ⟨fun _ => abs_real_lt h, fun _ => h⟩
  real_eq _ := (rounded_real h).symm

lemma signedReal_mul (s₁ s₂ : Sign) (a b : ℝ) :
    signedReal (s₁ == .negative) a * signedReal (s₂ == .negative) b = signedReal (s₁ * s₂ == .negative) (a * b) := by
  cases s₁ with
  | positive =>
    cases s₂ with
    | positive => rfl
    | negative => exact mul_neg a b
  | negative =>
    cases s₂ with
    | positive => exact neg_mul a b
    | negative => exact neg_mul_neg a b

lemma signedReal_div (s₁ s₂ : Sign) (a b : ℝ) :
    signedReal (s₁ == .negative) a / signedReal (s₂ == .negative) b = signedReal (s₁ / s₂ == .negative) (a / b) := by
  cases s₁ with
  | positive =>
    cases s₂ with
    | positive => rfl
    | negative => exact div_neg a
  | negative =>
    cases s₂ with
    | positive => exact neg_div b a
    | negative => exact neg_div_neg_eq a b

theorem rounds_mul (hx : x.isFinite = true) (hy : y.isFinite = true) : Rounds (x * y) (real x * real y) := by
  rcases unpack_of_isFinite hx with ⟨s₁, hx⟩ | ⟨s₁, m₁, e₁, hm₁, hx, hc₁, -⟩
  · rw [real_of_unpack_zero hx, zero_mul]
    rcases unpack_of_isFinite hy with ⟨s₂, hy⟩ | ⟨s₂, m₂, e₂, hm₂, hy, -, -⟩ <;>
      exact rounds_zero (s := s₁ * s₂) (by rw [unpack_mul, hx, hy, UnpackedFloat.mul, unpack_pack_zero])
  rcases unpack_of_isFinite hy with ⟨s₂, hy⟩ | ⟨s₂, m₂, e₂, hm₂, hy, hc₂, -⟩
  · rw [real_of_unpack_zero hy, mul_zero]
    exact rounds_zero (s := s₁ * s₂) (by rw [unpack_mul, hx, hy, UnpackedFloat.mul, unpack_pack_zero])
  · rw [real_of_unpack_finite hx, real_of_unpack_finite hy, signedReal_mul, ← scaled_mul]
    refine Stands.rounds (scaled_nonneg _ _) ?_
    rw [unpack_mul, hx, hy, UnpackedFloat.mul]
    exact stands_exact (Nat.mul_pos hm₁ hm₂) (hc₁.add_exponent_le hc₂ hm₁ hm₂)

theorem rounds_div (hx : x.isFinite = true) (hy : y.isFinite = true) (hy₀ : real y ≠ 0) :
    Rounds (x / y) (real x / real y) := by
  rcases unpack_of_isFinite hy with ⟨s₂, hy⟩ | ⟨s₂, m₂, e₂, hm₂, hy, -, -⟩
  · exact absurd (real_of_unpack_zero hy) hy₀
  rcases unpack_of_isFinite hx with ⟨s₁, hx⟩ | ⟨s₁, m₁, e₁, hm₁, hx, -, -⟩
  · rw [real_of_unpack_zero hx, zero_div]
    exact rounds_zero (s := s₁ / s₂) (by rw [unpack_div, hx, hy, UnpackedFloat.div, unpack_pack_zero])
  · rw [real_of_unpack_finite hx, real_of_unpack_finite hy, signedReal_div]
    refine Stands.rounds (div_nonneg (scaled_nonneg _ _) (scaled_nonneg _ _)) ?_
    rw [unpack_div, hx, hy, UnpackedFloat.div]
    exact stands_of_approximates (approximates_divCore hm₁ hm₂) (cut_divCore hm₂)

lemma unpack_sqrt (x : Float) : x.sqrt.toModel.unpack =
    (Float.Model.pack (UnpackedFloat.sqrt .binary64 x.toModel.unpack)).unpack := rfl

theorem rounds_sqrt (hx : x.isFinite = true) (h : 0 ≤ real x) : Rounds x.sqrt √(real x) := by
  rcases unpack_of_isFinite hx with ⟨s, hx⟩ | ⟨s, m, e, hm, hx, -, -⟩
  · rw [real_of_unpack_zero hx, Real.sqrt_zero]
    exact rounds_zero (s := s) (by rw [unpack_sqrt, hx, UnpackedFloat.sqrt, unpack_pack_zero])
  · rw [real_of_unpack_finite hx] at h ⊢
    have hp := scaled_pos hm e
    cases s with
    | negative => exact absurd h (not_le.mpr (neg_neg_of_pos hp))
    | positive =>
      refine Stands.rounds (s := .positive) (Real.sqrt_nonneg _) ?_
      rw [unpack_sqrt, hx, UnpackedFloat.sqrt]
      exact stands_of_approximates (approximates_sqrtCore hm) (cut_sqrtCore m e)

lemma unpack_sub (x y : Float) : (x - y).toModel.unpack =
    (Float.Model.pack (UnpackedFloat.sub .binary64 x.toModel.unpack y.toModel.unpack)).unpack := rfl

lemma rounds_normalize {n : Int} {z : Sign}
    (h : x.toModel.unpack = (Float.Model.pack (UnpackedFloat.normalize .binary64 n e z)).unpack) :
    Rounds x (n * 2 ^ e) := by
  rw [UnpackedFloat.normalize] at h
  rcases Int.lt_trichotomy n 0 with hn | rfl | hn
  · simp only [Int.compare_eq_lt.mpr hn] at h
    have hs : Stands .negative (roundedSize (scaled (-n).toNat e)) x.toModel.unpack := h ▸ stands_round (by omega) e
    have hr : signedReal true (scaled (-n).toNat e) = n * 2 ^ e := by
      have hc : ((-n).toNat : ℝ) = -(n : ℝ) := by exact_mod_cast Int.toNat_of_nonneg (by omega : 0 ≤ -n)
      rw [scaled, hc]
      exact (neg_mul_eq_neg_mul _ _).trans (congrArg (· * (2 : ℝ) ^ e) (neg_neg _))
    exact hr ▸ hs.rounds (scaled_nonneg _ _)
  · rw [Int.cast_zero, zero_mul]
    exact rounds_zero (s := z) (by rw [h]; exact unpack_pack_zero z)
  · simp only [Int.compare_eq_gt.mpr hn] at h
    have hs : Stands .positive (roundedSize (scaled n.toNat e)) x.toModel.unpack := h ▸ stands_round (by omega) e
    have hr : scaled n.toNat e = n * 2 ^ e := by
      have hc : (n.toNat : ℝ) = (n : ℝ) := by exact_mod_cast Int.toNat_of_nonneg hn.le
      rw [scaled, hc]
    exact hr ▸ hs.rounds (scaled_nonneg _ _)

lemma signedReal_scaled (h : T ≤ e) (s : Sign) (m : Nat) :
    signedReal (s == .negative) (scaled m e) = (s.apply (m * 2 ^ (e - T).toNat : Nat) : Int) * 2 ^ T := by
  rw [scaled_eq_of_le h]
  cases s with
  | positive => rfl
  | negative =>
    rw [scaled, Sign.apply, Int.cast_neg, neg_mul]
    rfl

theorem rounds_add (hx : x.isFinite = true) (hy : y.isFinite = true) : Rounds (x + y) (real x + real y) := by
  have hx' := rounds_self hx
  have hy' := rounds_self hy
  rcases unpack_of_isFinite hx with ⟨s₁, hx⟩ | ⟨s₁, m₁, e₁, hm₁, hx, hc₁, he₁⟩
  · rw [real_of_unpack_zero hx, zero_add]
    rcases unpack_of_isFinite hy with ⟨s₂, hy⟩ | ⟨s₂, m₂, e₂, hm₂, hy, hc₂, he₂⟩
    · rw [real_of_unpack_zero hy]
      refine rounds_zero (s := if s₁ == s₂ then s₁ else .positive) ?_
      rw [unpack_add, hx, hy, UnpackedFloat.add]
      split <;> exact unpack_pack_zero _
    · have h : x + y = y := eq_of_unpack (by
        rw [unpack_add, hx, hy]
        exact model_unpack_pack hm₂ hc₂ he₂)
      rwa [h]
  rcases unpack_of_isFinite hy with ⟨s₂, hy⟩ | ⟨s₂, m₂, e₂, hm₂, hy, hc₂, he₂⟩
  · have h : x + y = x := eq_of_unpack (by
      rw [unpack_add, hx, hy]
      exact model_unpack_pack hm₁ hc₁ he₁)
    rwa [real_of_unpack_zero hy, add_zero, h]
  · rw [real_of_unpack_finite hx, real_of_unpack_finite hy, signedReal_scaled (min_le_left e₁ e₂),
      signedReal_scaled (min_le_right e₁ e₂), ← add_mul, ← Int.cast_add]
    refine rounds_normalize (z := .positive) ?_
    rw [unpack_add, hx, hy]
    simp only [UnpackedFloat.add, decreaseExponent, Nat.shiftLeft_eq]

lemma sub_eq_add_neg_of_isFinite (hy : y.isFinite = true) : x - y = x + -y := by
  have hn : (-y).toModel.unpack = y.toModel.unpack.neg := by
    rcases unpack_of_isFinite hy with ⟨s, hy⟩ | ⟨s, m, e, hm, hy, -, -⟩
    · rw [unpack_neg, hy, UnpackedFloat.neg, unpack_pack_zero]
    · rw [unpack_neg_finite hy, hy, UnpackedFloat.neg]
  exact eq_of_unpack (by rw [unpack_sub, unpack_add, hn, Double.sub_eq_add_neg])

lemma isFinite_neg (hy : y.isFinite = true) : (-y).isFinite = true := (within_of_isFinite hy).neg.isFinite

theorem rounds_sub (hx : x.isFinite = true) (hy : y.isFinite = true) : Rounds (x - y) (real x - real y) := by
  have h := rounds_add hx (isFinite_neg hy)
  have hr : real x + -real y = real x - real y := by ring
  rwa [real_neg, ← sub_eq_add_neg_of_isFinite hy, hr] at h

end Operations

end RfBoard.Double
