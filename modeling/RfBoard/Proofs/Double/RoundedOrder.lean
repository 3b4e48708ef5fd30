import RfBoard.Proofs.Double.Comparison

namespace RfBoard.Double

open Float.Model Float.Model.UnpackedFloat

variable {a b : ℝ} {k n : Nat} {c x y : Float}

section Signs

lemma real_ofNat (hn : 0 < n) (hu : n < 2 ^ 53) : real (Float.ofNat n) = n := by
  rw [real_of_unpack (unpack_ofNat_short hn hu), scaled_shifted]

lemma isFinite_one : (1 : Float).isFinite = true := (within_ofNat one_pos (by decide)).isFinite

lemma real_one : real 1 = 1 := (real_ofNat one_pos (by decide)).trans Nat.cast_one

lemma real_pos (h : 0 < x) (hx : x.isFinite = true) : 0 < real x := by
  rwa [lt_iff_real_lt isFinite_zero hx, real_zero] at h

lemma two_zpow_le_real (h : 0 < real x) (hx : x.isFinite = true) : 2 ^ (-1074 : Int) ≤ real x := by
  obtain ⟨m, e, hc, -, hr⟩ := representable_abs_real hx
  rw [abs_of_pos h] at hr
  rw [hr] at h ⊢
  have hm : m ≠ 0 := by
    rintro rfl
    simp [scaled] at h
  calc (2 : ℝ) ^ (-1074 : Int) ≤ 2 ^ e := zpow_le_zpow_right₀ one_le_two hc.least
    _ ≤ scaled m e := le_mul_of_one_le_left (by positivity) (by exact_mod_cast Nat.one_le_iff_ne_zero.mpr hm)

lemma Sized.real_nonneg (h : Sized .positive b x.toModel.unpack) : 0 ≤ real x := by
  generalize hu : x.toModel.unpack = u at h
  cases h with
  | zero _ => rw [real_of_unpack_zero hu]
  | finite _ _ _ =>
    rw [real_of_unpack hu]
    exact scaled_nonneg _ _

lemma real_of_not_isFinite (h : x.isFinite = false) : real x = 0 := by
  rw [real, Number.exact]
  rcases unpack_of_not_isFinite h with hx | ⟨s, hx⟩ <;> rw [hx] <;> rfl

lemma real_sqrt_nonneg (x : Float) : 0 ≤ real x.sqrt := by
  have hbad (h : x.sqrt.toModel.unpack.isFinite = false) : 0 ≤ real x.sqrt :=
    (real_of_not_isFinite (isFinite_eq _ ▸ h)).ge
  cases hx : x.toModel.unpack with
  | notANumber => exact hbad (by rw [unpack_sqrt, hx, UnpackedFloat.sqrt, unpack_pack_notANumber]; rfl)
  | infinity s =>
    refine hbad ?_
    rw [unpack_sqrt, hx]
    cases s <;> simp only [UnpackedFloat.sqrt, unpack_pack_notANumber, unpack_pack_infinity, UnpackedFloat.isFinite]
  | zero s => exact (real_of_unpack_zero (by rw [unpack_sqrt, hx, UnpackedFloat.sqrt, unpack_pack_zero])).ge
  | finite s m e hm =>
    cases s with
    | negative => exact hbad (by rw [unpack_sqrt, hx, UnpackedFloat.sqrt, unpack_pack_notANumber]; rfl)
    | positive =>
      obtain ⟨hc, he⟩ := canonical_of_unpack hx
      have hs : Sized .positive ((2 ^ 1023) ^ 2) x.toModel.unpack := by
        rw [hx]
        refine .finite hc he ((hc.scaled_lt he).le.trans ?_)
        rw [← pow_mul]
        exact pow_le_pow_right₀ one_le_two (by decide)
      exact Sized.real_nonneg (x := x.sqrt) (unpack_sqrt x ▸ hs.sqrt (representable_two_pow le_rfl) le_rfl)

lemma real_ne_zero_of_div (hx : x.isFinite = true) (hy : y.isFinite = true) (h : (x / y).isFinite = true) :
    real y ≠ 0 := by
  rcases unpack_of_isFinite hy with ⟨s, hy⟩ | ⟨s, m, e, hm, hy, -, -⟩
  · rw [isFinite_eq, unpack_div, hy] at h
    rcases unpack_of_isFinite hx with ⟨s', hx⟩ | ⟨s', m, e, hm, hx, -, -⟩
    · simp only [hx, UnpackedFloat.div, unpack_pack_notANumber, UnpackedFloat.isFinite, Bool.false_eq_true] at h
    · simp only [hx, UnpackedFloat.div, unpack_pack_infinity, UnpackedFloat.isFinite, Bool.false_eq_true] at h
  · rw [real_of_unpack_finite hy, ← abs_pos, abs_signedReal _ (scaled_nonneg m e)]
    exact scaled_pos hm e

end Signs

section Order

lemma abs_rounded_le_abs_rounded (h : |a| ≤ |b|) : |rounded a| ≤ |rounded b| := by
  rw [abs_rounded, abs_rounded]
  exact roundedSize_mono (abs_nonneg a) h

lemma Rounds.isFinite_of_le (h : Rounds x a) (hk : k ≤ 1023) (hle : |a| ≤ 2 ^ k) : x.isFinite = true :=
  h.isFinite_iff.mpr ((abs_rounded_le (representable_two_pow hk) hle).trans_lt
    (pow_lt_pow_right₀ one_lt_two (Nat.lt_succ_of_le hk)))

lemma Rounds.le_two_pow (h : Rounds x a) (hk : k ≤ 1023) (ha : 0 ≤ a) (hle : a ≤ 2 ^ k) :
    x.isFinite = true ∧ 0 ≤ real x ∧ real x ≤ 2 ^ k := by
  have habs : |a| ≤ 2 ^ k := (abs_of_nonneg ha).trans_le hle
  have hf := h.isFinite_of_le hk habs
  rw [h.real_eq hf]
  exact ⟨hf, rounded_nonneg ha, (le_abs_self _).trans (abs_rounded_le (representable_two_pow hk) habs)⟩

lemma rounded_le_two_mul (ha : 0 ≤ a) : rounded a ≤ 2 * a + 2 ^ (-1074 : Int) := by
  have herr := (abs_le.mp (abs_rounded_sub_le a)).2
  rw [abs_of_nonneg ha] at herr
  have hrel : (2 : ℝ) ^ (-53 : Int) * a ≤ 1 * a :=
    mul_le_mul_of_nonneg_right (zpow_le_one_of_nonpos₀ one_le_two (by decide)) ha
  have habs : (2 : ℝ) ^ (-1075 : Int) ≤ 2 ^ (-1074 : Int) := zpow_le_zpow_right₀ one_le_two (by decide)
  linarith

lemma le_four_mul_abs_rounded (h : 2 ^ (-1074 : Int) ≤ |a|) : |a| ≤ 4 * |rounded a| := by
  have hrel : (2 : ℝ) ^ (-53 : Int) ≤ 1 / 4 := by norm_num
  have habs : (2 : ℝ) ^ (-1075 : Int) + 2 ^ (-1075 : Int) ≤ |a| := by
    rw [← two_mul, ← zpow_one_add₀ two_ne_zero]
    exact h
  have herr : |a| - |rounded a| ≤ 1 / 4 * |a| + 2 ^ (-1075 : Int) :=
    calc |a| - |rounded a| ≤ |a - rounded a| := abs_sub_abs_le_abs_sub a _
      _ = |rounded a - a| := abs_sub_comm a _
      _ ≤ 2 ^ (-53 : Int) * |a| + 2 ^ (-1075 : Int) := abs_rounded_sub_le a
      _ ≤ 1 / 4 * |a| + 2 ^ (-1075 : Int) := by gcongr
  linarith

lemma one_le_abs_ratio (hx : x.isFinite = true) (hy : y.isFinite = true) (hx₀ : 0 ≤ real x) (hy₀ : 0 ≤ real y)
    (h : ((x + y) / (x - y)).isFinite = true) : 1 ≤ |real ((x + y) / (x - y))| := by
  have hnum := isFinite_of_div h
  have hadd := rounds_add hx hy
  have hsub := rounds_sub hx hy
  have hle : |real x - real y| ≤ |real x + real y| := by
    rw [abs_of_nonneg (add_nonneg hx₀ hy₀), abs_le]
    exact ⟨by linarith, by linarith⟩
  have hden : (x - y).isFinite = true :=
    hsub.isFinite_iff.mpr ((abs_rounded_le_abs_rounded hle).trans_lt (hadd.isFinite_iff.mp hnum))
  have hne := real_ne_zero_of_div hnum hden h
  rw [(rounds_div hnum hden hne).real_eq h]
  refine le_abs_rounded (pow_zero (2 : ℝ) ▸ representable_two_pow (Nat.zero_le 1023)) ?_
  rw [abs_div, one_le_div (abs_pos.mpr hne), hadd.real_eq hnum, hsub.real_eq hden]
  exact abs_rounded_le_abs_rounded hle

def Below (x y : Float) : Prop := y.isFinite = true → x.isFinite = true ∧ 0 ≤ real x ∧ real x ≤ real y

lemma Rounds.below (hx : Rounds x a) (hy : Rounds y b) (ha : 0 ≤ a) (hab : a ≤ b) : Below x y := by
  intro hf
  have habs : |a| ≤ |b| := abs_le_abs_of_nonneg ha hab
  have hxf : x.isFinite = true :=
    hx.isFinite_iff.mpr ((abs_rounded_le_abs_rounded habs).trans_lt (hy.isFinite_iff.mp hf))
  rw [hx.real_eq hxf, hy.real_eq hf]
  exact ⟨hxf, rounded_nonneg ha, rounded_mono hab⟩

lemma Below.mul (h : Below x y) (hc : c.isFinite = true) (hc₀ : 0 ≤ real c) : Below (x * c) (y * c) := by
  intro hf
  have hy := isFinite_of_mul hf
  obtain ⟨hx, h₀, hle⟩ := h hy
  exact (rounds_mul hx hc).below (rounds_mul hy hc) (mul_nonneg h₀ hc₀) (mul_le_mul_of_nonneg_right hle hc₀) hf

lemma Below.div (h : Below x y) (hc : c.isFinite = true) (hc₀ : 0 < real c) : Below (x / c) (y / c) := by
  intro hf
  have hy := isFinite_of_div hf
  obtain ⟨hx, h₀, hle⟩ := h hy
  exact (rounds_div hx hc hc₀.ne').below (rounds_div hy hc hc₀.ne') (div_nonneg h₀ hc₀.le)
    (div_le_div_of_nonneg_right hle hc₀.le) hf

lemma below_mul_self (h : y.isFinite = true → x.isFinite = true ∧ |real x| ≤ |real y|) : Below (x * x) (y * y) := by
  intro hf
  have hy := isFinite_of_mul hf
  obtain ⟨hx, hle⟩ := h hy
  exact (rounds_mul hx hx).below (rounds_mul hy hy) (mul_self_nonneg _) (abs_le_iff_mul_self_le.mp hle) hf

end Order

end RfBoard.Double
