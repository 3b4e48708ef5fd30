import RfBoard.Proofs.ConversionRange
import RfBoard.Proofs.Double.RoundedOrder

/-!
The values of a reflection coefficient. Its words stand for no value between minus one and one, but the way back
squares the quotient, and takes such values for their reciprocals.
-/

namespace RfBoard

namespace Double

open Float.Model Float.Model.UnpackedFloat

variable {a b : ℝ} {c p q t x y : Float}

lemma one_le_abs_quotient (ht : 0 ≤ real t) (h : ((t + 1) / (t - 1)).isFinite = true) :
    1 ≤ |real ((t + 1) / (t - 1))| :=
  one_le_abs_ratio (isFinite_of_add (isFinite_of_div h)) isFinite_one ht (real_one ▸ zero_le_one) h

lemma abs_quotient_le (hx : x.isFinite = true) (hy : y.isFinite = true) (hl : -1 ≤ real x) (hle : real x ≤ real y)
    (hu : real y ≤ 1) (h : ((y + 1) / (y - 1)).isFinite = true) :
    ((x + 1) / (x - 1)).isFinite = true ∧ |real ((x + 1) / (x - 1))| ≤ |real ((y + 1) / (y - 1))| := by
  have hnum := isFinite_of_div h
  have hsubx := rounds_sub hx isFinite_one
  have hsuby := rounds_sub hy isFinite_one
  have haddx := rounds_add hx isFinite_one
  have haddy := rounds_add hy isFinite_one
  rw [real_one] at hsubx hsuby haddx haddy
  obtain ⟨hnumx, hnum₀, hnum_le⟩ := haddx.below haddy (by linarith) (by linarith) hnum
  have hden : (y - 1).isFinite = true :=
    hsuby.isFinite_of_le (k := 1) (by decide) (abs_le.mpr ⟨by linarith, by linarith⟩)
  have hdenx : (x - 1).isFinite = true :=
    hsubx.isFinite_of_le (k := 1) (by decide) (abs_le.mpr ⟨by linarith, by linarith⟩)
  have hne := real_ne_zero_of_div hnum hden h
  have hden_le : |real (y - 1)| ≤ |real (x - 1)| := by
    rw [hsuby.real_eq hden, hsubx.real_eq hdenx]
    refine abs_rounded_le_abs_rounded ?_
    rw [abs_of_nonpos (by linarith), abs_of_nonpos (by linarith)]
    linarith
  have hpos : 0 < |real (y - 1)| := abs_pos.mpr hne
  have hratio : |real (x + 1) / real (x - 1)| ≤ |real (y + 1) / real (y - 1)| := by
    rw [abs_div, abs_div]
    exact div_le_div₀ (abs_nonneg _) (abs_le_abs_of_nonneg hnum₀ hnum_le) hpos hden_le
  have hdivx := rounds_div hnumx hdenx (abs_pos.mp (hpos.trans_le hden_le))
  have hdivy := rounds_div hnum hden hne
  have hf : ((x + 1) / (x - 1)).isFinite = true :=
    hdivx.isFinite_iff.mpr ((abs_rounded_le_abs_rounded hratio).trans_lt (hdivy.isFinite_iff.mp h))
  rw [hdivx.real_eq hf, hdivy.real_eq h]
  exact ⟨hf, abs_rounded_le_abs_rounded hratio⟩

/-- The least double above minus one. -/
def aboveMinusOne : Float := -0.9999999999999999

lemma exact_aboveMinusOne : Number.exact aboveMinusOne = .finite true (2 ^ 53 - 1) (-53) := by decide +kernel

lemma isFinite_aboveMinusOne : aboveMinusOne.isFinite = true :=
  Number.isFinite_eq_true.mpr ⟨_, _, _, exact_aboveMinusOne⟩

lemma real_aboveMinusOne : real aboveMinusOne = -largest (-53) := by
  rw [real, exact_aboveMinusOne]
  rfl

lemma largest_lt_one : largest (-53) < 1 := (largest_lt (-53)).trans_eq (zpow_zero 2)

lemma abs_real_le_of_lt_one (h : x.isFinite = true) (hx : |real x| < 1) : |real x| ≤ largest (-53) := by
  obtain ⟨m, e, hc, -, hr⟩ := representable_abs_real h
  rw [hr] at hx ⊢
  refine hc.le_largest ?_
  by_contra he
  have hl := two_zpow_le_scaled (hc.full.resolve_right (by omega)) e
  have hone : (1 : ℝ) ≤ 2 ^ ((52 : Nat) + e : Int) := one_le_zpow₀ one_le_two (by push_cast; omega)
  linarith

end Double

namespace Conversion

open Double

variable {quantity : String} {cal : Calibration} {pair : Nat} {raw : UInt32} {q v x y : Float}
  {f r : ChannelCalibration}

structure Chained (cal : Calibration) (pair : Nat) (f r : ChannelCalibration) : Prop where
  found : cal.pair? pair = some (f, r)
  forward_finite : f.k.isFinite = true
  forward_pos : 0 < real f.k
  reflected_finite : r.k.isFinite = true
  reflected_pos : 0 < real r.k

lemma exists_chained (hp : pair < 4) (h : cal.isValid = true) : ∃ f r, Chained cal pair f r := by
  have hv {c : ChannelCalibration} (hc : c.isValid = true) : c.k.isFinite = true ∧ 0 < real c.k := by
    simp only [ChannelCalibration.isValid, Bool.and_eq_true, decide_eq_true_eq] at hc
    exact ⟨hc.1.1, real_pos hc.1.2 hc.1.1⟩
  rw [Calibration.isValid, Bool.and_eq_true, Vector.all_eq_true, Vector.all_eq_true] at h
  obtain ⟨hf, hf₀⟩ := hv (h.1 pair hp)
  obtain ⟨hr, hr₀⟩ := hv (h.2 pair hp)
  exact ⟨_, _, dif_pos hp, hf, hf₀, hr, hr₀⟩

lemma exists_root (h : (reflection pair).value quantity cal raw = .ok v) :
    ∃ t, 0 ≤ real t ∧ v = (t + 1) / (t - 1) := by
  cases hp : cal.pair? pair with
  | none =>
    simp only [value, chain, hp, bind, Except.bind] at h
    cases h
  | some fr =>
    simp only [value, chain, hp, bind, Except.bind] at h
    split at h
    · cases h
    · exact ⟨_, real_sqrt_nonneg _, (Except.ok.inj h).symm⟩

theorem one_le_abs_forward (h : (reflection pair).forward quantity cal raw = .ok v) : 1 ≤ |real v| := by
  obtain ⟨hv, hf⟩ := (forward_eq_ok_iff quantity cal _).mp h
  obtain ⟨t, ht, rfl⟩ := exists_root hv
  exact one_le_abs_quotient ht hf

lemma Chained.quotient (h : Chained cal pair f r) (x : Float) : (reflection pair).quotient? cal x =
    some ((x + 1) / (x - 1) * ((x + 1) / (x - 1)) * r.k / f.k * 1024) := by
  simp only [quotient?, h.found, Option.map_some]

lemma isFinite_1024 : (1024 : Float).isFinite = true :=
  (within_ofNat (by decide : 0 < 1024) (by decide)).isFinite

lemma real_1024 : real 1024 = 1024 := by
  rw [← Nat.cast_ofNat]
  exact real_ofNat (by decide : 0 < 1024) (by decide)

lemma Chained.quotients_below (h : Chained cal pair f r) (hx : x.isFinite = true) (hy : y.isFinite = true)
    (hl : -1 ≤ real x) (hle : real x ≤ real y) (hu : real y ≤ 1) :
    ∃ p q, (reflection pair).quotient? cal x = some p ∧ (reflection pair).quotient? cal y = some q ∧ Below p q := by
  have hsquare := below_mul_self (abs_quotient_le hx hy hl hle hu)
  refine ⟨_, _, h.quotient x, h.quotient y, ?_⟩
  exact ((hsquare.mul h.reflected_finite h.reflected_pos.le).div h.forward_finite h.forward_pos).mul isFinite_1024
    (real_1024.symm ▸ Nat.ofNat_nonneg 1024)

lemma exists_word {c : Conversion} (hx : x.isFinite = true) (hq : c.quotient? cal x = some q) (hqf : q.isFinite = true)
    (hw : IsWord c.isSigned (roundAway (real q))) : ∃ raw, c.inverse quantity cal x = .ok raw :=
  ⟨_, (inverse_eq_ok_iff quantity cal c).mpr ⟨hx, q, hq, hqf, hw, (real_ofWord_eq_iff hw).mpr rfl⟩⟩

lemma Chained.accepts_of_le (h : Chained cal pair f r) (hx : x.isFinite = true) (hy : y.isFinite = true)
    (hl : -1 ≤ real x) (hle : real x ≤ real y) (hu : real y ≤ 1)
    (ha : ∃ raw, (reflection pair).inverse quantity cal y = .ok raw) :
    ∃ raw, (reflection pair).inverse quantity cal x = .ok raw := by
  obtain ⟨raw, hraw⟩ := ha
  obtain ⟨-, q', hq', hqf, hw, -⟩ := (inverse_eq_ok_iff quantity cal _).mp hraw
  obtain ⟨p, q, hp, hq, hpq⟩ := h.quotients_below hx hy hl hle hu
  obtain rfl := Option.some.inj (hq.symm.trans hq')
  obtain ⟨hpf, hp₀, hpq⟩ := hpq hqf
  obtain ⟨hn₀, hn⟩ := roundAway_mono_of_nonneg hp₀ hpq
  exact exists_word hx hp hpf ⟨by omega, hn.trans hw.2⟩

lemma square_aboveMinusOne :
    ((aboveMinusOne + 1) / (aboveMinusOne - 1) * ((aboveMinusOne + 1) / (aboveMinusOne - 1))).isFinite = true ∧
    real ((aboveMinusOne + 1) / (aboveMinusOne - 1) * ((aboveMinusOne + 1) / (aboveMinusOne - 1))) =
      2 ^ (-108 : Int) := by
  have h : Number.exact ((aboveMinusOne + 1) / (aboveMinusOne - 1) * ((aboveMinusOne + 1) / (aboveMinusOne - 1))) =
      .finite false (2 ^ 52) (-160) := by
    decide +kernel
  refine ⟨Number.isFinite_eq_true.mpr ⟨_, _, _, h⟩, ?_⟩
  rw [real, h, exactReal, signedReal, scaled]
  norm_num

lemma Chained.accepts_least (h : Chained cal pair f r) (hle : real r.k ≤ 2 ^ 126 * real f.k) :
    ∃ raw, (reflection pair).inverse quantity cal aboveMinusOne = .ok raw := by
  have hq := h.quotient aboveMinusOne
  obtain ⟨htf, htr⟩ := square_aboveMinusOne
  generalize (aboveMinusOne + 1) / (aboveMinusOne - 1) * ((aboveMinusOne + 1) / (aboveMinusOne - 1)) = t at hq htf htr
  have hleast := two_zpow_le_real h.forward_pos h.forward_finite
  have hbig : real r.k < 2 ^ 1024 := (abs_lt.mp (abs_real_lt h.reflected_finite)).2
  have hmul := rounds_mul htf h.reflected_finite
  rw [htr] at hmul
  have hz : 0 ≤ 2 ^ (-108 : Int) * real r.k := mul_nonneg (by positivity) h.reflected_pos.le
  obtain ⟨hmf, hm₀, -⟩ := hmul.le_two_pow (k := 916) (by decide) hz (by
    refine (mul_le_mul_of_nonneg_left hbig.le (by positivity)).trans_eq ?_
    rw [← zpow_natCast, ← zpow_natCast, ← zpow_add₀ two_ne_zero]
    rfl)
  have hm : real (t * r.k) ≤ 2 ^ 20 * real f.k := by
    have hsmall : 2 ^ (-108 : Int) * real r.k ≤ 2 ^ 18 * real f.k := by
      refine (mul_le_mul_of_nonneg_left hle (by positivity)).trans_eq ?_
      rw [← mul_assoc]
      norm_num
    rw [hmul.real_eq hmf]
    linarith [rounded_le_two_mul hz]
  obtain ⟨hdf, hd₀, hd⟩ := (rounds_div hmf h.forward_finite h.forward_pos.ne').le_two_pow (k := 20) (by decide)
    (div_nonneg hm₀ h.forward_pos.le) ((div_le_iff₀ h.forward_pos).mpr hm)
  have hscale := rounds_mul hdf isFinite_1024
  rw [real_1024] at hscale
  obtain ⟨hqf, hq₀, hq₁⟩ := hscale.le_two_pow (k := 30) (by decide) (by linarith) (by linarith)
  obtain ⟨hn₀, hn⟩ := roundAway_mono_of_nonneg hq₀ hq₁
  have hend : roundAway (2 ^ 30) = 2 ^ 30 := roundAway_eq (by norm_num)
  exact exists_word isFinite_aboveMinusOne hq hqf ⟨by omega, by omega⟩

/-- A word of a chain never stands for a value between minus one and one, but some of these values have words: a
chain refuses them all just if it refuses the least, which takes detectors that differ by more than `2 ^ 126`. -/
theorem refuses_inside_iff (quantity : String) (hp : pair < 4) (h : cal.isValid = true) :
    (∀ raw v, (reflection pair).forward quantity cal raw = .ok v → 1 ≤ |real v|) ∧
    ((∀ x, x.isFinite = true → |real x| < 1 → ∃ e, (reflection pair).inverse quantity cal x = .error e) ↔
      ∃ e, (reflection pair).inverse quantity cal aboveMinusOne = .error e) ∧
    ∀ f r, cal.pair? pair = some (f, r) → real r.k ≤ 2 ^ 126 * real f.k →
      ∃ raw, (reflection pair).inverse quantity cal aboveMinusOne = .ok raw := by
  obtain ⟨f, r, hc⟩ := exists_chained hp h
  refine ⟨fun raw v => one_le_abs_forward, ⟨fun hall => ?_, fun ⟨e, he⟩ x hx hlt => ?_⟩, fun f' r' hp hle => ?_⟩
  · refine hall aboveMinusOne isFinite_aboveMinusOne ?_
    rw [real_aboveMinusOne, abs_neg, largest, abs_of_nonneg (scaled_nonneg _ _)]
    exact largest_lt_one
  · have hle := abs_real_le_of_lt_one hx hlt
    cases hi : (reflection pair).inverse quantity cal x with
    | error e => exact ⟨e, rfl⟩
    | ok raw =>
      obtain ⟨raw', ha⟩ := hc.accepts_of_le isFinite_aboveMinusOne hx
        (real_aboveMinusOne ▸ neg_le_neg largest_lt_one.le) (real_aboveMinusOne ▸ (abs_le.mp hle).1)
        (abs_lt.mp hlt).2.le ⟨raw, hi⟩
      rw [he] at ha
      cases ha
  · cases hc.found.symm.trans hp
    exact hc.accepts_least hle

lemma pair_standard : Calibration.standard.pair? 2 = some (⟨1.5818e-10, 74.1⟩, ⟨1.5818e-10, 74.1⟩) := rfl

theorem refuses_inside_standard : (2 < 4 ∧ Calibration.standard.isValid = true) ∧
    (∀ raw v, (reflection 2).forward "SP_P_2" .standard raw = .ok v → 1 ≤ |real v|) ∧
    ∃ raw, (reflection 2).inverse "SP_P_2" .standard aboveMinusOne = .ok raw := by
  have hv : Calibration.standard.isValid = true := by decide +kernel
  have hk : (1.5818e-10 : Float).isFinite = true ∧ (0 : Float) < 1.5818e-10 := by decide +kernel
  obtain ⟨himage, -, hleast⟩ := refuses_inside_iff "SP_P_2" (by decide : 2 < 4) hv
  have hle : real 1.5818e-10 ≤ 2 ^ 126 * real 1.5818e-10 :=
    le_mul_of_one_le_left (real_pos hk.2 hk.1).le (one_le_pow₀ one_le_two)
  exact ⟨⟨by decide, hv⟩, himage, hleast _ _ pair_standard hle⟩

theorem accepts_half : Calibration.standard.isValid = true ∧ (0.5 : Float).isFinite = true ∧ |real 0.5| < 1 ∧
    (reflection 2).inverse "SP_P_2" .standard 0.5 = .ok 9216 ∧
    (reflection 2).forward "SP_P_2" .standard 9216 = .ok 2 := by
  have hr : real 0.5 = 1 / 2 := by
    have h : (0.5 : Float).toModel.unpack = .finite .positive (2 ^ 52) (-53) (by decide) := by rfl
    rw [real_of_unpack h, scaled]
    norm_num
  have ht : (Number.ofWord true 9216 / 1024 * 1.5818e-10 / 1.5818e-10).sqrt = 3 :=
    congrArg Float.ofModel (by decide +kernel)
  have hv : ((3 + 1) / (3 - 1) : Float) = 2 := congrArg Float.ofModel (by decide +kernel)
  have hf : (reflection 2).forward "SP_P_2" .standard 9216 = .ok 2 := by
    have h₃ : ¬ ((3 : Float) == 1) = true := by decide +kernel
    rw [forward_eq_ok_iff]
    simp only [value, chain, pair_standard, bind, Except.bind, ht, hv, h₃]
    exact ⟨rfl, by decide +kernel⟩
  refine ⟨by decide +kernel, by decide +kernel, ?_, by rfl, hf⟩
  rw [hr]
  norm_num [abs_lt]

end Conversion

end RfBoard
