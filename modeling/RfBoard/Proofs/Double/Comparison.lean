import RfBoard.Proofs.Double.CorrectRounding

namespace RfBoard.Double

open Float.Model Float.Model.UnpackedFloat

variable {m M : Nat} {e E : Int} {x y : Float}

section Order

lemma Canonical.compare_eq (h : Canonical m e) (h' : Canonical M E) :
    (compare e E).then (compare m M) = compare (scaled m e) (scaled M E) := by
  rcases lt_trichotomy e E with he | rfl | he
  · have hlt := lt_of_not_ge fun hge => not_le.mpr he (h'.exponent_le h hge)
    rw [compare_lt_iff_lt.mpr he, compare_lt_iff_lt.mpr hlt]
    rfl
  · rw [compare_eq_iff_eq.mpr rfl, Ordering.then]
    rcases lt_trichotomy m M with hm | rfl | hm
    · rw [compare_lt_iff_lt.mpr hm, compare_lt_iff_lt.mpr (scaled_lt_scaled_iff.mpr hm)]
    · rw [compare_eq_iff_eq.mpr rfl, compare_eq_iff_eq.mpr rfl]
    · rw [compare_gt_iff_gt.mpr hm, compare_gt_iff_gt.mpr (scaled_lt_scaled_iff.mpr hm)]
  · have hlt := lt_of_not_ge fun hge => not_le.mpr he (h.exponent_le h' hge)
    rw [compare_gt_iff_gt.mpr he, compare_gt_iff_gt.mpr hlt]
    rfl

lemma compare_neg_neg (a b : ℝ) : compare (-a) (-b) = (compare a b).swap := by
  rcases lt_trichotomy a b with h | rfl | h
  · rw [compare_lt_iff_lt.mpr h, compare_gt_iff_gt.mpr (neg_lt_neg h)]
    rfl
  · rw [compare_eq_iff_eq.mpr rfl, compare_eq_iff_eq.mpr rfl]
    rfl
  · rw [compare_gt_iff_gt.mpr h, compare_lt_iff_lt.mpr (neg_lt_neg h)]
    rfl

theorem compare_unpack (hx : x.isFinite = true) (hy : y.isFinite = true) :
    UnpackedFloat.compare x.toModel.unpack y.toModel.unpack = some (compare (real x) (real y)) := by
  rcases unpack_of_isFinite hx with ⟨s, hx⟩ | ⟨s, m, e, hm, hx, hc, -⟩
  · rw [real_of_unpack_zero hx]
    rcases unpack_of_isFinite hy with ⟨s', hy⟩ | ⟨s', M, E, hM, hy, -, -⟩
    · rw [real_of_unpack_zero hy, hx, hy, compare_eq_iff_eq.mpr rfl]
      rfl
    · have hp := scaled_pos hM E
      rw [real_of_unpack_finite hy, hx, hy]
      cases s' with
      | positive => exact congrArg some (compare_lt_iff_lt.mpr hp).symm
      | negative => exact congrArg some (compare_gt_iff_gt.mpr (neg_neg_of_pos hp)).symm
  · have hp := scaled_pos hm e
    rw [real_of_unpack_finite hx]
    rcases unpack_of_isFinite hy with ⟨s', hy⟩ | ⟨s', M, E, hM, hy, hc', -⟩
    · rw [real_of_unpack_zero hy, hx, hy]
      cases s with
      | positive => exact congrArg some (compare_gt_iff_gt.mpr hp).symm
      | negative => exact congrArg some (compare_lt_iff_lt.mpr (neg_neg_of_pos hp)).symm
    · have hp' := scaled_pos hM E
      rw [real_of_unpack_finite hy, hx, hy]
      cases s with
      | positive =>
        cases s' with
        | positive => exact congrArg some (hc.compare_eq hc')
        | negative => exact congrArg some (compare_gt_iff_gt.mpr ((neg_neg_of_pos hp').trans hp)).symm
      | negative =>
        cases s' with
        | positive => exact congrArg some (compare_lt_iff_lt.mpr ((neg_neg_of_pos hp).trans hp')).symm
        | negative =>
          refine congrArg some ?_
          rw [hc.compare_eq hc']
          exact (compare_neg_neg _ _).symm

lemma lt_iff (x y : Float) : x < y ↔ UnpackedFloat.lt x.toModel.unpack y.toModel.unpack = true :=
  ⟨fun h => of_decide_eq_true h, fun h => decide_eq_true h⟩

lemma lt_iff_real_lt (hx : x.isFinite = true) (hy : y.isFinite = true) : x < y ↔ real x < real y := by
  rw [lt_iff, UnpackedFloat.lt, compare_unpack hx hy, beq_iff_eq, Option.some.injEq, compare_lt_iff_lt]

lemma le_iff_real_le (hx : x.isFinite = true) (hy : y.isFinite = true) : x ≤ y ↔ real x ≤ real y := by
  rw [le_iff, UnpackedFloat.le, compare_unpack hx hy, Option.any_some, ← compare_le_iff_le, Ordering.isLE_iff_ne_gt]

lemma beq_iff_real_eq (hx : x.isFinite = true) (hy : y.isFinite = true) : (x == y) = true ↔ real x = real y := by
  have h : (x == y) = UnpackedFloat.beq x.toModel.unpack y.toModel.unpack := rfl
  rw [h, UnpackedFloat.beq, compare_unpack hx hy, beq_iff_eq, Option.some.injEq, compare_eq_iff_eq]

end Order

section Signs

lemma isFinite_zero : (0 : Float).isFinite = true := by rfl

lemma real_zero : real 0 = 0 := real_of_unpack_zero (s := .positive) (by rfl)

lemma unpack_abs (x : Float) : x.abs.toModel.unpack = (Float.Model.pack x.toModel.unpack.abs).unpack := rfl

lemma abs_finite (hx : x.isFinite = true) : x.abs.isFinite = true ∧ real x.abs = |real x| := by
  rw [isFinite_eq]
  rcases unpack_of_isFinite hx with ⟨s, hx⟩ | ⟨s, m, e, hm, hx, hc, he⟩
  · have ha : x.abs.toModel.unpack = .zero .positive := by rw [unpack_abs, hx, UnpackedFloat.abs, unpack_pack_zero]
    rw [real_of_unpack_zero ha, real_of_unpack_zero hx, ha, abs_zero]
    exact ⟨rfl, rfl⟩
  · have ha : x.abs.toModel.unpack = .finite .positive m e hm := by
      rw [unpack_abs, hx, UnpackedFloat.abs, model_unpack_pack hm hc he]
    rw [real_of_unpack ha, real_of_unpack_finite hx, ha, abs_signedReal _ (scaled_nonneg m e)]
    exact ⟨rfl, rfl⟩

lemma isFinite_of_neg (h : (-x).isFinite = true) : x.isFinite = true := by
  cases hx : x.isFinite with
  | true => rfl
  | false =>
    rw [isFinite_eq, unpack_neg] at h
    rcases unpack_of_not_isFinite hx with hx | ⟨s, hx⟩
    · rw [hx, UnpackedFloat.neg, unpack_pack_notANumber] at h
      cases h
    · rw [hx, UnpackedFloat.neg, unpack_pack_infinity] at h
      cases h

lemma neg_neg_self (hx : x.isFinite = true) : - -x = x := by
  rcases unpack_of_isFinite hx with ⟨s, hx⟩ | ⟨s, m, e, hm, hx, -, -⟩
  · refine eq_of_unpack ?_
    rw [unpack_neg, unpack_neg, hx, UnpackedFloat.neg, unpack_pack_zero, UnpackedFloat.neg, unpack_pack_zero]
    cases s <;> rfl
  · refine eq_of_unpack ?_
    rw [unpack_neg_finite (unpack_neg_finite hx), hx]
    cases s <;> rfl

lemma Canonical.eq_of_scaled (h : Canonical m e) (h' : Canonical M E) (heq : scaled m e = scaled M E) : m = M ∧ e = E := by
  obtain rfl : e = E := le_antisymm (h.exponent_le h' heq.le) (h'.exponent_le h heq.ge)
  exact ⟨le_antisymm (scaled_le_scaled_iff.mp heq.le) (scaled_le_scaled_iff.mp heq.ge), rfl⟩

lemma eq_of_real (hx : x.isFinite = true) (hy : y.isFinite = true) (h : real x = real y) (h₀ : real x ≠ 0) : x = y := by
  rcases unpack_of_isFinite hx with ⟨s, hx⟩ | ⟨s, m, e, hm, hx, hc, -⟩
  · exact absurd (real_of_unpack_zero hx) h₀
  rcases unpack_of_isFinite hy with ⟨s', hy⟩ | ⟨s', M, E, hM, hy, hc', -⟩
  · exact absurd (h.trans (real_of_unpack_zero hy)) h₀
  rw [real_of_unpack_finite hx, real_of_unpack_finite hy] at h
  have hp := scaled_pos hm e
  have hp' := scaled_pos hM E
  obtain ⟨rfl, heq⟩ : s = s' ∧ scaled m e = scaled M E := by
    cases s with
    | positive =>
      cases s' with
      | positive => exact ⟨rfl, h⟩
      | negative => exact absurd h (by change scaled m e ≠ -scaled M E; linarith)
    | negative =>
      cases s' with
      | positive => exact absurd h (by change -scaled m e ≠ scaled M E; linarith)
      | negative => exact ⟨rfl, neg_injective h⟩
  obtain ⟨rfl, rfl⟩ := hc.eq_of_scaled hc' heq
  exact eq_of_unpack (hx.trans hy.symm)

end Signs

section Gaps

lemma Canonical.exists_common (h : Canonical m e) (h' : Canonical M E) (hlt : scaled M E < scaled m e) :
    ∃ n, M < n ∧ scaled m e = scaled n E ∧ n + 2 ^ 54 * M ≤ 2 ^ 54 * n := by
  have hE := h'.exponent_le h hlt.le
  obtain ⟨k, hk⟩ : ∃ k, k = (e - E).toNat := ⟨_, rfl⟩
  have hs : scaled m e = scaled (m * 2 ^ k) E := hk ▸ scaled_eq_of_le hE m
  rw [hs] at hlt
  have hd : M < m * 2 ^ k := scaled_lt_scaled_iff.mp hlt
  refine ⟨m * 2 ^ k, hd, hs, ?_⟩
  have hm := h.lt
  have hM := h'.lt
  rcases Nat.lt_or_ge k 2 with hk₂ | hk₂
  · have hp : 2 ^ k ≤ 2 ^ 1 := Nat.pow_le_pow_right two_pos (Nat.le_of_lt_succ hk₂)
    nlinarith
  · -- two steps of the exponent or more make the larger one at least twice the smaller
    have hfull := h.full.resolve_right (by have := h'.least; omega)
    have hp : 2 ^ 2 ≤ 2 ^ k := Nat.pow_le_pow_right two_pos hk₂
    nlinarith

lemma Canonical.gap (h : Canonical m e) (h' : Canonical M E) (hlt : scaled M E < scaled m e) :
    2 ^ (-1074 : Int) ≤ scaled m e - scaled M E ∧ scaled m e ≤ 2 ^ 54 * (scaled m e - scaled M E) := by
  obtain ⟨n, hn, hs, hb⟩ := h.exists_common h' hlt
  have hp : (0 : ℝ) < 2 ^ E := by positivity
  have hn : (M : ℝ) + 1 ≤ n := by exact_mod_cast hn
  have hb : (n : ℝ) + 2 ^ 54 * M ≤ 2 ^ 54 * n := by exact_mod_cast hb
  have hle : (2 : ℝ) ^ (-1074 : Int) ≤ 2 ^ E := zpow_le_zpow_right₀ one_le_two h'.least
  rw [hs, scaled, scaled]
  constructor <;> nlinarith

lemma gap_of_ne (hx : x.isFinite = true) (hy : y.isFinite = true) (hx₀ : 0 ≤ real x) (hy₀ : 0 ≤ real y)
    (hne : real x ≠ real y) :
    2 ^ (-1074 : Int) ≤ |real x - real y| ∧ real x + real y ≤ 2 ^ 55 * |real x - real y| := by
  obtain ⟨m, e, hc, -, hrx⟩ := representable_abs_real hx
  obtain ⟨M, E, hc', -, hry⟩ := representable_abs_real hy
  rw [abs_of_nonneg hx₀] at hrx
  rw [abs_of_nonneg hy₀] at hry
  rcases hne.lt_or_gt with hlt | hlt
  · rw [abs_of_neg (sub_neg.mpr hlt), neg_sub]
    rw [hrx, hry] at hlt ⊢
    obtain ⟨hl, hu⟩ := hc'.gap hc hlt
    exact ⟨hl, by linarith⟩
  · rw [abs_of_pos (sub_pos.mpr hlt)]
    rw [hrx, hry] at hlt ⊢
    obtain ⟨hl, hu⟩ := hc.gap hc' hlt
    exact ⟨hl, by linarith⟩

end Gaps

end RfBoard.Double
