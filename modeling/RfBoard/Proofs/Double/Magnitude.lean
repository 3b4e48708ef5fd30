import RfBoard.Proofs.Double.Rounding

/-!
How large a double is: a value no larger than some double is rounded to one that is no larger either.
-/

namespace RfBoard.Double

open Float.Model Float.Model.UnpackedFloat

variable {s : Sign} {m q k N : Nat} {e t T : Int} {acc : Accuracy}
noncomputable def scaled (m : Nat) (e : Int) : ℝ := m * 2 ^ e

lemma scaled_le_scaled {n : Nat} (h : m ≤ n) (e : Int) : scaled m e ≤ scaled n e :=
  mul_le_mul_of_nonneg_right (Nat.cast_le.mpr h) (by positivity)

lemma scaled_nonneg (m : Nat) (e : Int) : 0 ≤ scaled m e := by
  rw [scaled]
  positivity

lemma scaled_pos (h : 0 < m) (e : Int) : 0 < scaled m e :=
  mul_pos (Nat.cast_pos.mpr h) (by positivity)

lemma scaled_mul_two_pow (m k : Nat) (e : Int) : scaled (m * 2 ^ k) e = scaled m (e + k) := by
  rw [scaled, scaled, zpow_add₀ two_ne_zero, zpow_natCast]
  push_cast
  ring

lemma scaled_lt_two_zpow (h : m < 2 ^ k) (e : Int) : scaled m e < 2 ^ (k + e) := by
  rw [scaled, zpow_add₀ two_ne_zero, zpow_natCast]
  exact mul_lt_mul_of_pos_right (by exact_mod_cast h) (by positivity)

lemma two_zpow_le_scaled (h : 2 ^ k ≤ m) (e : Int) : (2 : ℝ) ^ (k + e) ≤ scaled m e := by
  rw [scaled, zpow_add₀ two_ne_zero, zpow_natCast]
  exact mul_le_mul_of_nonneg_right (by exact_mod_cast h) (by positivity)

lemma two_zpow_totalExponent_le (h : 0 < m) (e : Int) : (2 : ℝ) ^ (totalExponent m e - 1) ≤ scaled m e := by
  have hm := two_zpow_le_scaled (Nat.log2_self_le (by omega : m ≠ 0)) e
  rwa [totalExponent, show (m.log2 + 1 + e - 1 : Int) = m.log2 + e by omega]

lemma scaled_lt_two_zpow_totalExponent (m : Nat) (e : Int) : scaled m e < 2 ^ totalExponent m e := by
  have hm := scaled_lt_two_zpow (Nat.lt_log2_self (n := m)) e
  rwa [Nat.cast_add, Nat.cast_one] at hm

def Representable (b : ℝ) : Prop := ∃ m e, Canonical m e ∧ e ≤ 971 ∧ b = scaled m e

lemma Representable.nonneg {b : ℝ} (h : Representable b) : 0 ≤ b := by
  obtain ⟨m, e, -, -, rfl⟩ := h
  exact scaled_nonneg m e

inductive Sized (s : Sign) (b : ℝ) : UnpackedFloat → Prop
  | zero : 0 ≤ b → Sized s b (.zero s)
  | finite {m : Nat} {e : Int} {hm : 0 < m} : Canonical m e → e ≤ 971 → scaled m e ≤ b →
      Sized s b (.finite s m e hm)

/-- What an operation hands to rounding: a mantissa from below, and how far the value `x` is above it. -/
structure Approximates (q : Nat) (e : Int) (acc : Accuracy) (T : Int) (x : ℝ) : Prop where
  exact : acc = .exact → x = scaled q e
  inexact : ∀ o, acc = .inexact o → scaled q e < x ∧ x < scaled (q + 1) e
  exponent : e ≤ Format.binary64.targetExponent T
  low : 2 ^ (T - 1) ≤ x

namespace Approximates

variable {x : ℝ}

lemma le (h : Approximates q e acc T x) : scaled q e ≤ x := by
  cases acc with
  | exact => exact (h.exact rfl).ge
  | inexact o => exact (h.inexact o rfl).1.le

lemma lt (h : Approximates q e acc T x) : x < scaled (q + 1) e := by
  cases acc with
  | exact =>
    rw [h.exact rfl]
    exact mul_lt_mul_of_pos_right (Nat.cast_lt.mpr (Nat.lt_succ_self q)) (by positivity)
  | inexact o => exact (h.inexact o rfl).2

lemma exponent_le (h : Approximates q e acc T x) : e ≤ Format.binary64.targetExponent (totalExponent q e) := by
  have he := h.exponent
  rw [targetExponent_eq] at he ⊢
  by_cases hT : e ≤ T - 1
  · -- the value has `T - 1 - e` bits above the exponent, and so has the mantissa
    obtain ⟨k, hk⟩ := Int.eq_ofNat_of_zero_le (show 0 ≤ T - 1 - e by omega)
    have hx : (2 : ℝ) ^ ((k : Int) + e) < scaled (q + 1) e := by
      rw [show (k : Int) + e = T - 1 by omega]
      exact h.low.trans_lt h.lt
    have hq : 2 ^ k ≤ q := by
      by_contra hlt
      exact absurd hx (not_lt.mpr ((scaled_le_scaled (by omega : q + 1 ≤ 2 ^ k) e).trans
        (by rw [scaled, zpow_add₀ two_ne_zero, zpow_natCast]; push_cast; exact le_rfl)))
    have hl : k ≤ q.log2 := (Nat.le_log2 (by have := Nat.two_pow_pos k; omega)).mpr hq
    rw [totalExponent]
    omega
  · omega

end Approximates

lemma scaled_le_scaled_iff {n : Nat} : scaled m e ≤ scaled n e ↔ m ≤ n := by
  rw [scaled, scaled, mul_le_mul_iff_left₀ (by positivity), Nat.cast_le]

lemma scaled_lt_scaled_iff {n : Nat} : scaled m e < scaled n e ↔ m < n := by
  rw [← not_le, scaled_le_scaled_iff, not_le]

lemma scaled_eq_of_le (h : e ≤ t) (m : Nat) : scaled m t = scaled (m * 2 ^ (t - e).toNat) e := by
  rw [scaled_mul_two_pow, show e + ((t - e).toNat : Int) = t by omega]

lemma exponent_le_of_full {M : Nat} {E : Int} (hf : 2 ^ 52 ≤ m) (hM : M < 2 ^ 53) (h : scaled m e ≤ scaled M E) :
    e ≤ E := by
  by_contra hlt
  have hl := two_zpow_le_scaled hf e
  have hu := scaled_lt_two_zpow hM E
  have hp : (2 : ℝ) ^ ((53 : Nat) + E) ≤ 2 ^ ((52 : Nat) + e) := zpow_le_zpow_right₀ one_le_two (by push_cast; omega)
  linarith

lemma Canonical.exponent_le {M : Nat} {E : Int} (hm : Canonical m e) (hM : Canonical M E)
    (h : scaled m e ≤ scaled M E) : e ≤ E := by
  rcases hm.full with hf | rfl
  · exact exponent_le_of_full hf hM.lt h
  · exact hM.least

lemma Approximates.ceiling_le {x : ℝ} (h : Approximates q e acc T x) (hx : x ≤ scaled N e) : ceiling q acc ≤ N := by
  cases acc with
  | exact =>
    rw [h.exact rfl] at hx
    exact scaled_le_scaled_iff.mp hx
  | inexact o =>
    by_contra hlt
    exact absurd ((h.inexact o rfl).1.trans_le hx) (not_lt.mpr (scaled_le_scaled (by rw [ceiling] at hlt; omega) e))

lemma Approximates.shortened_le {x : ℝ} {M : Nat} {E : Int} (h : Approximates q e acc T x) (hM : Canonical M E)
    (hx : x ≤ scaled M E) (ht : t = Format.binary64.targetExponent (totalExponent q e)) :
    scaled (shortened q acc (t - e).toNat) t ≤ scaled M E := by
  have he : e ≤ t := ht ▸ h.exponent_le
  have hE : t ≤ E := by
    rcases (div_two_pow_target ht he).2 with hf | hl
    · refine exponent_le_of_full hf hM.lt ?_
      rw [scaled_eq_of_le he]
      exact (scaled_le_scaled (Nat.div_mul_le_self q _) e).trans (h.le.trans hx)
    · exact hl ▸ hM.least
  -- at the exponent of the result the bound is an integer, and rounding does not pass an integer
  have hc : ceiling q acc ≤ M * 2 ^ (E - t).toNat * 2 ^ (t - e).toNat := by
    apply h.ceiling_le
    rwa [← scaled_eq_of_le he, ← scaled_eq_of_le hE]
  rw [scaled_eq_of_le hE]
  exact scaled_le_scaled (shortened_le_of_ceiling hc) t

@[simp] lemma unpack_pack_zero (s : Sign) : (Float.Model.pack (.zero s)).unpack = .zero s := by cases s <;> rfl

theorem sized_of_approximates {x b : ℝ} (h : Approximates q e acc T x) (hb : Representable b) (hx : x ≤ b) :
    Sized s b (Float.Model.pack (roundWithAccuracy .binary64 s q e acc)).unpack := by
  obtain ⟨M, E, hM, hE, rfl⟩ := hb
  obtain ⟨t, ht⟩ : ∃ t, t = Format.binary64.targetExponent (totalExponent q e) := ⟨_, rfl⟩
  have hr := h.shortened_le hM hx ht
  rcases @roundWithAccuracy_cases s q e t acc ht (ht ▸ h.exponent_le) with ⟨_, hz⟩ | ⟨hp, hf, hc⟩ | ⟨hl, hf, hc⟩
  · rw [hz, unpack_pack_zero]
    exact .zero (scaled_nonneg M E)
  · have ht' := (hc.exponent_le hM hr).trans hE
    rw [hf, model_unpack_pack hp hc ht']
    exact .finite hc ht' hr
  · rw [hl, show (2 : Nat) ^ 53 = 2 ^ 52 * 2 ^ 1 from rfl, scaled_mul_two_pow] at hr
    have ht' := (hc.exponent_le hM hr).trans hE
    rw [hf, model_unpack_pack _ hc ht']
    exact .finite hc ht' hr

section Operations

variable {s₁ s₂ : Sign} {u v : UnpackedFloat} {a b B : ℝ} {m₁ m₂ : Nat} {e₁ e₂ : Int}

lemma Sized.nonneg (h : Sized s a u) : 0 ≤ a := by
  cases h with
  | zero h => exact h
  | finite _ _ h => exact (scaled_nonneg _ _).trans h

lemma approximates_exact (hm : 0 < m) (he : e ≤ Format.binary64.targetExponent (totalExponent m e)) :
    Approximates m e .exact (totalExponent m e) (scaled m e) :=
  ⟨fun _ => rfl, nofun, he, two_zpow_totalExponent_le hm e⟩

lemma Canonical.add_exponent_le (h₁ : Canonical m₁ e₁) (h₂ : Canonical m₂ e₂) (hm₁ : 0 < m₁) (hm₂ : 0 < m₂) :
    e₁ + e₂ ≤ Format.binary64.targetExponent (totalExponent (m₁ * m₂) (e₁ + e₂)) := by
  have hp : m₁ * m₂ ≠ 0 := (Nat.mul_pos hm₁ hm₂).ne'
  rw [targetExponent_eq, totalExponent]
  by_cases hl : 2 ^ 52 ≤ m₁ * m₂
  · have := (Nat.le_log2 hp).mpr hl
    omega
  · have hl₁ : ¬ 2 ^ 52 ≤ m₁ := fun h => hl (h.trans (Nat.le_mul_of_pos_right m₁ hm₂))
    have hl₂ : ¬ 2 ^ 52 ≤ m₂ := fun h => hl (h.trans (Nat.le_mul_of_pos_left m₂ hm₁))
    have he₁ := h₁.full.resolve_left hl₁
    have he₂ := h₂.full.resolve_left hl₂
    omega

lemma scaled_mul (m₁ m₂ : Nat) (e₁ e₂ : Int) : scaled (m₁ * m₂) (e₁ + e₂) = scaled m₁ e₁ * scaled m₂ e₂ := by
  simp only [scaled, zpow_add₀ (two_ne_zero' ℝ), Nat.cast_mul]
  ring

lemma scaled_add (m₁ m₂ : Nat) (e : Int) : scaled (m₁ + m₂) e = scaled m₁ e + scaled m₂ e := by
  simp only [scaled, Nat.cast_add, add_mul]

theorem Sized.mul (hu : Sized s₁ a u) (hv : Sized s₂ b v) (hB : Representable B) (hab : a * b ≤ B) :
    Sized (s₁ * s₂) B (Float.Model.pack (UnpackedFloat.mul .binary64 u v)).unpack := by
  cases hu with
  | zero _ =>
    cases hv <;> simpa only [UnpackedFloat.mul, unpack_pack_zero] using .zero hB.nonneg
  | @finite m₁ e₁ hm₁ hc₁ _ h₁ =>
    cases hv with
    | zero _ => simpa only [UnpackedFloat.mul, unpack_pack_zero] using .zero hB.nonneg
    | @finite m₂ e₂ hm₂ hc₂ _ h₂ =>
      refine sized_of_approximates
        (approximates_exact (Nat.mul_pos hm₁ hm₂) (hc₁.add_exponent_le hc₂ hm₁ hm₂)) hB ?_
      rw [scaled_mul]
      exact (mul_le_mul h₁ h₂ (scaled_nonneg _ _) ((scaled_nonneg _ _).trans h₁)).trans hab

lemma sized_round (hm : 0 < m) (hB : Representable B) (h : scaled m e ≤ B) :
    Sized s B (Float.Model.pack (UnpackedFloat.round .binary64 s m e)).unpack := by
  obtain ⟨k, hk⟩ : ∃ k, k = (e - Format.binary64.targetExponent (totalExponent m e)).toNat := ⟨_, rfl⟩
  simp only [UnpackedFloat.round, decreaseExponent, Nat.shiftLeft_eq, ← hk]
  have hx : scaled (m * 2 ^ k) (e - k) = scaled m e := by rw [scaled_mul_two_pow, Int.sub_add_cancel]
  refine sized_of_approximates (approximates_exact (Nat.mul_pos hm (Nat.two_pow_pos k)) ?_) hB (hx.trans_le h)
  rw [totalExponent_mul_two_pow hm]
  omega

lemma sized_normalize {n : Int} (hB : Representable B) (h : scaled n.natAbs e ≤ B) (z : Sign) :
    ∃ s, (0 < n → s = .positive) ∧ (n < 0 → s = .negative) ∧
      Sized s B (Float.Model.pack (UnpackedFloat.normalize .binary64 n e z)).unpack := by
  rw [UnpackedFloat.normalize]
  rcases Int.lt_trichotomy n 0 with hn | rfl | hn
  · have hc : compare n 0 = .lt := Int.compare_eq_lt.mpr hn
    refine ⟨.negative, fun hp => by omega, fun _ => rfl, ?_⟩
    simp only [hc]
    exact sized_round (by omega) hB (by rwa [show (-n).toNat = n.natAbs by omega])
  · refine ⟨z, fun hp => by omega, fun hp => by omega, ?_⟩
    change Sized z B (Float.Model.pack (.zero z)).unpack
    rw [unpack_pack_zero]
    exact .zero ((scaled_nonneg _ _).trans h)
  · have hc : compare n 0 = .gt := Int.compare_eq_gt.mpr hn
    refine ⟨.positive, fun _ => rfl, fun hp => by omega, ?_⟩
    simp only [hc]
    exact sized_round (by omega) hB (by rwa [show n.toNat = n.natAbs by omega])

lemma natAbs_apply_add (n₁ n₂ : Nat) : (s₁.apply n₁ + s₂.apply n₂).natAbs ≤ n₁ + n₂ := by
  cases s₁ <;> cases s₂ <;> simp only [Sign.apply] <;> omega

lemma Sized.packed (h : Sized s a u) (hab : a ≤ B) : Sized s B (Float.Model.pack u).unpack := by
  cases h with
  | zero h =>
    rw [unpack_pack_zero]
    exact .zero (h.trans hab)
  | finite hc he h =>
    rw [model_unpack_pack _ hc he]
    exact .finite hc he (h.trans hab)

theorem Sized.add (hu : Sized s₁ a u) (hv : Sized s₂ b v) (hB : Representable B) (hab : a + b ≤ B) :
    ∃ s, (s₁ = s₂ → s = s₁) ∧ Sized s B (Float.Model.pack (UnpackedFloat.add .binary64 u v)).unpack := by
  have ha := hu.nonneg
  have hb := hv.nonneg
  cases hu with
  | zero _ =>
    cases hv with
    | zero _ =>
      by_cases hs : s₁ = s₂
      · subst hs
        refine ⟨s₁, fun _ => rfl, ?_⟩
        simp only [UnpackedFloat.add, beq_self_eq_true, if_true, unpack_pack_zero]
        exact .zero (by linarith)
      · refine ⟨.positive, fun h => absurd h hs, ?_⟩
        simp only [UnpackedFloat.add, beq_eq_false_iff_ne.mpr hs, Bool.false_eq_true, if_false, unpack_pack_zero]
        exact .zero (by linarith)
    | finite hc he h => exact ⟨s₂, fun h => h.symm, (Sized.finite hc he h).packed (by linarith)⟩
  | @finite m₁ e₁ hm₁ hc₁ he₁ h₁ =>
    cases hv with
    | zero _ => exact ⟨s₁, fun _ => rfl, (Sized.finite hc₁ he₁ h₁).packed (by linarith)⟩
    | @finite m₂ e₂ hm₂ hc₂ he₂ h₂ =>
      simp only [UnpackedFloat.add, decreaseExponent, Nat.shiftLeft_eq]
      obtain ⟨e, he⟩ : ∃ e, e = min e₁ e₂ := ⟨_, rfl⟩
      rw [← he]
      have hp₁ : 0 < m₁ * 2 ^ (e₁ - e).toNat := Nat.mul_pos hm₁ (Nat.two_pow_pos _)
      have hp₂ : 0 < m₂ * 2 ^ (e₂ - e).toNat := Nat.mul_pos hm₂ (Nat.two_pow_pos _)
      have hsum : scaled (m₁ * 2 ^ (e₁ - e).toNat + m₂ * 2 ^ (e₂ - e).toNat) e ≤ B := by
        rw [scaled_add, ← scaled_eq_of_le (by omega), ← scaled_eq_of_le (by omega)]
        linarith
      generalize m₁ * 2 ^ (e₁ - e).toNat = n₁ at hp₁ hsum
      generalize m₂ * 2 ^ (e₂ - e).toNat = n₂ at hp₂ hsum
      obtain ⟨s, hpos, hneg, hs⟩ :=
        sized_normalize hB ((scaled_le_scaled (natAbs_apply_add n₁ n₂) e).trans hsum) .positive
      refine ⟨s, ?_, hs⟩
      rintro rfl
      cases s₁ with
      | positive => exact hpos (by simp only [Sign.apply]; omega)
      | negative => exact hneg (by simp only [Sign.apply]; omega)

lemma sub_eq_add_neg (u v : UnpackedFloat) :
    UnpackedFloat.sub .binary64 u v = UnpackedFloat.add .binary64 u v.neg := by
  have ha : ∀ (s : Sign) (n : Int), (-s).apply n = -s.apply n := by
    intro s n
    cases s with
    | positive => rfl
    | negative => exact (Int.neg_neg n).symm
  cases u <;> cases v <;> simp only [UnpackedFloat.sub, UnpackedFloat.add, UnpackedFloat.neg, ha, Int.sub_eq_add_neg]

lemma Sized.neg (h : Sized s a u) : Sized (-s) a u.neg := by
  cases h with
  | zero h => exact .zero h
  | finite hc he h => exact .finite hc he h

theorem Sized.sub (hu : Sized s₁ a u) (hv : Sized s₂ b v) (hB : Representable B) (hab : a + b ≤ B) :
    ∃ s, Sized s B (Float.Model.pack (UnpackedFloat.sub .binary64 u v)).unpack := by
  obtain ⟨s, _, hs⟩ := hu.add hv.neg hB hab
  rw [sub_eq_add_neg]
  exact ⟨s, hs⟩

lemma div_mod_scaled (m₁ : Nat) (hm₂ : 0 < m₂) (e : Int) : scaled m₁ e / m₂ =
    scaled (m₁ / m₂) e + (m₁ % m₂ : Nat) / m₂ * 2 ^ e := by
  have hz : (m₂ : ℝ) ≠ 0 := Nat.cast_ne_zero.mpr hm₂.ne'
  have hd : (m₁ : ℝ) = m₂ * (m₁ / m₂ : Nat) + (m₁ % m₂ : Nat) := by exact_mod_cast (Nat.div_add_mod m₁ m₂).symm
  rw [scaled, scaled, hd]
  field_simp

lemma approximates_divCore (hm₁ : 0 < m₁) (hm₂ : 0 < m₂) :
    Approximates (divCore .binary64 m₁ e₁ m₂ e₂).1 (divCore .binary64 m₁ e₁ m₂ e₂).2.1
      (divCore .binary64 m₁ e₁ m₂ e₂).2.2 (totalExponent m₁ e₁ - totalExponent m₂ e₂)
      (scaled m₁ e₁ / scaled m₂ e₂) := by
  have hp₂ : (0 : ℝ) < m₂ := Nat.cast_pos.mpr hm₂
  obtain ⟨t, ht⟩ : ∃ t, t = min (e₁ - e₂)
    (Format.binary64.targetExponent (totalExponent m₁ e₁ - totalExponent m₂ e₂)) := ⟨_, rfl⟩
  simp only [divCore, ← ht, Nat.shiftLeft_eq]
  have hx : scaled m₁ e₁ / scaled m₂ e₂ = scaled (m₁ * 2 ^ (e₁ - e₂ - t).toNat) t / m₂ := by
    rw [scaled_mul_two_pow, show t + ((e₁ - e₂ - t).toNat : Int) = e₁ - e₂ by omega, scaled, scaled, scaled,
      zpow_sub₀ two_ne_zero]
    field_simp
  rw [hx]
  generalize m₁ * 2 ^ (e₁ - e₂ - t).toNat = n at hx
  have hr : n % m₂ < m₂ := Nat.mod_lt n hm₂
  refine ⟨?_, ?_, by omega, ?_⟩
  · intro ha
    have hz : n % m₂ = 0 := by
      by_contra hz
      simp [accuracyOfFraction, hz] at ha
    rw [div_mod_scaled n hm₂, hz]
    simp
  · intro o ho
    have hz : 0 < n % m₂ := by
      rcases Nat.eq_zero_or_pos (n % m₂) with hz | hz
      · simp [accuracyOfFraction, hz] at ho
      · exact hz
    have hlow : (0 : ℝ) < (n % m₂ : Nat) / m₂ := div_pos (Nat.cast_pos.mpr hz) hp₂
    have hup : ((n % m₂ : Nat) : ℝ) / m₂ < 1 := (div_lt_one hp₂).mpr (Nat.cast_lt.mpr hr)
    have ht₀ : (0 : ℝ) < 2 ^ t := by positivity
    rw [div_mod_scaled n hm₂, scaled_add]
    constructor
    · nlinarith
    · simp only [scaled, Nat.cast_one, one_mul]
      nlinarith
  · rw [← hx, sub_right_comm, zpow_sub₀ two_ne_zero]
    exact div_le_div₀ (scaled_nonneg _ _) (two_zpow_totalExponent_le hm₁ e₁) (scaled_pos hm₂ e₂)
      (scaled_lt_two_zpow_totalExponent m₂ e₂).le

theorem Sized.div (hu : Sized s₁ a u) {hm₂ : 0 < m₂} (hB : Representable B) (hab : a ≤ B * scaled m₂ e₂) :
    Sized (s₁ / s₂) B (Float.Model.pack (UnpackedFloat.div .binary64 u (.finite s₂ m₂ e₂ hm₂))).unpack := by
  have hp := scaled_pos hm₂ e₂
  cases hu with
  | zero h =>
    simp only [UnpackedFloat.div, unpack_pack_zero]
    exact .zero hB.nonneg
  | @finite m₁ e₁ hm₁ hc he h =>
    exact sized_of_approximates (approximates_divCore hm₁ hm₂) hB ((div_le_iff₀ hp).mpr (h.trans hab))

lemma sqrt_scaled {d : Nat} (h : e = 2 * t + d) (m : Nat) : √(scaled m e) = √(m * 2 ^ d : Nat) * 2 ^ t := by
  rw [h, ← scaled_mul_two_pow, scaled, Real.sqrt_mul (Nat.cast_nonneg _), mul_comm 2 t, zpow_mul,
    show ((2 : ℝ) ^ t) ^ (2 : Int) = ((2 : ℝ) ^ t) ^ 2 from zpow_ofNat _ 2, Real.sqrt_sq (by positivity)]

lemma approximates_sqrtCore (hm : 0 < m) :
    Approximates (sqrtCore .binary64 m e).1 (sqrtCore .binary64 m e).2.1 (sqrtCore .binary64 m e).2.2
      ((totalExponent m e + 1).ediv 2) (Real.sqrt (scaled m e)) := by
  obtain ⟨t, ht⟩ : ∃ t, t = min (e.ediv 2)
    (Format.binary64.targetExponent ((totalExponent m e + 1).ediv 2)) := ⟨_, rfl⟩
  simp only [sqrtCore, ← ht, Nat.shiftLeft_eq]
  have hh : e.ediv 2 = e / 2 := rfl
  have hT : (totalExponent m e + 1).ediv 2 = (totalExponent m e + 1) / 2 := rfl
  have hd : e = 2 * t + (e - 2 * t).toNat := by omega
  generalize (e - 2 * t).toNat = d at hd ⊢
  have hx := sqrt_scaled hd m
  have hlow : (2 : ℝ) ^ ((totalExponent m e + 1).ediv 2 - 1) ≤ Real.sqrt (scaled m e) := by
    apply Real.le_sqrt_of_sq_le
    rw [← zpow_natCast, ← zpow_mul]
    refine le_trans (zpow_le_zpow_right₀ one_le_two ?_) (two_zpow_totalExponent_le hm e)
    push_cast
    omega
  rw [hx] at hlow ⊢
  generalize m * 2 ^ d = n at hlow ⊢
  have hl := Nat.sqrt_le n
  have hu := Nat.lt_succ_sqrt n
  have ht₀ : (0 : ℝ) < 2 ^ t := by positivity
  refine ⟨?_, ?_, by omega, hlow⟩
  · intro ha
    have hn : n = n.sqrt * n.sqrt := by
      by_contra hn
      rw [if_neg (by omega)] at ha
      cases ha
    rw [scaled, ← Real.sqrt_mul_self (Nat.cast_nonneg n.sqrt), ← Nat.cast_mul, ← hn]
  · intro o ho
    have hn : n.sqrt * n.sqrt < n := by
      by_contra hn
      rw [if_pos (by omega)] at ho
      cases ho
    constructor
    · refine mul_lt_mul_of_pos_right (Real.lt_sqrt_of_sq_lt ?_) ht₀
      rw [sq]
      exact_mod_cast hn
    · refine mul_lt_mul_of_pos_right ((Real.sqrt_lt' (by positivity)).mpr ?_) ht₀
      rw [sq]
      exact_mod_cast hu

theorem Sized.sqrt (hu : Sized .positive a u) (hB : Representable B) (hab : a ≤ B ^ 2) :
    Sized .positive B (Float.Model.pack (UnpackedFloat.sqrt .binary64 u)).unpack := by
  cases hu with
  | zero _ =>
    simp only [UnpackedFloat.sqrt, unpack_pack_zero]
    exact .zero hB.nonneg
  | @finite m e hm hc he h =>
    exact sized_of_approximates (approximates_sqrtCore hm) hB ((Real.sqrt_le_left hB.nonneg).mpr (h.trans hab))

end Operations

end RfBoard.Double
