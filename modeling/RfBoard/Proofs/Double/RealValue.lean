import RfBoard.Proofs.Double.Bounded

namespace RfBoard.Double

open Float.Model Float.Model.UnpackedFloat

variable {s : Sign} {m : Nat} {e : Int} {x : Float}

noncomputable def signedReal (negative : Bool) (r : ℝ) : ℝ := if negative then -r else r

noncomputable def exactReal : Number.Exact → ℝ
  | .finite s m e => signedReal s (scaled m e)
  | _ => 0

noncomputable def real (x : Float) : ℝ := exactReal (Number.exact x)

noncomputable def roundAway (r : ℝ) : ℤ := if 0 ≤ r then round r else -round (-r)

lemma roundAway_neg (r : ℝ) : roundAway (-r) = -roundAway r := by
  rcases lt_trichotomy r 0 with hr | rfl | hr
  · rw [roundAway, roundAway, if_pos (by linarith), if_neg (by linarith), neg_neg]
  · rw [neg_zero, roundAway, if_pos le_rfl, round_zero, neg_zero]
  · rw [roundAway, roundAway, if_neg (by linarith), if_pos hr.le, neg_neg]

lemma roundAway_eq {r : ℝ} {n : Int} (h : |r - n| < 1 / 2) : roundAway r = n := by
  obtain ⟨hl, hu⟩ := abs_lt.mp h
  rw [roundAway]
  split
  · rw [round_eq, Int.floor_eq_iff]
    exact ⟨by linarith, by linarith⟩
  · have hr : round (-r) = -n := by
      rw [round_eq, Int.floor_eq_iff]
      push_cast
      exact ⟨by linarith, by linarith⟩
    rw [hr, neg_neg]

lemma roundAway_mono_of_nonneg {a b : ℝ} (ha : 0 ≤ a) (hab : a ≤ b) : 0 ≤ roundAway a ∧ roundAway a ≤ roundAway b := by
  rw [roundAway, roundAway, if_pos ha, if_pos (ha.trans hab), round_eq, round_eq]
  exact ⟨Int.floor_nonneg.mpr (by linarith), Int.floor_le_floor (by linarith)⟩

lemma scaled_natCast (m k : Nat) : scaled m k = (m * 2 ^ k : Nat) := by
  rw [scaled, zpow_natCast]
  push_cast
  rfl

lemma floor_natCast_div (a b : Nat) : ⌊(a : ℝ) / b⌋ = ((a / b : Nat) : ℤ) := by
  rw [← Nat.floor_div_eq_div (K := ℝ), Int.natCast_floor_eq_floor (by positivity)]

lemma nearestScaled_eq (m : Nat) (e : Int) : (Number.nearestScaled m e : ℤ) = ⌊scaled m e + 1 / 2⌋ := by
  rw [Number.nearestScaled]
  split
  · rename_i he
    obtain ⟨k, rfl⟩ := Int.eq_ofNat_of_zero_le he
    rw [scaled_natCast, Int.toNat_natCast, Nat.shiftLeft_eq, Int.floor_natCast_add]
    norm_num
  · rename_i he
    obtain ⟨k, rfl⟩ : ∃ k : Nat, e = -k := ⟨(-e).toNat, by omega⟩
    have hk := Nat.two_pow_pos k
    have hn : (2 * m / 2 ^ k + 1) / 2 = (2 * m + 2 ^ k) / (2 ^ k * 2) := by
      rw [← Nat.div_div_eq_div_mul, Nat.add_div_right _ hk]
    have hs : scaled m (-k) + 1 / 2 = ((2 * m + 2 ^ k : Nat) : ℝ) / (2 ^ k * 2 : Nat) := by
      rw [scaled, zpow_neg, zpow_natCast]
      push_cast
      field_simp
    rw [neg_neg, Int.toNat_natCast, Nat.shiftRight_eq_div_pow, hn, hs, floor_natCast_div]

lemma floorScaled_eq (m : Nat) (e : Int) : (Number.floorScaled m e : ℤ) = ⌊scaled m e⌋ := by
  rw [Number.floorScaled]
  split
  · rename_i he
    obtain ⟨k, rfl⟩ := Int.eq_ofNat_of_zero_le he
    rw [scaled_natCast, Int.toNat_natCast, Nat.shiftLeft_eq, Int.floor_natCast]
  · rename_i he
    obtain ⟨k, rfl⟩ : ∃ k : Nat, e = -k := ⟨(-e).toNat, by omega⟩
    have hs : scaled m (-k) = (m : ℝ) / (2 ^ k : Nat) := by
      rw [scaled, zpow_neg, zpow_natCast, ← div_eq_mul_inv]
      push_cast
      rfl
    rw [neg_neg, Int.toNat_natCast, Nat.shiftRight_eq_div_pow, hs, floor_natCast_div]

theorem truncate_of_exact {s : Bool} {n : Int64} (he : Number.exact x = .finite s m e) (h : real x = n.toInt) :
    Number.truncate x = n := by
  have hn : Number.withSign s (Number.floorScaled m e) = n.toInt := by
    rw [real, he, exactReal] at h
    cases s with
    | false =>
      have hs : scaled m e = n.toInt := h
      rw [Number.withSign, floorScaled_eq, hs, Int.floor_intCast]
      rfl
    | true =>
      have hs : scaled m e = (-n.toInt : Int) := by
        rw [Int.cast_neg, ← h]
        exact (neg_neg _).symm
      rw [Number.withSign, floorScaled_eq, hs, Int.floor_intCast]
      exact neg_neg _
  have hl := n.le_toInt
  have hu := n.toInt_lt
  rw [Number.truncate, he]
  change Number.clampInt64 (Number.withSign s (Number.floorScaled m e)) = n
  rw [hn, Number.clampInt64, min_eq_left (by omega), max_eq_right (by omega), Int64.ofInt_toInt]

theorem nearest_eq_roundAway (x : Float) : Number.nearest x = roundAway (real x) := by
  have h₀ : roundAway 0 = 0 := by rw [roundAway, if_pos le_rfl, round_zero]
  rw [Number.nearest, real]
  cases Number.exact x with
  | nan => exact h₀.symm
  | infinite s => exact h₀.symm
  | finite s m e =>
    have hp : (Number.nearestScaled m e : ℤ) = roundAway (scaled m e) := by
      rw [roundAway, if_pos (scaled_nonneg m e), nearestScaled_eq, round_eq]
    cases s with
    | false => exact hp
    | true =>
      change -(Number.nearestScaled m e : ℤ) = roundAway (-scaled m e)
      rw [roundAway_neg, hp]

lemma real_neg (x : Float) : real (-x) = -real x := by
  rw [real, real, exact_neg]
  cases Number.exact x with
  | nan => exact neg_zero.symm
  | infinite s => exact neg_zero.symm
  | finite s m e =>
    cases s with
    | false => rfl
    | true => exact (neg_neg _).symm

lemma real_of_unpack {hm : 0 < m} (h : x.toModel.unpack = .finite .positive m e hm) : real x = scaled m e := by
  rw [real, exact_of_unpack h]
  rfl

lemma real_toFloat (w : UInt32) : real w.toFloat = w.toNat := by
  rcases Nat.eq_zero_or_pos w.toNat with hz | hp
  · obtain rfl : w = 0 := UInt32.toNat_inj.mp hz
    have h : Number.exact (0 : UInt32).toFloat = .finite false 0 0 := by decide +kernel
    rw [real, h]
    simp [exactReal, signedReal, scaled]
  · have hc := canonical_natCast hp (w.toNat_lt.trans (by decide))
    have hw : w.toFloat.toModel.unpack = (Float.Model.pack (UnpackedFloat.ofNat .binary64 w.toNat)).unpack := rfl
    rw [ofNat_eq_round hp, round_of_shift hp hc, model_unpack_pack _ hc (by omega)] at hw
    rw [real_of_unpack hw, scaled_shifted]

def wordInt (signed : Bool) (w : UInt32) : Int := if signed then w.toInt32.toInt else w.toNat

lemma wordInt_true (w : UInt32) : wordInt true w = if 2 ^ 31 ≤ w.toNat then (w.toNat : Int) - 2 ^ 32 else (w.toNat : Int) := by
  have h : w.toInt32.toInt = w.toBitVec.toInt := rfl
  have hw : w.toBitVec.toNat = w.toNat := rfl
  have hn := w.toNat_lt
  rw [wordInt, if_pos rfl, h, BitVec.toInt_eq_toNat_cond, hw]
  split <;> split <;> omega

lemma isFinite_ofWord (signed : Bool) (w : UInt32) : (Number.ofWord signed w).isFinite = true := by
  have hw (w : UInt32) : Within w.toFloat (2 ^ 32) :=
    within_toFloat (representable_two_pow (by decide)) (by exact_mod_cast w.toNat_lt.le)
  rw [Number.ofWord]
  split
  · exact (hw _).neg.isFinite
  · exact (hw _).isFinite

theorem real_ofWord (signed : Bool) (w : UInt32) : real (Number.ofWord signed w) = wordInt signed w := by
  rw [Number.ofWord]
  cases signed with
  | false => exact real_toFloat w
  | true =>
    rw [wordInt_true]
    have hn := w.toNat_lt
    by_cases hw : 2 ^ 31 ≤ w.toNat
    · have hd : (true && decide (w ≥ 0x80000000)) = true := decide_eq_true (UInt32.le_iff_toNat_le.mpr hw)
      have hz : (0 - w).toNat = 2 ^ 32 - w.toNat := by
        rw [UInt32.toNat_sub, UInt32.toNat_zero]
        omega
      rw [if_pos hd, if_pos hw, real_neg, real_toFloat, hz, Nat.cast_sub hn.le]
      push_cast
      ring
    · have hd : ¬ (true && decide (w ≥ 0x80000000)) = true := fun h =>
        hw (UInt32.le_iff_toNat_le.mp (of_decide_eq_true h))
      rw [if_neg hd, if_neg hw, real_toFloat, Int.cast_natCast]

end RfBoard.Double
