import RfBoard.Proofs.Double.Rounding

namespace RfBoard.Double

open Float.Model Float.Model.UnpackedFloat

variable {n : Nat}

lemma canonical_natCast (hn : 0 < n) (hu : n < 2 ^ 53) :
    Canonical (n * 2 ^ (52 - n.log2)) (0 - (52 - n.log2 : Nat)) := by
  have hz : n ≠ 0 := by omega
  have hl : n.log2 < 53 := (Nat.log2_lt hz).mpr hu
  have h₁ : 2 ^ n.log2 ≤ n := Nat.log2_self_le hz
  have h₂ : n < 2 ^ (n.log2 + 1) := Nat.lt_log2_self
  have hk := Nat.two_pow_pos (52 - n.log2)
  refine ⟨?_, by omega, .inl ?_⟩
  · calc n * 2 ^ (52 - n.log2) < 2 ^ (n.log2 + 1) * 2 ^ (52 - n.log2) := Nat.mul_lt_mul_of_pos_right h₂ hk
      _ = 2 ^ 53 := by
        rw [← Nat.pow_add]
        congr 1
        omega
  · calc 2 ^ 52 = 2 ^ n.log2 * 2 ^ (52 - n.log2) := by
          rw [← Nat.pow_add]
          congr 1
          omega
      _ ≤ n * 2 ^ (52 - n.log2) := Nat.mul_le_mul_right _ h₁

lemma ofNat_eq_round (hn : 0 < n) : UnpackedFloat.ofNat .binary64 n = UnpackedFloat.round .binary64 .positive n 0 := by
  have hc : compare (n : Int) 0 = .gt := Int.compare_eq_gt.mpr (by omega)
  simp only [UnpackedFloat.ofNat, UnpackedFloat.ofInt, UnpackedFloat.normalize, hc, Int.toNat_natCast]

lemma unpack_toFloat {x : UInt64} (hn : 0 < x.toNat) (hu : x.toNat < 2 ^ 53) :
    x.toFloat.toModel.unpack = .finite .positive (x.toNat * 2 ^ (52 - x.toNat.log2)) (0 - (52 - x.toNat.log2 : Nat))
      (Nat.mul_pos hn (Nat.two_pow_pos _)) := by
  have hc := canonical_natCast hn hu
  have hr : UnpackedFloat.ofUInt64 .binary64 x = _ := (ofNat_eq_round hn).trans (round_of_shift hn hc)
  have hx : x.toFloat.toModel.unpack = (Float.Model.pack (UnpackedFloat.ofUInt64 .binary64 x)).unpack := rfl
  rw [hx, hr]
  exact model_unpack_pack _ hc (by omega)

lemma unpack_one : (Float.ofBits 0x3FF0000000000000).toModel.unpack = .finite .positive (2 ^ 52) (-52) (by decide) := rfl

lemma unpack_mul (x y : Float) : (x * y).toModel.unpack =
    (Float.Model.pack (UnpackedFloat.mul .binary64 x.toModel.unpack y.toModel.unpack)).unpack := rfl

lemma ofNat_short (hu : n < 2 ^ 53) : Float.ofNat n = n.toUInt64.toFloat * Float.ofBits 0x3FF0000000000000 :=
  dif_pos ⟨hu, by decide⟩

lemma ofNat_long (hl : 2 ^ 53 ≤ n) : Float.ofNat n = .ofModel (Float.Model.ofScientific n 0) :=
  dif_neg fun h => by omega

lemma unpack_ofNat_short (hn : 0 < n) (hu : n < 2 ^ 53) : (Float.ofNat n).toModel.unpack =
    .finite .positive (n * 2 ^ (52 - n.log2)) (0 - (52 - n.log2 : Nat)) (Nat.mul_pos hn (Nat.two_pow_pos _)) := by
  have ht : n.toUInt64.toNat = n := by
    change n % 2 ^ 64 = n
    omega
  have hx := unpack_toFloat (x := n.toUInt64) (by omega) (by omega)
  simp only [ht] at hx
  have hc := canonical_natCast hn hu
  have hp := Nat.mul_pos hn (Nat.two_pow_pos (52 - n.log2))
  have hm := roundWithAccuracy_multiple (s := .positive * .positive) hp hc 52
  have he : (0 - (52 - n.log2 : Nat) : Int) + -52 = 0 - (52 - n.log2 : Nat) - (52 : Nat) := by omega
  rw [ofNat_short hu, unpack_mul, hx, unpack_one, UnpackedFloat.mul, he, hm]
  exact model_unpack_pack hp hc (by omega)

lemma unpack_ofNat_long (hl : 2 ^ 53 ≤ n) (hu : n < 2 ^ 64) :
    ∃ m e hm, (Float.ofNat n).toModel.unpack = .finite .positive m e hm ∧ 2 ^ 52 ≤ m ∧ 1 ≤ e := by
  have hz : n ≠ 0 := by omega
  have h₁ : 53 ≤ n.log2 := (Nat.le_log2 hz).mpr hl
  have h₂ : n.log2 < 64 := (Nat.log2_lt hz).mpr hu
  have hlog : (n <<< 53).log2 = n.log2 + 53 := by rw [Nat.shiftLeft_eq, log2_mul_two_pow (by omega)]
  obtain ⟨m, e, hm, hr, hc, hf, he, he'⟩ :=
    roundWithAccuracy_long (s := .positive) (m := n <<< 53) (e := -53) (by omega) (by omega)
  have hs : UnpackedFloat.ofScientific .binary64 n 0 = .finite .positive m e hm := by
    have hb : Format.binary64.mantissaBits = 53 := rfl
    have ht : (10 : Nat) ^ (0 : Int).toNat = 1 := rfl
    have hp : (0 : Int) < 2 ^ Format.binary64.exponentBits := by decide
    rw [UnpackedFloat.ofScientific, dif_neg hz, if_neg (by decide), if_neg (by omega), if_pos (Int.le_refl 0),
      UnpackedFloat.mul]
    simp only [hb, ht, Nat.mul_one, Int.add_zero]
    exact hr
  refine ⟨m, e, hm, ?_, hf, by omega⟩
  rw [ofNat_long hl]
  change (Float.Model.pack (UnpackedFloat.ofScientific .binary64 n 0)).unpack = _
  rw [hs]
  exact model_unpack_pack hm hc (by omega)

lemma nearestScaled_mul_two_pow (n k : Nat) : Number.nearestScaled (n * 2 ^ k) (0 - k) = n := by
  rcases Nat.eq_zero_or_pos k with rfl | hk
  · simp [Number.nearestScaled]
  · have hd : (2 * (n * 2 ^ k)) >>> k = 2 * n := by
      rw [Nat.shiftRight_eq_div_pow, ← Nat.mul_assoc, Nat.mul_div_cancel _ (Nat.two_pow_pos k)]
    have ht : (-(0 - (k : Int))).toNat = k := by omega
    rw [Number.nearestScaled, if_neg (by omega), ht, hd]
    omega

theorem nearest_ofNat_short (hu : n < 2 ^ 53) : Number.nearest (Float.ofNat n) = n := by
  rcases Nat.eq_zero_or_pos n with rfl | hn
  · rfl
  · rw [Number.nearest, exact_of_unpack (unpack_ofNat_short hn hu)]
    exact congrArg _ (nearestScaled_mul_two_pow n _)

theorem le_nearest_ofNat_long (hl : 2 ^ 53 ≤ n) (hu : n < 2 ^ 64) : 2 ^ 53 ≤ Number.nearest (Float.ofNat n) := by
  obtain ⟨m, e, hm, hx, hf, he⟩ := unpack_ofNat_long hl hu
  obtain ⟨k, rfl⟩ := Int.eq_ofNat_of_zero_le (show 0 ≤ e by omega)
  have hk : 2 ^ 1 ≤ 2 ^ k := Nat.pow_le_pow_right (by decide) (by omega)
  have hp : 2 ^ 52 * 2 ^ 1 ≤ m * 2 ^ k := Nat.mul_le_mul hf hk
  have hs : Number.nearestScaled m k = m * 2 ^ k := (if_pos (Int.natCast_nonneg k)).trans (Nat.shiftLeft_eq m k)
  rw [Number.nearest, exact_of_unpack hx]
  change (2 : Int) ^ 53 ≤ (Number.nearestScaled m k : Int)
  omega

lemma nearest_ofInt_neg {v : Int} (hv : v < 0) : Number.nearest (Float.ofInt v) = -Number.nearest (Float.ofNat v.natAbs) := by
  obtain ⟨n, rfl⟩ := Int.eq_negSucc_of_lt_zero hv
  exact nearest_neg _

lemma ofInt_natCast (n : Nat) : Float.ofInt n = Float.ofNat n := rfl

theorem nearest_ofInt (v : Int) (hv : v.natAbs < 2 ^ 64) :
    v.natAbs < 2 ^ 53 ∧ Number.nearest (Float.ofInt v) = v ∨
      2 ^ 53 ≤ v ∧ 2 ^ 53 ≤ Number.nearest (Float.ofInt v) ∨
      v ≤ -2 ^ 53 ∧ Number.nearest (Float.ofInt v) ≤ -2 ^ 53 := by
  have hv' : 0 ≤ v → (v.natAbs : Int) = v := fun h => by omega
  have hp : 0 ≤ v → Number.nearest (Float.ofInt v) = Number.nearest (Float.ofNat v.natAbs) := fun h => by
    rw [← ofInt_natCast, hv' h]
  rcases Nat.lt_or_ge v.natAbs (2 ^ 53) with hs | hl
  · have hn := nearest_ofNat_short hs
    rcases Int.lt_or_le v 0 with hn₀ | hp₀
    · exact .inl ⟨hs, by rw [nearest_ofInt_neg hn₀]; omega⟩
    · exact .inl ⟨hs, by rw [hp hp₀]; omega⟩
  · have hn := le_nearest_ofNat_long hl hv
    rcases Int.lt_or_le v 0 with hn₀ | hp₀
    · exact .inr (.inr ⟨by omega, by rw [nearest_ofInt_neg hn₀]; omega⟩)
    · exact .inr (.inl ⟨by omega, by rw [hp hp₀]; omega⟩)

end RfBoard.Double
