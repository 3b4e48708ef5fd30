import RfBoard.Proofs.Double.Nearest

namespace RfBoard.Number

open Double Float.Model.UnpackedFloat

variable {m n : Nat} {e k : Int} {d : Decimal} {x : Float}

noncomputable def Decimal.real (d : Decimal) : ℝ := d.digits * 10 ^ d.exponent

lemma scaled_quarters (n : Nat) (e : Int) : scaled n (e - 2) / 2 ^ e = n / 4 := by
  rw [scaled, zpow_sub₀ two_ne_zero]
  field_simp
  norm_num

lemma compareScaled_low (hm : 0 < m) : ∃ y : ℝ,
    y = scaled (if narrowBelow m e then 4 * m - 1 else 4 * m - 2) (e - 2) / 2 ^ e ∧
    m - 1 / 2 ≤ y ∧ (narrowBelow m e = true → y = m - 1 / 4) := by
  refine ⟨_, rfl, ?_, ?_⟩
  · rw [scaled_quarters]
    split
    · rw [Nat.cast_sub (by omega)]
      push_cast
      linarith
    · rw [Nat.cast_sub (by omega)]
      push_cast
      linarith
  · intro hn
    rw [scaled_quarters, if_pos hn, Nat.cast_sub (by omega)]
    push_cast
    ring

lemma roundsTo_of_readsBack (hm : 0 < m) (h : readsBack m e d = true) : RoundsTo d.real m e := by
  obtain ⟨y, hy, hl, hn⟩ := compareScaled_low (e := e) hm
  have hp : (0 : ℝ) < 2 ^ e := by positivity
  have hu : scaled (4 * m + 2) (e - 2) / 2 ^ e = m + 1 / 2 := by
    rw [scaled_quarters]
    push_cast
    ring
  rw [eq_div_iff hp.ne'] at hy
  rw [div_eq_iff hp.ne'] at hu
  simp only [readsBack, compareScaled_eq, ← hy, hu] at h
  change (if m % 2 = 0 then (compare d.real (y * 2 ^ e)).isGE && (compare d.real ((m + 1 / 2) * 2 ^ e)).isLE
    else compare d.real (y * 2 ^ e) == .gt && compare d.real ((m + 1 / 2) * 2 ^ e) == .lt) = true at h
  split at h
  · rename_i heven
    rw [Bool.and_eq_true, Ordering.isGE_iff_ne_lt, Ordering.isLE_iff_ne_gt] at h
    have h₁ : y ≤ d.real / 2 ^ e := (le_div_iff₀ hp).mpr (compare_ge_iff_ge.mp h.1)
    have h₂ : d.real / 2 ^ e ≤ m + 1 / 2 := (div_le_iff₀ hp).mpr (compare_le_iff_le.mp h.2)
    exact ⟨⟨hl.trans h₁, h₂, fun ho => by omega⟩, fun hb => (hn hb).ge.trans h₁⟩
  · rename_i hodd
    rw [Bool.and_eq_true, beq_iff_eq, beq_iff_eq, compare_gt_iff_gt, compare_lt_iff_lt] at h
    have h₁ : y < d.real / 2 ^ e := (lt_div_iff₀ hp).mpr h.1
    have h₂ : d.real / 2 ^ e < m + 1 / 2 := (div_lt_iff₀ hp).mpr h.2
    exact ⟨⟨hl.trans h₁.le, h₂.le, fun _ => ⟨hl.trans_lt h₁, h₂⟩⟩, fun hb => (hn hb).ge.trans h₁.le⟩

lemma readsBack_of_onGrid (h : onGrid m e k = some d) : readsBack m e d = true := by
  simp only [onGrid] at h
  split at h
  · rename_i hb ha
    split at h
    · cases h
      exact hb
    · cases h
      exact ha
  · cases h
    assumption
  · cases h
    assumption
  · cases h

lemma exactDecimal_real (m : Nat) (e : Int) : (exactDecimal m e).real = scaled m e := by
  rw [exactDecimal]
  split
  · rename_i he
    obtain ⟨n, rfl⟩ := Int.eq_ofNat_of_zero_le he
    rw [Int.toNat_natCast, Nat.shiftLeft_eq, Decimal.real, scaled, zpow_natCast]
    push_cast
    ring
  · rename_i he
    obtain ⟨n, rfl⟩ : ∃ n : Nat, e = -n := ⟨(-e).toNat, by omega⟩
    rw [neg_neg, Int.toNat_natCast, Nat.pow_eq, Decimal.real, scaled]
    simp only [zpow_neg, zpow_natCast]
    push_cast
    rw [show (10 : ℝ) = 5 * 2 by norm_num, mul_pow]
    field_simp

lemma stripZeros_real (n : Nat) (d : Decimal) : (stripZeros n d).real = d.real := by
  induction n generalizing d with
  | zero => rfl
  | succ n ih =>
    rw [stripZeros]
    split
    · rename_i hz
      have hd : (d.digits : ℝ) = (d.digits / 10 : Nat) * 10 := by exact_mod_cast (by omega : d.digits = d.digits / 10 * 10)
      rw [ih, Decimal.real, Decimal.real, hd, zpow_add₀ (by norm_num), zpow_one]
      ring
    · rfl

theorem select_roundsTo (hm : 0 < m) (e : Int) : RoundsTo (select m e).real m e := by
  have hp : (0 : ℝ) < 2 ^ e := by positivity
  rw [select, stripZeros_real]
  cases hf : (List.range 17).findSome? fun (n : Nat) => onGrid m e (magnitude m e - n - 1) with
  | none =>
    have hx : scaled m e / 2 ^ e = m := by
      rw [scaled, mul_div_cancel_right₀ _ hp.ne']
    simp only [Option.getD_none, exactDecimal_real]
    exact ⟨⟨by linarith, by linarith, fun _ => ⟨by linarith, by linarith⟩⟩, fun _ => by linarith⟩
  | some d =>
    obtain ⟨n, -, hn⟩ := List.exists_of_findSome?_eq_some hf
    exact roundsTo_of_readsBack hm (readsBack_of_onGrid hn)

lemma select_digits_pos (hm : 0 < m) (e : Int) : 0 < (select m e).digits := by
  have h := (select_roundsTo hm e).nearest.low
  have h₁ : (1 : ℝ) ≤ m := by exact_mod_cast hm
  by_contra hz
  rw [Decimal.real, Nat.eq_zero_of_not_pos hz, Nat.cast_zero, zero_mul, zero_div] at h
  linarith

lemma natOfDigits_eq (ds : List Char) : natOfDigits ds = Nat.ofDigitChars 10 ds 0 := Nat.ofDigitChars_eq_foldl.symm

lemma natOfDigits_digitChars (n : Nat) : natOfDigits (digitChars n) = n := by
  rw [natOfDigits_eq]
  exact Nat.ofDigitChars_ten_toDigits

lemma natOfDigits_append (cs ds : List Char) :
    natOfDigits (cs ++ ds) = 10 ^ ds.length * natOfDigits cs + natOfDigits ds := by
  rw [natOfDigits_eq, natOfDigits_eq, natOfDigits_eq, Nat.ofDigitChars_append, Nat.ofDigitChars_eq_ofDigitChars_zero]

lemma natOfDigits_zeros (n : Nat) : natOfDigits (List.replicate n '0') = 0 := by
  rw [natOfDigits_eq, Nat.ofDigitChars_replicate_zero, Nat.mul_zero]

def AreDigits (cs : List Char) : Prop := ∀ c ∈ cs, c.isDigit = true

lemma areDigits_digitChars (n : Nat) : AreDigits (digitChars n) := fun _ hc =>
  Nat.isDigit_of_mem_toDigits (by decide) (by decide) hc

lemma digitChars_ne_nil (n : Nat) : digitChars n ≠ [] := Nat.toDigits_ne_nil

lemma head?_digitChars (hn : 0 < n) : (digitChars n).head? ≠ some '0' := by
  induction n using Nat.strongRecOn with
  | ind n ih =>
    rw [digitChars]
    rcases Nat.lt_or_ge n 10 with hlt | hge
    · rw [Nat.toDigits_of_lt_base hlt]
      interval_cases n <;> decide
    · have hd : Nat.toDigits 10 (n / 10) ≠ [] := Nat.toDigits_ne_nil
      rw [Nat.toDigits_of_base_le (by decide) hge, List.head?_append_of_ne_nil _ hd]
      exact ih (n / 10) (by omega) (by omega)

lemma AreDigits.append {cs ds : List Char} (hc : AreDigits cs) (hd : AreDigits ds) : AreDigits (cs ++ ds) :=
  fun c h => (List.mem_append.mp h).elim (hc c) (hd c)

lemma areDigits_zeros (n : Nat) : AreDigits (List.replicate n '0') := fun c h => by
  rw [List.eq_of_mem_replicate h]
  rfl

structure PointNumeral (whole fraction : List Char) : Prop where
  whole_digits : AreDigits whole
  fraction_digits : AreDigits fraction
  whole_ne_nil : whole ≠ []
  fraction_ne_nil : fraction ≠ []
  lead : whole = ['0'] ∨ whole.head? ≠ some '0'

def Decimal.pointed (d : Decimal) : List Char :=
  if 0 ≤ d.exponent then d.positional ++ ['.', '0'] else d.positional

theorem pointed_spec (hd : 0 < d.digits) : ∃ whole fraction, d.pointed = whole ++ '.' :: fraction ∧
    PointNumeral whole fraction ∧ (natOfDigits (whole ++ fraction) : ℝ) / 10 ^ fraction.length = d.real := by
  have hne := digitChars_ne_nil d.digits
  have hds := areDigits_digitChars d.digits
  have hhead := head?_digitChars hd
  have hn := natOfDigits_digitChars d.digits
  rw [Decimal.pointed, Decimal.positional, Decimal.real]
  generalize digitChars d.digits = ds at hne hds hhead hn
  by_cases he : 0 ≤ d.exponent
  · obtain ⟨k, hk⟩ := Int.eq_ofNat_of_zero_le he
    rw [if_pos he, if_pos he, hk, Int.toNat_natCast, zpow_natCast]
    refine ⟨ds ++ List.replicate k '0', ['0'], by simp, ⟨hds.append (areDigits_zeros k), areDigits_zeros 1,
      List.append_ne_nil_of_left_ne_nil hne _, List.cons_ne_nil _ _, .inr ?_⟩, ?_⟩
    · rwa [List.head?_append_of_ne_nil _ hne]
    · have hz : natOfDigits ['0'] = 0 := natOfDigits_zeros 1
      rw [natOfDigits_append, natOfDigits_append, natOfDigits_zeros, hn, hz, List.length_replicate, List.length_singleton]
      push_cast
      ring
  · obtain ⟨p, hp⟩ : ∃ p : Nat, d.exponent = -p := ⟨(-d.exponent).toNat, by omega⟩
    have hp₀ : 0 < p := by omega
    have hreal : (d.digits : ℝ) * 10 ^ d.exponent = d.digits / 10 ^ p := by
      rw [hp, zpow_neg, zpow_natCast, div_eq_mul_inv]
    rw [if_neg he, if_neg he, hreal, hp, neg_neg, Int.toNat_natCast]
    by_cases hlt : p < ds.length
    · have hl : (ds.drop (ds.length - p)).length = p := by
        rw [List.length_drop]
        omega
      simp only [if_pos hlt]
      refine ⟨ds.take (ds.length - p), ds.drop (ds.length - p), rfl, ⟨?_, ?_, ?_, ?_, .inr ?_⟩, ?_⟩
      · exact fun c hc => hds c (List.mem_of_mem_take hc)
      · exact fun c hc => hds c (List.mem_of_mem_drop hc)
      · exact List.ne_nil_of_length_pos (by rw [List.length_take]; omega)
      · exact List.ne_nil_of_length_pos (by omega)
      · rwa [List.head?_take, if_neg (by omega)]
      · rw [List.take_append_drop, hn, hl]
    · simp only [if_neg hlt]
      have hl : (List.replicate (p - ds.length) '0' ++ ds).length = p := by
        rw [List.length_append, List.length_replicate]
        omega
      refine ⟨['0'], List.replicate (p - ds.length) '0' ++ ds, rfl, ⟨areDigits_zeros 1, (areDigits_zeros _).append hds,
        List.cons_ne_nil _ _, List.append_ne_nil_of_right_ne_nil _ hne, .inl rfl⟩, ?_⟩
      have hz : natOfDigits ['0'] = 0 := natOfDigits_zeros 1
      rw [natOfDigits_append, natOfDigits_append, natOfDigits_zeros, hz, hn, hl]
      push_cast
      ring

lemma AreDigits.not_mem {cs : List Char} {c : Char} (h : AreDigits cs) (hc : c.isDigit = false) : c ∉ cs := fun hmem =>
  Bool.false_ne_true (hc.symm.trans (h c hmem))

lemma point_mem_positional (d : Decimal) : '.' ∈ d.positional ↔ ¬ 0 ≤ d.exponent := by
  rw [Decimal.positional]
  split
  · rename_i he
    exact iff_of_false (((areDigits_digitChars _).append (areDigits_zeros _)).not_mem rfl) (not_not.mpr he)
  · rename_i he
    refine iff_of_true ?_ he
    dsimp only
    split <;> simp

lemma toList_pointText (hx : x.isFinite = true) : (pointText x).toList =
    if '.' ∈ (text x).toList then (text x).toList else (text x).toList ++ ['.', '0'] := by
  have hz : ".0".toList = ['.', '0'] := rfl
  rw [pointText, String.contains_char_eq, hx]
  by_cases hp : '.' ∈ (text x).toList
  · rw [if_pos hp, if_pos (by simp [hp])]
  · rw [if_neg hp, if_neg (by simp [hp]), String.toList_append, hz]

lemma toList_pointText_finite {s : Sign} {hm : 0 < m} (hx : x.toModel.unpack = .finite s m e hm) :
    (pointText x).toList = signed (s == .negative) (select m e).pointed := by
  have hf : x.isFinite = true := by
    rw [isFinite_eq, hx]
    rfl
  have ht : (text x).toList = signed (s == .negative) (select m e).positional := by
    obtain ⟨n, rfl⟩ := Nat.exists_eq_succ_of_ne_zero hm.ne'
    rw [text, exact_of_unpack hx, String.toList_ofList]
    rfl
  have hp : '.' ∈ signed (s == .negative) (select m e).positional ↔ ¬ 0 ≤ (select m e).exponent := by
    rw [← point_mem_positional]
    cases s <;> simp [signed]
  rw [toList_pointText hf, ht, Decimal.pointed]
  by_cases he : 0 ≤ (select m e).exponent
  · rw [if_neg (by rwa [hp, not_not]), if_pos he]
    cases s <;> rfl
  · rw [if_pos (hp.mpr he), if_neg he]

lemma toList_pointText_zero {s : Sign} (hx : x.toModel.unpack = .zero s) :
    (pointText x).toList = signed (s == .negative) ['0', '.', '0'] := by
  have hf : x.isFinite = true := by
    rw [isFinite_eq, hx]
    rfl
  have ht : (text x).toList = signed (s == .negative) ['0'] := by
    rw [text, exact, hx, String.toList_ofList]
    rfl
  rw [toList_pointText hf, ht]
  cases s <;> rfl

lemma decimal?_pointNumeral {whole fraction : List Char} (h : PointNumeral whole fraction) :
    decimal? (whole ++ '.' :: fraction) = some (ofScaled (natOfDigits (whole ++ fraction)) (-(fraction.length : Int))) := by
  have hw := h.whole_digits
  have hd := h.fraction_digits
  have hne : whole.isEmpty = false := by simpa using h.whole_ne_nil
  simp only [decimal?, List.takeWhile_append_of_pos hw, List.dropWhile_append_of_pos hw, List.takeWhile_cons,
    List.dropWhile_cons, show Char.isDigit '.' = false from rfl, Bool.false_eq_true, if_false, List.append_nil]
  rw [List.takeWhile_eq_self_iff.mpr hd, List.dropWhile_eq_nil_iff.mpr hd, hne, exponent?]
  simp

lemma unpack_ofScaled_select {s : Sign} {hm : 0 < m} {whole fraction : List Char} (hx : x.toModel.unpack = .finite s m e hm)
    (hn : PointNumeral whole fraction)
    (hv : (natOfDigits (whole ++ fraction) : ℝ) / 10 ^ fraction.length = (select m e).real) :
    (ofScaled (natOfDigits (whole ++ fraction)) (-(fraction.length : Int))).toModel.unpack = .finite .positive m e hm := by
  obtain ⟨hc, he⟩ := canonical_of_unpack hx
  have hreal : 0 < (select m e).real := mul_pos (Nat.cast_pos.mpr (select_digits_pos hm e)) (by positivity)
  have hpos : 0 < natOfDigits (whole ++ fraction) := by
    rw [← hv, div_pos_iff_of_pos_right (by positivity)] at hreal
    exact Nat.cast_pos.mp hreal
  exact unpack_ofScaled (List.length_pos_iff.mpr hn.fraction_ne_nil) hpos hc hm he (hv ▸ select_roundsTo hm e)

theorem exists_numeral (hx : x.isFinite = true) : ∃ negative whole fraction y,
    (pointText x).toList = signed negative (whole ++ '.' :: fraction) ∧ PointNumeral whole fraction ∧
      decimal? (whole ++ '.' :: fraction) = some y ∧ y.isFinite = true ∧ applySign negative y = x := by
  rw [isFinite_eq] at hx
  cases hu : x.toModel.unpack with
  | notANumber =>
    rw [hu] at hx
    cases hx
  | infinity s =>
    rw [hu] at hx
    cases hx
  | zero s =>
    refine ⟨s == .negative, ['0'], ['0'], 0, toList_pointText_zero hu,
      ⟨areDigits_zeros 1, areDigits_zeros 1, List.cons_ne_nil _ _, List.cons_ne_nil _ _, .inl rfl⟩, rfl, rfl, ?_⟩
    apply eq_of_unpack
    rw [hu]
    cases s <;> rfl
  | finite s m e hm =>
    obtain ⟨whole, fraction, hp, hn, hv⟩ := pointed_spec (select_digits_pos hm e)
    have hy := unpack_ofScaled_select hu hn hv
    refine ⟨s == .negative, whole, fraction, _, hp ▸ toList_pointText_finite hu, hn, decimal?_pointNumeral hn, ?_, ?_⟩
    · rw [isFinite_eq, hy]
      rfl
    · apply eq_of_unpack
      rw [hu]
      cases s with
      | positive => exact hy
      | negative => exact unpack_neg_finite hy

end RfBoard.Number
