import RfBoard.Proofs.ConversionRange
import RfBoard.Proofs.Double.RoundedOrder

/-!
A word converted by a scale and back is the same word: six roundings move it by less than a half.
-/

namespace RfBoard

namespace Double

open Float.Model

variable {c r t : ℝ} {k m : Nat} {n e : Int} {s : Bool} {x : Float}

structure Moderate (c : ℝ) : Prop where
  low : 2 ^ (-900 : Int) ≤ |c|
  high : |c| ≤ 2 ^ (900 : Int)

lemma moderate_one : Moderate 1 where
  low := by
    rw [abs_one]
    exact zpow_le_one_of_nonpos₀ one_le_two (by decide)
  high := by
    rw [abs_one]
    exact one_le_zpow₀ one_le_two (by decide)

lemma Moderate.pos (h : Moderate c) : 0 < |c| := lt_of_lt_of_le (by positivity) h.low

lemma Moderate.abs_le (h : Moderate c) (hr : |r * c| ≤ 2 ^ 35) : |r| ≤ 2 ^ 935 := by
  refine le_of_mul_le_mul_right ?_ h.pos
  calc |r| * |c| = |r * c| := (abs_mul r c).symm
    _ ≤ 2 ^ 35 := hr
    _ = 2 ^ 935 * 2 ^ (-900 : Int) := by
      rw [← zpow_natCast, ← zpow_natCast, ← zpow_add₀ two_ne_zero]
      rfl
    _ ≤ 2 ^ 935 * |c| := mul_le_mul_of_nonneg_left h.low (by positivity)

/-- The double is `t` in units of `1 / c`, up to the error of `k` roundings. -/
structure Near (k : Nat) (c t : ℝ) (x : Float) : Prop where
  isFinite : x.isFinite = true
  close : |real x * c - t| ≤ k / 2 ^ 17

lemma abs_rounded_mul_sub_le (hc : Moderate c) (hr : |r * c| ≤ 2 ^ 35) : |rounded r * c - r * c| ≤ 1 / 2 ^ 17 := by
  have herr := mul_le_mul_of_nonneg_right (abs_rounded_sub_le r) (abs_nonneg c)
  have hlow : (2 : ℝ) ^ (-1075 : Int) * |c| ≤ 2 ^ (-1075 : Int) * 2 ^ (900 : Int) :=
    mul_le_mul_of_nonneg_left hc.high (by positivity)
  calc |rounded r * c - r * c| = |rounded r - r| * |c| := by rw [← sub_mul, abs_mul]
    _ ≤ 2 ^ (-53 : Int) * |r * c| + 2 ^ (-1075 : Int) * |c| := by
      rw [abs_mul]
      linarith
    _ ≤ 2 ^ (-53 : Int) * 2 ^ 35 + 2 ^ (-1075 : Int) * 2 ^ (900 : Int) :=
      add_le_add (mul_le_mul_of_nonneg_left hr (by positivity)) hlow
    _ ≤ 2 ^ (-18 : Int) + 2 ^ (-18 : Int) := by
      rw [← zpow_natCast, ← zpow_add₀ two_ne_zero, ← zpow_add₀ two_ne_zero]
      exact add_le_add le_rfl (zpow_le_zpow_right₀ one_le_two (by decide))
    _ = 1 / 2 ^ 17 := by norm_num

lemma Rounds.near (h : Rounds x r) (hc : Moderate c) (hk : k ≤ 5) (ht : |t| ≤ 2 ^ 34)
    (hr : |r * c - t| ≤ k / 2 ^ 17) : Near (k + 1) c t x := by
  have hk' : (k : ℝ) ≤ 5 := by exact_mod_cast hk
  have hrc : |r * c| ≤ 2 ^ 35 := by linarith [abs_sub_abs_le_abs_sub (r * c) t]
  have herr := abs_rounded_mul_sub_le hc hrc
  have hf := h.isFinite_of_le (by decide) (hc.abs_le hrc)
  refine ⟨hf, ?_⟩
  rw [h.real_eq hf]
  calc |rounded r * c - t| ≤ |rounded r * c - r * c| + |r * c - t| := abs_sub_le _ _ _
    _ ≤ 1 / 2 ^ 17 + k / 2 ^ 17 := add_le_add herr hr
    _ = (k + 1 : Nat) / 2 ^ 17 := by
      push_cast
      ring

structure InBinade (T : Int) (r : ℝ) : Prop where
  le : 2 ^ (T - 1) ≤ |r|
  lt : |r| < 2 ^ T

lemma inBinade_one : InBinade 1 1 := ⟨by simp, by simp⟩

lemma InBinade.div {A B : Int} {a b : ℝ} (ha : InBinade A a) (hb : InBinade B b) :
    2 ^ (A - B - 1) ≤ |a / b| ∧ |a / b| ≤ 2 ^ (A - B + 1) := by
  have hpos : 0 < |b| := lt_of_lt_of_le (by positivity) hb.le
  rw [abs_div, le_div_iff₀ hpos, div_le_iff₀ hpos]
  constructor
  · refine (mul_le_mul_of_nonneg_left hb.lt.le (by positivity)).trans ?_
    rw [← zpow_add₀ two_ne_zero, show A - B - 1 + B = A - 1 by ring]
    exact ha.le
  · refine le_trans ?_ (mul_le_mul_of_nonneg_left hb.le (by positivity))
    rw [← zpow_add₀ two_ne_zero, show A - B + 1 + (B - 1) = A by ring]
    exact ha.lt.le

lemma InBinade.moderate {A B : Int} {a b : ℝ} (ha : InBinade A a) (hb : InBinade B b) (hl : -800 ≤ A - B)
    (hu : A - B ≤ 800) : Moderate (a / b) :=
  ⟨(zpow_le_zpow_right₀ one_le_two (by omega)).trans (ha.div hb).1,
    (ha.div hb).2.trans (zpow_le_zpow_right₀ one_le_two (by omega))⟩

lemma abs_real_of_exact (h : Number.exact x = .finite s m e) : |real x| = scaled m e := by
  rw [real, h, exactReal, abs_signedReal s (scaled_nonneg m e)]

lemma abs_real_lt_of_exact (h : Number.exact x = .finite s m e) : |real x| < 2 ^ totalExponent m e :=
  abs_real_of_exact h ▸ scaled_lt_two_zpow_totalExponent m e

lemma inBinade_of_exact (h : Number.exact x = .finite s m e) (hm : m ≠ 0) : InBinade (totalExponent m e) (real x) :=
  ⟨abs_real_of_exact h ▸ two_zpow_totalExponent_le (Nat.pos_of_ne_zero hm) e, abs_real_lt_of_exact h⟩

end Double

namespace Conversion

open Double Float.Model

variable {quantity : String} {numerator denominator offset x : Float} {signed : Bool} {raw : UInt32}

structure Suited (numerator denominator offset : Float) : Prop where
  numerator_finite : numerator.isFinite = true
  denominator_finite : denominator.isFinite = true
  offset_finite : offset.isFinite = true
  numerator_moderate : Moderate (1 / real numerator)
  ratio_moderate : Moderate (real denominator / real numerator)
  offset_le : |real offset * (real denominator / real numerator)| ≤ 2 ^ 33

lemma isWord_wordInt (signed : Bool) (raw : UInt32) : IsWord signed (wordInt signed raw) := by
  have hn := raw.toNat_lt
  cases signed with
  | false =>
    simp only [IsWord, wordInt, Bool.false_eq_true, if_false]
    omega
  | true =>
    simp only [IsWord, if_true, wordInt_true]
    split <;> omega

lemma abs_wordInt_le (signed : Bool) (raw : UInt32) : |(wordInt signed raw : ℝ)| ≤ 2 ^ 32 := by
  have hw := isWord_wordInt signed raw
  have h : |wordInt signed raw| ≤ 2 ^ 32 := by
    rw [IsWord] at hw
    rw [abs_le]
    split at hw <;> omega
  exact_mod_cast h

lemma toWord_of_near {k : Nat} (hk : k ≤ 6) (h : Near k 1 (wordInt signed raw) x) :
    toWord quantity signed x = .ok raw := by
  have hk' : (k : ℝ) ≤ 6 := by exact_mod_cast hk
  have hr : roundAway (real x) = wordInt signed raw := by
    refine roundAway_eq ?_
    have hc := h.close
    rw [mul_one] at hc
    linarith
  have hw := isWord_wordInt signed raw
  rw [toWord_inside quantity h.isFinite (by rwa [hr]), hr]
  exact congrArg _ (wordInt_injective (wordInt_ofInt hw))

lemma near_ofWord (signed : Bool) (raw : UInt32) : Near 0 1 (wordInt signed raw) (Number.ofWord signed raw) where
  isFinite := isFinite_ofWord signed raw
  close := by
    rw [real_ofWord, mul_one, sub_self, abs_zero]
    positivity

section Scales

variable (h : Suited numerator denominator offset)
include h

lemma Suited.numerator_ne : real numerator ≠ 0 := by
  intro h₀
  simpa [h₀] using h.numerator_moderate.pos

lemma Suited.denominator_ne : real denominator ≠ 0 := by
  intro h₀
  simpa [h₀] using h.ratio_moderate.pos

lemma Suited.near_value (signed : Bool) (raw : UInt32) :
    Near 3 (real denominator / real numerator)
      (wordInt signed raw + real offset * (real denominator / real numerator))
      (Number.ofWord signed raw * numerator / denominator + offset) := by
  have hn := h.numerator_ne
  have hd := h.denominator_ne
  have hw := abs_wordInt_le signed raw
  have h₀ := near_ofWord signed raw
  -- each step in the units that the value has by then: the numerator first, then their ratio
  have hmul := (rounds_mul h₀.isFinite h.numerator_finite).near h.numerator_moderate (k := 0) (by decide)
    (hw.trans (by norm_num)) (by
      rw [mul_assoc, mul_one_div_cancel hn]
      exact h₀.close)
  have hdiv := (rounds_div hmul.isFinite h.denominator_finite hd).near h.ratio_moderate (k := 1) (by decide)
    (hw.trans (by norm_num)) (by
      rw [div_mul_div_cancel₀ hd, div_eq_mul_one_div]
      exact hmul.close)
  refine (rounds_add hdiv.isFinite h.offset_finite).near h.ratio_moderate (by decide) ?_ ?_
  · refine (abs_add_le _ _).trans ?_
    linarith [h.offset_le]
  · rw [add_mul, add_sub_add_right_eq_sub]
    exact hdiv.close

lemma Suited.near_quotient {w : ℝ} (hw : |w| ≤ 2 ^ 32)
    (hx : Near 3 (real denominator / real numerator) (w + real offset * (real denominator / real numerator)) x) :
    Near 6 1 w ((x - offset) * denominator / numerator) := by
  have hn := h.numerator_ne
  have hw' : |w| ≤ 2 ^ 34 := hw.trans (by norm_num)
  have hsub := (rounds_sub hx.isFinite h.offset_finite).near h.ratio_moderate (k := 3) (by decide) hw' (by
    rw [sub_mul, sub_sub, add_comm (_ * _) w]
    exact hx.close)
  have hmul := (rounds_mul hsub.isFinite h.denominator_finite).near h.numerator_moderate (k := 4) (by decide) hw' (by
    rw [mul_assoc, mul_one_div]
    exact hsub.close)
  refine (rounds_div hmul.isFinite h.numerator_finite hn).near moderate_one (by decide) hw' ?_
  rw [mul_one, div_eq_mul_one_div]
  exact hmul.close

end Scales

def RoundTrips (c : Conversion) : Prop :=
  ∀ quantity cal raw, ∃ v, c.forward quantity cal raw = .ok v ∧ c.inverse quantity cal v = .ok raw

theorem Suited.roundTrips (h : Suited numerator denominator offset) (signed : Bool) :
    (scale numerator denominator offset signed).RoundTrips := by
  intro quantity cal raw
  have hv := h.near_value signed raw
  refine ⟨_, (forward_eq_ok_iff quantity cal _).mpr ⟨rfl, hv.isFinite⟩, ?_⟩
  rw [inverse_eq_word quantity cal _ hv.isFinite]
  exact toWord_of_near (Nat.le_refl 6) (h.near_quotient (abs_wordInt_le signed raw) hv)

theorem roundTrips_identity : identity.RoundTrips := by
  intro quantity cal raw
  have hv := near_ofWord true raw
  refine ⟨_, (forward_eq_ok_iff quantity cal _).mpr ⟨rfl, hv.isFinite⟩, ?_⟩
  rw [inverse_eq_word quantity cal _ hv.isFinite]
  exact toWord_of_near (Nat.zero_le 6) hv

/-- A check of the constants of a scale: none is beyond `2 ^ 400` or below its inverse, and the offset is no more than
`2 ^ 32` words. -/
def isSuited : Conversion → Bool
  | identity => true
  | scale numerator denominator offset _ =>
    match Number.exact numerator, Number.exact denominator, Number.exact offset with
    | .finite _ m₁ e₁, .finite _ m₂ e₂, .finite _ m₃ e₃ =>
      let N := totalExponent m₁ e₁
      let D := totalExponent m₂ e₂
      m₁ ≠ 0 ∧ m₂ ≠ 0 ∧ |N| ≤ 400 ∧ |D| ≤ 400 ∧ totalExponent m₃ e₃ ≤ N - D + 32
    | _, _, _ => false
  | _ => false

lemma suited_of_isSuited (h : (scale numerator denominator offset signed).isSuited = true) :
    Suited numerator denominator offset := by
  simp only [isSuited] at h
  split at h
  · rename_i s₁ m₁ e₁ s₂ m₂ e₂ s₃ m₃ e₃ hn hd ho
    obtain ⟨hm₁, hm₂, hN, hD, hle⟩ := of_decide_eq_true h
    rw [abs_le] at hN hD
    have hn' := inBinade_of_exact hn hm₁
    have hd' := inBinade_of_exact hd hm₂
    have hfinite {x : Float} {s m e} (h : Number.exact x = .finite s m e) : x.isFinite = true :=
      Number.isFinite_eq_true.mpr ⟨s, m, e, h⟩
    refine ⟨hfinite hn, hfinite hd, hfinite ho, inBinade_one.moderate hn' (by omega) (by omega),
      hd'.moderate hn' (by omega) (by omega), ?_⟩
    rw [abs_mul]
    calc |real offset| * |real denominator / real numerator| ≤ 2 ^ totalExponent m₃ e₃ * _ :=
          mul_le_mul (abs_real_lt_of_exact ho).le (hd'.div hn').2 (abs_nonneg _) (by positivity)
      _ ≤ 2 ^ ((33 : Nat) : Int) := by
        rw [← zpow_add₀ two_ne_zero]
        exact zpow_le_zpow_right₀ one_le_two (by push_cast; omega)
      _ = 2 ^ 33 := zpow_natCast 2 33
  · cases h

theorem roundTrips_of_isSuited {c : Conversion} (h : c.isSuited = true) : c.RoundTrips := by
  cases c with
  | identity => exact roundTrips_identity
  | scale numerator denominator offset signed => exact (suited_of_isSuited h).roundTrips signed
  | reflection pair => cases h
  | vswrHold => cases h

def isScale : Conversion → Bool
  | scale _ _ _ _ => true
  | _ => false

end Conversion

namespace ConversionTable

open Conversion

lemma isSuited_standard : ∀ e ∈ standardEntries, e.2.isScale = true → e.2.isSuited = true := by decide +kernel

/-- Every parameter of the standard table that is scaled, and every one that it leaves as it is, has a value for
each word of its register, and that word for the value. -/
theorem inverse_forward_standard (cal : Calibration) (name : String) (raw : UInt32)
    (h : (∃ c, standardEntries.find name = some c ∧ c.isScale = true) ∨ standardEntries.find name = none) :
    ∃ v, (standard cal).forward name raw = .ok v ∧ (standard cal).inverse name v = .ok raw := by
  have hc : ((standard cal).find name).RoundTrips := by
    rcases h with ⟨c, hf, hc⟩ | hf
    · obtain ⟨l₁, l₂, hl, -⟩ := List.lookup_eq_some_iff.mp hf
      have hm : (name, c) ∈ standardEntries := by
        rw [hl]
        exact List.mem_append_right l₁ List.mem_cons_self
      rw [find, standard, hf]
      exact roundTrips_of_isSuited (isSuited_standard _ hm hc)
    · rw [find, standard, hf]
      exact roundTrips_identity
  exact hc name cal raw

theorem inverse_forward_standard_extreme :
    ((∃ c, standardEntries.find "sp_freq" = some c ∧ c.isScale = true) ∧
      ∃ v, (standard .standard).forward "sp_freq" 0xFFFFFFFF = .ok v ∧
        (standard .standard).inverse "sp_freq" v = .ok 0xFFFFFFFF) ∧
    (standardEntries.find "lock_en" = none ∧
      ∃ v, (standard .standard).forward "lock_en" 0x80000000 = .ok v ∧
        (standard .standard).inverse "lock_en" v = .ok 0x80000000) :=
  have hf : ∃ c, standardEntries.find "sp_freq" = some c ∧ c.isScale = true := ⟨.setFrequency, rfl, rfl⟩
  ⟨⟨hf, inverse_forward_standard .standard "sp_freq" 0xFFFFFFFF (.inl hf)⟩,
    ⟨rfl, inverse_forward_standard .standard "lock_en" 0x80000000 (.inr rfl)⟩⟩

example : (standardEntries.filter (·.2.isScale)).map (·.1) = ["sp_freq", "Qset", "powup_time", "powdown_time",
    "powup_hold_time", "powdown_hold_time", "PRT_Start_count", "PRT_End_count", "sp_phase", "beam_phase", "ad_adj_imag",
    "da_adj_imag", "da_adj_imag2", "sp_phase_state", "ad_adj_real", "da_adj_real", "da_adj_real2", "Overdrive",
    "freq_cal_state"] := rfl

end ConversionTable

end RfBoard
