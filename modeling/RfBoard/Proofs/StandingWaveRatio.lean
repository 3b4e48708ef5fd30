import RfBoard.Proofs.Double.RoundedOrder
import RfBoard.Waveform.Derive

/-!
The standing wave ratio of two powers.
-/

namespace RfBoard.Signal

open Double

variable {a b p q v : Float}

def ratio (p q : Float) : Float := (p + q) / (p - q)

lemma vswr_eq_ite (a b : Float) : vswr a b = if a == b then .error (.divisionByZero "VSWR") else
    if (ratio a.sqrt b.sqrt).isFinite then .ok (ratio a.sqrt b.sqrt) else .error (.notFinite "VSWR") := rfl

structure Root (p : Float) : Prop where
  isFinite : p.isFinite = true
  nonneg : 0 ≤ real p
  le : real p ≤ 2 ^ 512

lemma root_sqrt (ha : a.isFinite = true) (ha₀ : 0 ≤ real a) : Root a.sqrt := by
  have hle : √(real a) ≤ 2 ^ 512 := by
    rw [Real.sqrt_le_left (by positivity), ← pow_mul]
    exact (abs_lt.mp (abs_real_lt ha)).2.le
  obtain ⟨hf, h₀, h⟩ := (rounds_sqrt ha ha₀).le_two_pow (by decide) (Real.sqrt_nonneg _) hle
  exact ⟨hf, h₀, h⟩

lemma real_sqrt (ha : a.isFinite = true) (ha₀ : 0 ≤ real a) : real a.sqrt = rounded √(real a) :=
  (rounds_sqrt ha ha₀).real_eq (root_sqrt ha ha₀).isFinite

namespace Root

lemma isFinite_add (hp : Root p) (hq : Root q) : (p + q).isFinite = true :=
  ((rounds_add hp.isFinite hq.isFinite).le_two_pow (k := 513) (by decide) (add_nonneg hp.nonneg hq.nonneg)
    ((add_le_add hp.le hq.le).trans (two_pow_add_le le_rfl le_rfl))).1

lemma isFinite_sub (hp : Root p) (hq : Root q) : (p - q).isFinite = true :=
  (rounds_sub hp.isFinite hq.isFinite).isFinite_of_le (k := 512) (by decide)
    (abs_sub_le_of_nonneg_of_le hp.nonneg hp.le hq.nonneg hq.le)

lemma real_add (hp : Root p) (hq : Root q) : real (p + q) = rounded (real p + real q) :=
  (rounds_add hp.isFinite hq.isFinite).real_eq (hp.isFinite_add hq)

lemma real_sub (hp : Root p) (hq : Root q) : real (p - q) = rounded (real p - real q) :=
  (rounds_sub hp.isFinite hq.isFinite).real_eq (hp.isFinite_sub hq)

lemma real_add_nonneg (hp : Root p) (hq : Root q) : 0 ≤ real (p + q) :=
  hp.real_add hq ▸ rounded_nonneg (add_nonneg hp.nonneg hq.nonneg)

lemma sub_far (hp : Root p) (hq : Root q) (hne : real p ≠ real q) :
    0 < |real (p - q)| ∧ real p + real q ≤ 2 ^ 57 * |real (p - q)| ∧ 2 ^ (-1074 : Int) ≤ real p + real q := by
  obtain ⟨hleast, hgap⟩ := gap_of_ne hp.isFinite hq.isFinite hp.nonneg hq.nonneg hne
  have hd := le_four_mul_abs_rounded hleast
  rw [← hp.real_sub hq] at hd
  have hpos : (0 : ℝ) < 2 ^ (-1074 : Int) := by positivity
  have hle : |real p - real q| ≤ real p + real q :=
    abs_le.mpr ⟨by linarith [hp.nonneg], by linarith [hq.nonneg]⟩
  exact ⟨by linarith, by linarith, hleast.trans hle⟩

lemma rounds_ratio (hp : Root p) (hq : Root q) (hne : real p ≠ real q) :
    Rounds (ratio p q) (real (p + q) / real (p - q)) :=
  rounds_div (hp.isFinite_add hq) (hp.isFinite_sub hq) (abs_pos.mp (hp.sub_far hq hne).1)

lemma isFinite_ratio (hp : Root p) (hq : Root q) (hne : real p ≠ real q) : (ratio p q).isFinite = true := by
  obtain ⟨hpos, hgap, hleast⟩ := hp.sub_far hq hne
  refine (hp.rounds_ratio hq hne).isFinite_of_le (k := 59) (by decide) ?_
  have hs : real (p + q) ≤ 3 * (real p + real q) := by
    rw [hp.real_add hq]
    linarith [rounded_le_two_mul (add_nonneg hp.nonneg hq.nonneg)]
  rw [abs_div, div_le_iff₀ hpos, abs_of_nonneg (hp.real_add_nonneg hq)]
  linarith

lemma isFinite_ratio_iff (hp : Root p) (hq : Root q) : (ratio p q).isFinite = true ↔ real p ≠ real q := by
  refine ⟨fun h heq => ?_, hp.isFinite_ratio hq⟩
  refine real_ne_zero_of_div (hp.isFinite_add hq) (hp.isFinite_sub hq) h ?_
  rw [hp.real_sub hq, heq, sub_self, rounded_of_nonneg le_rfl, roundedSize_zero]

lemma one_le_abs_ratio (hp : Root p) (hq : Root q) (hne : real p ≠ real q) : 1 ≤ |real (ratio p q)| :=
  Double.one_le_abs_ratio hp.isFinite hq.isFinite hp.nonneg hq.nonneg (hp.isFinite_ratio hq hne)

lemma real_ratio_swap (hp : Root p) (hq : Root q) (hne : real p ≠ real q) :
    real (ratio q p) = -real (ratio p q) := by
  have hs : real (q + p) = real (p + q) := by rw [hp.real_add hq, hq.real_add hp, add_comm]
  have hd : real (q - p) = -real (p - q) := by rw [hp.real_sub hq, hq.real_sub hp, ← rounded_neg, neg_sub]
  rw [(hp.rounds_ratio hq hne).real_eq (hp.isFinite_ratio hq hne),
    (hq.rounds_ratio hp hne.symm).real_eq (hq.isFinite_ratio hp hne.symm), hs, hd, div_neg, rounded_neg]

lemma ratio_swap (hp : Root p) (hq : Root q) (hne : real p ≠ real q) : ratio q p = -ratio p q := by
  have hf := hq.isFinite_ratio hp hne.symm
  have hr := hp.real_ratio_swap hq hne
  refine eq_of_real hf (isFinite_neg (hp.isFinite_ratio hq hne)) (hr.trans (real_neg _).symm) ?_
  exact abs_pos.mp (one_pos.trans_le (hq.one_le_abs_ratio hp hne.symm))

lemma ratio_pos (hp : Root p) (hq : Root q) (hlt : real q < real p) : 0 < real (ratio p q) := by
  have hne := hlt.ne'
  have hd : 0 ≤ real (p - q) := hp.real_sub hq ▸ rounded_nonneg (sub_nonneg.mpr hlt.le)
  have h₀ : 0 ≤ real (ratio p q) := by
    rw [(hp.rounds_ratio hq hne).real_eq (hp.isFinite_ratio hq hne)]
    exact rounded_nonneg (div_nonneg (hp.real_add_nonneg hq) hd)
  have h₁ := hp.one_le_abs_ratio hq hne
  rw [abs_of_nonneg h₀] at h₁
  exact one_pos.trans_le h₁

lemma ratio_pos_iff (hp : Root p) (hq : Root q) (hne : real p ≠ real q) :
    0 < real (ratio p q) ↔ real q < real p := by
  refine ⟨fun h => ?_, hp.ratio_pos hq⟩
  by_contra hle
  have hswap := hq.ratio_pos hp (lt_of_le_of_ne (not_lt.mp hle) hne)
  rw [hp.real_ratio_swap hq hne] at hswap
  linarith

end Root

section Powers

variable (ha : a.isFinite = true) (hb : b.isFinite = true) (ha₀ : 0 ≤ real a) (hb₀ : 0 ≤ real b)

include ha hb ha₀ hb₀

lemma vswr_eq : vswr a b = if real a = real b then .error (.divisionByZero "VSWR")
    else if real a.sqrt = real b.sqrt then .error (.notFinite "VSWR") else .ok (ratio a.sqrt b.sqrt) := by
  have hroots := (root_sqrt ha ha₀).isFinite_ratio_iff (root_sqrt hb hb₀)
  simp only [vswr_eq_ite, beq_iff_real_eq ha hb, hroots, ite_not]

lemma real_sqrt_mono (h : real a ≤ real b) : real a.sqrt ≤ real b.sqrt := by
  rw [real_sqrt ha ha₀, real_sqrt hb hb₀]
  exact rounded_mono (Real.sqrt_le_sqrt h)

lemma real_sqrt_lt_iff (hne : real a.sqrt ≠ real b.sqrt) : real b.sqrt < real a.sqrt ↔ real b < real a := by
  constructor
  · intro h
    by_contra hle
    exact absurd h (not_lt.mpr (real_sqrt_mono ha hb ha₀ hb₀ (not_lt.mp hle)))
  · intro h
    exact lt_of_le_of_ne (real_sqrt_mono hb ha hb₀ ha₀ h.le) hne.symm

lemma vswr_divisionByZero_iff : vswr a b = .error (.divisionByZero "VSWR") ↔ real a = real b := by
  rw [vswr_eq ha hb ha₀ hb₀]
  split_ifs with heq <;> simp [heq]

lemma vswr_notFinite_iff :
    vswr a b = .error (.notFinite "VSWR") ↔ real a ≠ real b ∧ real a.sqrt = real b.sqrt := by
  rw [vswr_eq ha hb ha₀ hb₀]
  split_ifs with heq hroots
  · simp [heq]
  · simp [heq, hroots]
  · simp [hroots]

lemma vswr_ok_iff : vswr a b = .ok v ↔ real a.sqrt ≠ real b.sqrt ∧ v = ratio a.sqrt b.sqrt := by
  have hsame : real a = real b → real a.sqrt = real b.sqrt := fun heq => by
    rw [real_sqrt ha ha₀, real_sqrt hb hb₀, heq]
  rw [vswr_eq ha hb ha₀ hb₀]
  split_ifs with heq hroots
  · simp [hsame heq]
  · simp [hroots]
  · simp [hroots, eq_comm]

lemma vswr_bounds (h : vswr a b = .ok v) : v.isFinite = true ∧ 1 ≤ |real v| ∧ (0 < real v ↔ real b < real a) := by
  obtain ⟨hne, rfl⟩ := (vswr_ok_iff ha hb ha₀ hb₀).mp h
  have hp := root_sqrt ha ha₀
  have hq := root_sqrt hb hb₀
  refine ⟨hp.isFinite_ratio hq hne, hp.one_le_abs_ratio hq hne, ?_⟩
  rw [hp.ratio_pos_iff hq hne, real_sqrt_lt_iff ha hb ha₀ hb₀ hne]

lemma vswr_swap : vswr b a = .ok (-v) ↔ vswr a b = .ok v := by
  rw [vswr_ok_iff ha hb ha₀ hb₀, vswr_ok_iff hb ha hb₀ ha₀, ne_comm]
  refine and_congr_right fun hne => ?_
  have hf := (root_sqrt ha ha₀).isFinite_ratio (root_sqrt hb hb₀) hne
  rw [(root_sqrt ha ha₀).ratio_swap (root_sqrt hb hb₀) hne]
  refine ⟨fun h => ?_, congrArg _⟩
  have hv : v.isFinite = true := isFinite_of_neg (h ▸ isFinite_neg hf)
  rw [← neg_neg_self hv, h, neg_neg_self hf]

end Powers

/-- For finite powers that are not negative: a ratio is taken of any two whose rounded roots differ, it is finite, at
least one in size and positive just if the first power is the larger one, and with the powers exchanged it is the
opposite; equal powers divide by zero, and other powers with equal rounded roots give no finite ratio. -/
theorem vswr_of_nonneg (ha : a.isFinite = true) (hb : b.isFinite = true) (ha₀ : 0 ≤ a) (hb₀ : 0 ≤ b) :
    (vswr a b = .error (.divisionByZero "VSWR") ↔ (a == b) = true) ∧
    (vswr a b = .error (.notFinite "VSWR") ↔ (a == b) = false ∧ rounded √(real a) = rounded √(real b)) ∧
    ((∃ v, vswr a b = .ok v) ↔ rounded √(real a) ≠ rounded √(real b)) ∧
    (∀ v, vswr a b = .ok v → v.isFinite = true ∧ 1 ≤ v.abs ∧ (0 < v ↔ b < a)) ∧
    ∀ v, vswr b a = .ok (-v) ↔ vswr a b = .ok v := by
  rw [le_iff_real_le isFinite_zero ha, real_zero] at ha₀
  rw [le_iff_real_le isFinite_zero hb, real_zero] at hb₀
  rw [← real_sqrt ha ha₀, ← real_sqrt hb hb₀, ← Bool.not_eq_true, beq_iff_real_eq ha hb]
  refine ⟨vswr_divisionByZero_iff ha hb ha₀ hb₀, vswr_notFinite_iff ha hb ha₀ hb₀, ?_, fun v h => ?_,
    fun v => vswr_swap ha hb ha₀ hb₀⟩
  · simp only [vswr_ok_iff ha hb ha₀ hb₀, exists_and_left, exists_eq, and_true]
  · obtain ⟨hf, hone, hsign⟩ := vswr_bounds ha hb ha₀ hb₀ h
    obtain ⟨haf, habs⟩ := abs_finite hf
    rw [le_iff_real_le isFinite_one haf, real_one, habs, lt_iff_real_lt isFinite_zero hf, real_zero, lt_iff_real_lt hb ha]
    exact ⟨hf, hone, hsign⟩

def aboveOne : Float := Float.ofBits 0x3FF0000000000001

lemma vswr_four_one : vswr 4 1 = .ok 3 := by
  have hne : ((4 : Float) == 1) = false := by decide +kernel
  have hratio : ratio (Float.sqrt 4) (Float.sqrt 1) = 3 := congrArg Float.ofModel (by decide +kernel)
  have hf : (3 : Float).isFinite = true := by decide +kernel
  rw [vswr_eq_ite, hne, hratio, if_neg Bool.false_ne_true, if_pos hf]

lemma vswr_aboveOne : vswr aboveOne 1 = .error (.notFinite "VSWR") := by
  have hne : (aboveOne == 1) = false := by decide +kernel
  have hf : (ratio aboveOne.sqrt (Float.sqrt 1)).isFinite = false := by decide +kernel
  rw [vswr_eq_ite, hne, hf, if_neg Bool.false_ne_true, if_neg Bool.false_ne_true]

theorem vswr_of_nonneg_neighbours :
    ((4 : Float).isFinite = true ∧ (1 : Float).isFinite = true ∧ (0 : Float) ≤ 4 ∧ (0 : Float) ≤ 1) ∧
    (aboveOne.isFinite = true ∧ 0 ≤ aboveOne) ∧
    vswr 4 1 = .ok 3 ∧ vswr 1 4 = .ok (-3) ∧ 1 ≤ (3 : Float).abs ∧
    vswr aboveOne 1 = .error (.notFinite "VSWR") ∧ rounded √(real aboveOne) = rounded √(real 1) := by
  have h₁ : (4 : Float).isFinite = true ∧ (1 : Float).isFinite = true ∧ (0 : Float) ≤ 4 ∧ (0 : Float) ≤ 1 := by
    decide +kernel
  have h₂ : aboveOne.isFinite = true ∧ 0 ≤ aboveOne := by decide +kernel
  obtain ⟨-, -, -, hbounds, hswap⟩ := vswr_of_nonneg h₁.1 h₁.2.1 h₁.2.2.1 h₁.2.2.2
  obtain ⟨-, hmerged, -⟩ := vswr_of_nonneg h₂.1 h₁.2.1 h₂.2 h₁.2.2.2
  exact ⟨h₁, h₂, vswr_four_one, (hswap 3).mpr vswr_four_one, (hbounds 3 vswr_four_one).2.1, vswr_aboveOne,
    (hmerged.mp vswr_aboveOne).2⟩

end RfBoard.Signal
