import RfBoard.Proofs.Double.Integer
import RfBoard.Proofs.Double.Magnitude

namespace RfBoard.Double

open Float.Model Float.Model.UnpackedFloat

variable {s : Sign} {m n k : Nat} {e : Int} {x y : Float} {a b B : ℝ}

def Within (x : Float) (b : ℝ) : Prop := ∃ s, Sized s b x.toModel.unpack

def Beyond (x : Float) (b : ℝ) : Prop := ∃ s m e hm, x.toModel.unpack = .finite s m e hm ∧ b ≤ scaled m e

lemma representable_scaled (h : Canonical m e) (he : e ≤ 971) : Representable (scaled m e) := ⟨m, e, h, he, rfl⟩

lemma representable_two_pow (hk : k ≤ 1023) : Representable (2 ^ k) := by
  have hs : scaled (2 ^ 52) (k - 52) = 2 ^ k := by
    rw [scaled, ← zpow_natCast, Nat.cast_pow, Nat.cast_two, ← zpow_natCast, ← zpow_add₀ two_ne_zero]
    congr 1
    omega
  exact hs ▸ representable_scaled ⟨by decide, by omega, .inl (by decide)⟩ (by omega)

lemma two_pow_add_le {j : Nat} (hj : j ≤ n) (hk : k ≤ n) : (2 : ℝ) ^ j + 2 ^ k ≤ 2 ^ (n + 1) := by
  rw [pow_succ, mul_two]
  exact add_le_add (pow_le_pow_right₀ one_le_two hj) (pow_le_pow_right₀ one_le_two hk)

noncomputable def largest (e : Int) : ℝ := scaled (2 ^ 53 - 1) e

lemma representable_largest (h₁ : -1074 ≤ e) (h₂ : e ≤ 971) : Representable (largest e) :=
  representable_scaled ⟨by decide, h₁, .inl (by decide)⟩ h₂

lemma largest_lt (e : Int) : largest e < 2 ^ (53 + e) := scaled_lt_two_zpow (by decide) e

lemma two_pow_mul_largest (k : Nat) (e : Int) : 2 ^ k * largest e = largest (k + e) := by
  rw [largest, largest, scaled, scaled, zpow_add₀ two_ne_zero, zpow_natCast]
  ring

lemma Canonical.le_largest {E : Int} (h : Canonical m e) (he : e ≤ E) : scaled m e ≤ largest E := by
  have hm : m ≤ 2 ^ 53 - 1 := Nat.le_sub_one_of_lt h.lt
  rw [largest, scaled_eq_of_le he]
  exact scaled_le_scaled (hm.trans (Nat.le_mul_of_pos_right _ (Nat.two_pow_pos _))) e

lemma unpack_div (x y : Float) : (x / y).toModel.unpack =
    (Float.Model.pack (UnpackedFloat.div .binary64 x.toModel.unpack y.toModel.unpack)).unpack := rfl

lemma unpack_add (x y : Float) : (x + y).toModel.unpack =
    (Float.Model.pack (UnpackedFloat.add .binary64 x.toModel.unpack y.toModel.unpack)).unpack := rfl

lemma unpack_neg (x : Float) : (-x).toModel.unpack = (Float.Model.pack x.toModel.unpack.neg).unpack := rfl

lemma isFinite_eq (x : Float) : x.isFinite = x.toModel.unpack.isFinite := rfl

lemma isNaN_of_isFinite {x : Float} (h : x.isFinite = true) : x.isNaN = false := by
  have hn : x.isNaN = x.toModel.unpack.isNaN := rfl
  rw [isFinite_eq] at h
  rw [hn]
  cases hx : x.toModel.unpack with
  | notANumber =>
    rw [hx] at h
    cases h
  | _ => rfl

lemma Sized.isFinite {u : UnpackedFloat} (h : Sized s b u) : u.isFinite = true := by cases h <;> rfl

lemma Sized.mono {u : UnpackedFloat} (h : Sized s a u) (hab : a ≤ b) : Sized s b u := by
  cases h with
  | zero h => exact .zero (h.trans hab)
  | finite hc he h => exact .finite hc he (h.trans hab)

namespace Within

lemma isFinite (h : Within x b) : x.isFinite = true := h.choose_spec.isFinite

lemma mono (h : Within x a) (hab : a ≤ b) : Within x b := h.imp fun _ hs => hs.mono hab

lemma mul (hx : Within x a) (hy : Within y b) (hB : Representable B) (hab : a * b ≤ B) : Within (x * y) B := by
  obtain ⟨s₁, hx⟩ := hx
  obtain ⟨s₂, hy⟩ := hy
  exact ⟨s₁ * s₂, hx.mul hy hB hab⟩

lemma add (hx : Within x a) (hy : Within y b) (hB : Representable B) (hab : a + b ≤ B) : Within (x + y) B := by
  obtain ⟨s₁, hx⟩ := hx
  obtain ⟨s₂, hy⟩ := hy
  obtain ⟨s, -, hs⟩ := hx.add hy hB hab
  exact ⟨s, hs⟩

lemma sub (hx : Within x a) (hy : Within y b) (hB : Representable B) (hab : a + b ≤ B) : Within (x - y) B := by
  obtain ⟨s₁, hx⟩ := hx
  obtain ⟨s₂, hy⟩ := hy
  exact hx.sub hy hB hab

lemma neg (hx : Within x a) : Within (-x) a := by
  obtain ⟨s, hx⟩ := hx
  exact ⟨-s, hx.neg.packed le_rfl⟩

lemma div (hx : Within x a) (hy : Beyond y b) (hB : Representable B) (hab : a ≤ B * b) : Within (x / y) B := by
  obtain ⟨s₁, hx⟩ := hx
  obtain ⟨s₂, m₂, e₂, hm₂, hy, hb⟩ := hy
  refine ⟨s₁ / s₂, ?_⟩
  rw [unpack_div, hy]
  exact hx.div hB (hab.trans (mul_le_mul_of_nonneg_left hb hB.nonneg))

end Within

lemma within_of_unpack {hm : 0 < m} (hx : x.toModel.unpack = .finite s m e hm) : Within x (scaled m e) := by
  obtain ⟨hc, he⟩ := canonical_of_unpack hx
  exact ⟨s, hx ▸ .finite hc he le_rfl⟩

lemma unpack_neg_finite {hm : 0 < m} (hx : x.toModel.unpack = .finite s m e hm) :
    (-x).toModel.unpack = .finite (-s) m e hm := by
  obtain ⟨hc, he⟩ := canonical_of_unpack hx
  rw [unpack_neg, hx, UnpackedFloat.neg, model_unpack_pack hm hc he]

lemma within_of_isFinite (h : x.isFinite = true) : Within x (largest 971) := by
  rw [isFinite_eq] at h
  cases hx : x.toModel.unpack with
  | notANumber =>
    rw [hx] at h
    cases h
  | infinity s =>
    rw [hx] at h
    cases h
  | zero s => exact ⟨s, hx ▸ .zero (scaled_nonneg _ _)⟩
  | finite s m e hm =>
    obtain ⟨hc, he⟩ := canonical_of_unpack hx
    exact (within_of_unpack hx).mono (hc.le_largest he)

lemma unpack_pack_notANumber : (Float.Model.pack .notANumber).unpack = .notANumber := rfl

lemma unpack_pack_infinity (s : Sign) : (Float.Model.pack (.infinity s)).unpack = .infinity s := by cases s <;> rfl

lemma unpack_pack_overflow (hm : 0 < m) (he : 972 ≤ e) : (Float.Model.pack (.finite s m e hm)).unpack = .infinity s := by
  have hb : 2 ^ Format.binary64.exponentBits ≤
      (e + Format.binary64.exponentBias + Format.binary64.mantissaBitsWithoutImplicit).toNat + 1 := by
    change 2 ^ 11 ≤ (e + 1023 + 52).toNat + 1
    omega
  have hp : UnpackedFloat.pack .binary64 (.finite s m e hm) = UnpackedFloat.pack .binary64 (.infinity s) := if_pos hb
  exact (congrArg (UnpackedFloat.unpack .binary64) hp).trans (unpack_pack_infinity s)

lemma unpack_of_not_isFinite (h : x.isFinite = false) :
    x.toModel.unpack = .notANumber ∨ ∃ s, x.toModel.unpack = .infinity s := by
  rw [isFinite_eq] at h
  cases hx : x.toModel.unpack with
  | notANumber => exact .inl rfl
  | infinity s => exact .inr ⟨s, rfl⟩
  | zero s =>
    rw [hx] at h
    cases h
  | finite s m e hm =>
    rw [hx] at h
    cases h

lemma not_isFinite_mul (y : Float) (h : x.isFinite = false) : (x * y).isFinite = false := by
  rw [isFinite_eq, unpack_mul]
  rcases unpack_of_not_isFinite h with hx | ⟨s, hx⟩
  · rw [hx, UnpackedFloat.mul, unpack_pack_notANumber]
    rfl
  · rw [hx]
    cases y.toModel.unpack <;>
      simp only [UnpackedFloat.mul, unpack_pack_notANumber, unpack_pack_infinity, UnpackedFloat.isFinite]

lemma not_isFinite_div (y : Float) (h : x.isFinite = false) : (x / y).isFinite = false := by
  rw [isFinite_eq, unpack_div]
  rcases unpack_of_not_isFinite h with hx | ⟨s, hx⟩
  · rw [hx, UnpackedFloat.div, unpack_pack_notANumber]
    rfl
  · rw [hx]
    cases y.toModel.unpack <;>
      simp only [UnpackedFloat.div, unpack_pack_notANumber, unpack_pack_infinity, UnpackedFloat.isFinite]

lemma not_isFinite_add (y : Float) (h : x.isFinite = false) : (x + y).isFinite = false := by
  rw [isFinite_eq, unpack_add]
  rcases unpack_of_not_isFinite h with hx | ⟨s, hx⟩
  · rw [hx, UnpackedFloat.add, unpack_pack_notANumber]
    rfl
  · rw [hx]
    cases y.toModel.unpack with
    | infinity s' =>
      rw [UnpackedFloat.add]
      split <;> simp only [unpack_pack_notANumber, unpack_pack_infinity, UnpackedFloat.isFinite]
    | _ => simp only [UnpackedFloat.add, unpack_pack_notANumber, unpack_pack_infinity, UnpackedFloat.isFinite]

lemma isFinite_of_mul (h : (x * y).isFinite = true) : x.isFinite = true :=
  eq_true_of_ne_false fun hx => by simp [not_isFinite_mul y hx] at h

lemma isFinite_of_div (h : (x / y).isFinite = true) : x.isFinite = true :=
  eq_true_of_ne_false fun hx => by simp [not_isFinite_div y hx] at h

lemma isFinite_of_add (h : (x + y).isFinite = true) : x.isFinite = true :=
  eq_true_of_ne_false fun hx => by simp [not_isFinite_add y hx] at h

lemma within_of_isFinite_mul (hy : y.toModel.unpack = .finite .positive (2 ^ 52) (k - 52) (by decide))
    (h : (y * x).isFinite = true) (hk : k ≤ 2045) : Within x (largest (971 - k)) := by
  rw [isFinite_eq, unpack_mul, hy] at h
  cases hx : x.toModel.unpack with
  | notANumber =>
    simp only [hx, UnpackedFloat.mul, unpack_pack_notANumber] at h
    cases h
  | infinity s =>
    rw [hx, UnpackedFloat.mul, unpack_pack_infinity] at h
    cases h
  | zero s => exact ⟨s, hx ▸ .zero (scaled_nonneg _ _)⟩
  | finite s m e hm =>
    obtain ⟨hc, he⟩ := canonical_of_unpack hx
    refine (within_of_unpack hx).mono (hc.le_largest ?_)
    by_contra hlt
    -- the product is the other factor with its exponent raised, which is out of range
    have hc' : Canonical m (e + k) := ⟨hc.lt, by omega, .inl (hc.full.resolve_right (by omega))⟩
    have hr := roundWithAccuracy_multiple (s := .positive * s) hm hc' 52
    rw [hx, UnpackedFloat.mul, Nat.mul_comm, show (k - 52 + e : Int) = e + k - (52 : Nat) by omega, hr,
      unpack_pack_overflow hm (by omega)] at h
    cases h

lemma scaled_shifted (n k : Nat) : scaled (n * 2 ^ k) (0 - k) = n := by
  rw [scaled_mul_two_pow, Int.sub_add_cancel, scaled, zpow_zero, mul_one]

lemma within_ofNat (hn : 0 < n) (hu : n < 2 ^ 53) : Within (Float.ofNat n) n :=
  scaled_shifted n (52 - n.log2) ▸ within_of_unpack (unpack_ofNat_short hn hu)

lemma beyond_ofNat (hn : 0 < n) (hu : n < 2 ^ 53) : Beyond (Float.ofNat n) n :=
  ⟨_, _, _, _, unpack_ofNat_short hn hu, (scaled_shifted n _).ge⟩

lemma le_iff (x y : Float) : x ≤ y ↔ UnpackedFloat.le x.toModel.unpack y.toModel.unpack = true := by
  constructor
  · intro h
    exact of_decide_eq_true h
  · intro h
    exact decide_eq_true h

lemma scaled_le_of_compare {M : Nat} {E : Int} (hm : m < 2 ^ 53) (hM : 2 ^ 52 ≤ M)
    (h : ((compare e E).then (compare m M)).isLE = true) : scaled m e ≤ scaled M E := by
  rcases Int.lt_trichotomy e E with he | rfl | he
  · have hl := scaled_lt_two_zpow hm e
    have hL := two_zpow_le_scaled hM E
    have hp : (2 : ℝ) ^ ((53 : Nat) + e) ≤ 2 ^ ((52 : Nat) + E) :=
      zpow_le_zpow_right₀ one_le_two (by push_cast; omega)
    exact hl.le.trans (hp.trans hL)
  · rw [Int.compare_eq_eq.mpr rfl, Ordering.then] at h
    exact scaled_le_scaled (Nat.isLE_compare.mp h) e
  · rw [Int.compare_eq_gt.mpr he] at h
    cases h

lemma within_of_between (hn : 0 < n) (hu : n < 2 ^ 53) (h₁ : -Float.ofNat n ≤ x) (h₂ : x ≤ Float.ofNat n) :
    Within x n := by
  have hc := canonical_natCast hn hu
  have hy := unpack_ofNat_short hn hu
  have hz := unpack_neg_finite hy
  have hfull := hc.full.resolve_right (by omega)
  rw [le_iff, hz] at h₁
  rw [le_iff, hy] at h₂
  rw [← scaled_shifted n (52 - n.log2)]
  cases hx : x.toModel.unpack with
  | notANumber =>
    rw [hx] at h₂
    cases h₂
  | infinity s =>
    rw [hx] at h₁ h₂
    cases s with
    | positive => cases h₂
    | negative => cases h₁
  | zero s => exact ⟨s, hx ▸ .zero (scaled_nonneg _ _)⟩
  | finite s m e hm =>
    rw [hx] at h₁ h₂
    have hcx := (canonical_of_unpack hx).1
    refine (within_of_unpack hx).mono (scaled_le_of_compare hcx.lt hfull ?_)
    cases s with
    | positive => exact h₂
    | negative =>
      have h : ((compare (0 - (52 - n.log2 : Nat) : Int) e).then (compare (n * 2 ^ (52 - n.log2)) m)).swap.isLE :=
        h₁
      rwa [Ordering.swap_then, Int.compare_swap, Nat.compare_swap] at h

lemma within_toFloat {w : UInt32} (hB : Representable B) (h : w.toNat ≤ B) : Within w.toFloat B := by
  have hw : w.toFloat.toModel.unpack = (Float.Model.pack (UnpackedFloat.ofNat .binary64 w.toNat)).unpack := rfl
  rcases Nat.eq_zero_or_pos w.toNat with hz | hp
  · rw [hz] at hw h
    exact ⟨.positive, hw ▸ .zero (by exact_mod_cast h)⟩
  · refine ⟨.positive, ?_⟩
    rw [hw, ofNat_eq_round hp]
    exact sized_round hp hB (by rwa [scaled, zpow_zero, mul_one])

end RfBoard.Double
