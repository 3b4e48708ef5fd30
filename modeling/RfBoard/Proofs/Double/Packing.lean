import RfBoard.Number.Exact
import Mathlib

namespace RfBoard.Double

open Float.Model Float.Model.UnpackedFloat

/-- The mantissas and exponents that rounding ends with. -/
structure Canonical (m : Nat) (e : Int) : Prop where
  lt : m < 2 ^ 53
  least : -1074 ≤ e
  full : 2 ^ 52 ≤ m ∨ e = -1074

variable {s : Sign} {m : Nat} {e : Int}

lemma log2_full (hl : 2 ^ 52 ≤ m) (hu : m < 2 ^ 53) : m.log2 = 52 := by
  have hm : m ≠ 0 := by omega
  have h₁ := (Nat.le_log2 hm).mpr hl
  have h₂ := (Nat.log2_lt hm).mpr hu
  omega

lemma Canonical.log2_le (h : Canonical m e) : m.log2 ≤ 52 := by
  rcases Nat.eq_zero_or_pos m with rfl | hm
  · decide
  · have := (Nat.log2_lt (by omega)).mpr h.lt
    omega

@[simp] lemma unpackSign_packComponents (x : BitVec 11) (y : BitVec 52) :
    Sign.ofBitVec (unpackSign (packComponents .binary64 s x y)) = s := by
  have hb : unpackSign (packComponents .binary64 s x y) = s.toBitVec := by
    apply BitVec.eq_of_getLsbD_eq
    intro i hi
    obtain rfl : i = 0 := by omega
    simp only [unpackSign, packComponents, BitVec.getLsbD_cast, BitVec.getLsbD_extractLsb]
    change (decide (0 ≤ 0) && ((s.toBitVec ++ x) ++ y).getLsbD 63) = s.toBitVec.getLsbD 0
    rw [BitVec.getLsbD_append, BitVec.getLsbD_append]
    rfl
  rw [hb]
  cases s <;> rfl

lemma toNat_implicit (x : BitVec 52) : (1#1 ++ x).toNat = 2 ^ 52 + x.toNat := by
  rw [BitVec.toNat_append, ← Nat.shiftLeft_add_eq_or_of_lt x.isLt]
  rfl

lemma unpack_normal {x : Nat} (hx : 0 < x) (hx' : x < 2047) (hl : 2 ^ 52 ≤ m) (hu : m < 2 ^ 53) :
    unpack .binary64 (packComponents .binary64 s (BitVec.ofNat 11 x) (BitVec.ofNat 52 m)) =
      .finite s m (x - 1075) (by omega) := by
  have ht : (BitVec.ofNat 11 x).toNat = x := by
    rw [BitVec.toNat_ofNat, Nat.mod_eq_of_lt (by omega)]
  have h₁ : BitVec.ofNat 11 x ≠ -1#11 := fun h => by
    have := congrArg BitVec.toNat h
    rw [ht] at this
    exact absurd this (by simp; omega)
  have h₀ : BitVec.ofNat 11 x ≠ 0#11 := fun h => by
    have := congrArg BitVec.toNat h
    rw [ht] at this
    exact absurd this (by simp; omega)
  have hm : (1#1 ++ BitVec.ofNat 52 m).toNat = m := by
    rw [toNat_implicit, BitVec.toNat_ofNat]
    omega
  simp only [UnpackedFloat.unpack, unpackMantissa_packComponents, unpackExponent_packComponents, unpackSign_packComponents,
    h₁, h₀, if_false, hm, ht]
  rfl

lemma unpack_subnormal (hm : 0 < m) (hu : m < 2 ^ 52) :
    unpack .binary64 (packComponents .binary64 s 0#11 (BitVec.ofNat 52 m)) = .finite s m (-1074) hm := by
  have ht : (BitVec.ofNat 52 m).toNat = m := by
    rw [BitVec.toNat_ofNat, Nat.mod_eq_of_lt hu]
  have h₁ : 0#11 ≠ -1#11 := by decide
  have h₀ : BitVec.ofNat 52 m ≠ 0#52 := fun h => by
    have := congrArg BitVec.toNat h
    rw [ht] at this
    exact absurd this (by simp; omega)
  simp only [UnpackedFloat.unpack, unpackMantissa_packComponents, unpackExponent_packComponents, unpackSign_packComponents,
    h₁, h₀, if_false, if_true, dite_false, ht]
  rfl

theorem unpack_pack (hm : 0 < m) (h : Canonical m e) (he : e ≤ 971) :
    unpack .binary64 (pack .binary64 (.finite s m e hm)) = .finite s m e hm := by
  have hb : (e + Format.binary64.exponentBias + Format.binary64.mantissaBitsWithoutImplicit).toNat =
      (e + 1075).toNat := by
    change (e + 1023 + 52).toNat = _
    omega
  have hl := h.least
  rw [UnpackedFloat.pack, hb, if_neg (by change ¬ 2 ^ 11 ≤ _; omega)]
  by_cases hf : 2 ^ 52 ≤ m
  · rw [if_pos (by rw [log2_full hf h.lt]; rfl), unpack_normal (by omega) (by omega) hf h.lt]
    congr 1
    omega
  · obtain rfl := h.full.resolve_left hf
    have hg : m.log2 < 52 := (Nat.log2_lt (by omega)).mpr (by omega)
    rw [if_neg (by change ¬ m.log2 + 1 = 53; omega)]
    exact unpack_subnormal hm (by omega)

theorem canonical_of_unpack {b : BitVec 64} {hm : 0 < m} (h : UnpackedFloat.unpack .binary64 b = .finite s m e hm) :
    Canonical m e ∧ e ≤ 971 := by
  have hb : (Format.binary64.exponentBias : Int) + Format.binary64.mantissaBitsWithoutImplicit = 1075 := rfl
  rw [UnpackedFloat.unpack, hb] at h
  have hx : (@unpackExponent .binary64 b).toNat < 2 ^ 11 := BitVec.isLt _
  have hy : (@unpackMantissa .binary64 b).toNat < 2 ^ 52 := BitVec.isLt _
  split at h
  · split at h <;> cases h
  · rename_i h₁
    have h₁' : (@unpackExponent .binary64 b).toNat ≠ 2047 := fun hh => h₁ (BitVec.eq_of_toNat_eq hh)
    split at h
    · rename_i h₀
      split at h
      · cases h
      · obtain ⟨_, rfl, rfl⟩ := UnpackedFloat.finite.inj h
        have hz : (@unpackExponent .binary64 b).toNat = 0 := congrArg BitVec.toNat h₀
        exact ⟨⟨by omega, by omega, .inr (by omega)⟩, by omega⟩
    · rename_i h₀
      have h₀' : (@unpackExponent .binary64 b).toNat ≠ 0 := fun hh => h₀ (BitVec.eq_of_toNat_eq hh)
      obtain ⟨_, rfl, rfl⟩ := UnpackedFloat.finite.inj h
      have hi := toNat_implicit (@unpackMantissa .binary64 b)
      exact ⟨⟨by omega, by omega, .inl (by omega)⟩, by omega⟩

lemma model_unpack_pack (hm : 0 < m) (h : Canonical m e) (he : e ≤ 971) :
    (Float.Model.pack (.finite s m e hm)).unpack = .finite s m e hm := unpack_pack hm h he

theorem eq_of_unpack {x y : Float} (h : x.toModel.unpack = y.toModel.unpack) : x = y := by
  obtain ⟨⟨⟨a⟩, ha⟩⟩ := x
  obtain ⟨⟨⟨b⟩, hb⟩⟩ := y
  obtain rfl : a = b := (unpack_inj_of_valid ha hb (by decide)).mp h
  rfl

lemma exact_of_unpack {x : Float} {hm : 0 < m} (h : x.toModel.unpack = .finite s m e hm) :
    Number.exact x = .finite (s == .negative) m e := by
  rw [Number.exact, h]

def opposite : Number.Exact → Number.Exact
  | .nan => .nan
  | .infinite s => .infinite !s
  | .finite s m e => .finite (!s) m e

lemma exact_neg (x : Float) : Number.exact (-x) = opposite (Number.exact x) := by
  have hn : (-x).toModel.unpack = (Float.Model.pack x.toModel.unpack.neg).unpack := rfl
  rw [Number.exact, Number.exact, hn]
  cases hx : x.toModel.unpack with
  | notANumber => rfl
  | infinity s => cases s <;> rfl
  | zero s => cases s <;> rfl
  | finite s m e hm =>
    obtain ⟨hc, he⟩ := canonical_of_unpack hx
    rw [UnpackedFloat.neg, model_unpack_pack hm hc he]
    cases s <;> rfl

lemma nearest_neg (x : Float) : Number.nearest (-x) = -Number.nearest x := by
  rw [Number.nearest, Number.nearest, exact_neg]
  cases Number.exact x with
  | nan => rfl
  | infinite s => rfl
  | finite s m e => cases s <;> simp [opposite, Number.withSign]

end RfBoard.Double
