import RfBoard.Conversion
import RfBoard.Proofs.Double.Integer

namespace RfBoard

namespace Number

variable {x : Float}

lemma isFinite_eq_true : x.isFinite = true ↔ ∃ s m e, exact x = .finite s m e := by
  have hf : x.isFinite = x.toModel.unpack.isFinite := rfl
  rw [hf, exact]
  cases x.toModel.unpack <;> simp [Float.Model.UnpackedFloat.isFinite]

lemma isFinite_of_nearest_ne_zero (h : nearest x ≠ 0) : x.isFinite = true := by
  rw [isFinite_eq_true]
  rw [nearest] at h
  cases hx : exact x with
  | finite s m e => exact ⟨s, m, e, rfl⟩
  | nan =>
    rw [hx] at h
    exact absurd rfl h
  | infinite s =>
    rw [hx] at h
    exact absurd rfl h

end Number

namespace Conversion

variable {quantity : String} {cal : Calibration} {signed : Bool} {x : Float} {raw : UInt32}

lemma toWord_eq_ok : toWord quantity signed x = .ok raw ↔
    x.isFinite = true ∧ (wordRange signed).1 ≤ Number.nearest x ∧ Number.nearest x ≤ (wordRange signed).2 ∧
      raw = UInt32.ofInt (Number.nearest x) := by
  rw [toWord, checkFinite]
  by_cases hf : x.isFinite = true
  · rw [if_pos hf]
    by_cases hr : Number.nearest x < (wordRange signed).1 ∨ Number.nearest x > (wordRange signed).2
    · simp only [Except.bind, if_pos hr, reduceCtorEq, false_iff]
      omega
    · simp only [Except.bind, if_neg hr, Except.ok.injEq]
      constructor
      · rintro rfl
        exact ⟨hf, by omega, by omega, rfl⟩
      · rintro ⟨_, _, _, rfl⟩
        rfl
  · rw [if_neg hf]
    simp only [Except.bind, reduceCtorEq, false_iff]
    exact fun h => hf h.1

lemma inverse_identity : inverse quantity cal .identity x = toWord quantity true x := by
  rw [inverse, checkFinite]
  by_cases hf : x.isFinite = true
  · rw [if_pos hf]
    rfl
  · rw [if_neg hf, toWord, checkFinite, if_neg hf]
    rfl

lemma toNat_ofInt (n : Int) : ((UInt32.ofInt n).toNat : Int) = n % 4294967296 := by
  have hn : (n % 4294967296).toNat < 2 ^ 32 := by omega
  have ht : (UInt32.ofInt n).toNat = (n % 4294967296).toNat := by
    rw [UInt32.ofInt, UInt32.toNat_ofNat']
    exact Nat.mod_eq_of_lt hn
  rw [ht]
  omega

lemma inverse_identity_eq_one : inverse quantity cal .identity x = .ok 1 ↔ Number.nearest x = 1 := by
  rw [inverse_identity, toWord_eq_ok]
  constructor
  · rintro ⟨_, hl, hu, hw⟩
    have ht : ((1 : UInt32).toNat : Int) = Number.nearest x % 4294967296 := by rw [hw, toNat_ofInt]
    simp only [wordRange, if_true] at hl hu
    change (1 : Int) = _ at ht
    omega
  · intro h
    refine ⟨Number.isFinite_of_nearest_ne_zero (by rw [h]; decide), ?_, ?_, ?_⟩ <;> rw [h] <;> decide

lemma forward_reflection {pair : Nat} {f r : ChannelCalibration} (hp : cal.pair? pair = some (f, r))
    (ht : ((Number.ofWord true raw / 1024 * f.k / r.k).sqrt == 1) = true) :
    (reflection pair).forward quantity cal raw = .error (.divisionByZero quantity) := by
  simp only [forward, value, chain, hp, bind, Except.bind, ht, if_true]

end Conversion

end RfBoard
