import RfBoard.Proofs.Bytes
import RfBoard.Request
import Mathlib

namespace RfBoard.ValueRequest

lemma or_shiftLeft {a b k : Nat} (h : a < 2 ^ k) : a ||| b <<< k = a + b * 2 ^ k := by
  rw [Nat.or_comm, ← Nat.shiftLeft_add_eq_or_of_lt h, Nat.shiftLeft_eq, Nat.add_comm]

lemma byte_shiftLeft (b : UInt8) {k n : Nat} (h : k + 8 ≤ n) : b.toNat <<< k % 2 ^ n = b.toNat <<< k := by
  apply Nat.mod_eq_of_lt
  rw [Nat.shiftLeft_eq]
  calc b.toNat * 2 ^ k < 2 ^ 8 * 2 ^ k := Nat.mul_lt_mul_of_pos_right b.toNat_lt (Nat.two_pow_pos k)
    _ = 2 ^ (k + 8) := by rw [← Nat.pow_add, Nat.add_comm]
    _ ≤ 2 ^ n := Nat.pow_le_pow_right (by decide) h

lemma toNat_word16 (b₀ b₁ : UInt8) : (word16 b₀ b₁).toNat = LittleEndian.decode [b₀, b₁] := by
  have h₀ := b₀.toNat_lt
  change b₀.toNat ||| b₁.toNat <<< 8 % 2 ^ 16 = _
  rw [byte_shiftLeft b₁ (by decide), or_shiftLeft (by omega)]
  simp only [LittleEndian.decode]
  omega

lemma toNat_word32 (b₀ b₁ b₂ b₃ : UInt8) :
    (word32 b₀ b₁ b₂ b₃).toNat = LittleEndian.decode [b₀, b₁, b₂, b₃] := by
  have h₀ := b₀.toNat_lt
  have h₁ := b₁.toNat_lt
  have h₂ := b₂.toNat_lt
  change b₀.toNat ||| b₁.toNat <<< 8 % 2 ^ 32 ||| b₂.toNat <<< 16 % 2 ^ 32 ||| b₃.toNat <<< 24 % 2 ^ 32 = _
  rw [byte_shiftLeft b₁ (by decide), byte_shiftLeft b₂ (by decide), byte_shiftLeft b₃ (by decide)]
  rw [or_shiftLeft (k := 8) (by omega), or_shiftLeft (k := 16) (by omega), or_shiftLeft (k := 24) (by omega)]
  simp only [LittleEndian.decode]
  omega

lemma bytes16 (x : UInt16) : [x.toUInt8, (x >>> 8).toUInt8] = LittleEndian.encode 2 x.toNat := by
  simp only [LittleEndian.encode, List.cons.injEq, ← UInt8.toNat_inj, UInt16.toNat_toUInt8,
    UInt16.toNat_shiftRight, UInt8.toNat_ofNat']
  simp [Nat.shiftRight_eq_div_pow]

lemma bytes32 (x : UInt32) : [x.toUInt8, (x >>> 8).toUInt8, (x >>> 16).toUInt8, (x >>> 24).toUInt8] =
    LittleEndian.encode 4 x.toNat := by
  simp only [LittleEndian.encode, Nat.div_div_eq_div_mul, List.cons.injEq, ← UInt8.toNat_inj,
    UInt32.toNat_toUInt8, UInt32.toNat_shiftRight, UInt8.toNat_ofNat']
  simp [Nat.shiftRight_eq_div_pow]

lemma bytes_word16 (b₀ b₁ : UInt8) : [(word16 b₀ b₁).toUInt8, (word16 b₀ b₁ >>> 8).toUInt8] = [b₀, b₁] := by
  rw [bytes16, toNat_word16]
  exact LittleEndian.encode_decode [b₀, b₁]

lemma bytes_word32 (b₀ b₁ b₂ b₃ : UInt8) :
    [(word32 b₀ b₁ b₂ b₃).toUInt8, (word32 b₀ b₁ b₂ b₃ >>> 8).toUInt8, (word32 b₀ b₁ b₂ b₃ >>> 16).toUInt8,
      (word32 b₀ b₁ b₂ b₃ >>> 24).toUInt8] = [b₀, b₁, b₂, b₃] := by
  rw [bytes32, toNat_word32]
  exact LittleEndian.encode_decode [b₀, b₁, b₂, b₃]

lemma word16_bytes16 (x : UInt16) : word16 x.toUInt8 (x >>> 8).toUInt8 = x := by
  rw [← UInt16.toNat_inj, toNat_word16, bytes16, LittleEndian.decode_encode]
  exact Nat.mod_eq_of_lt x.toNat_lt

lemma word32_bytes32 (x : UInt32) :
    word32 x.toUInt8 (x >>> 8).toUInt8 (x >>> 16).toUInt8 (x >>> 24).toUInt8 = x := by
  rw [← UInt32.toNat_inj, toNat_word32, bytes32, LittleEndian.decode_encode]
  exact Nat.mod_eq_of_lt x.toNat_lt

@[simp] lemma decode_encode (r : ValueRequest) : decode (encode r) = r := by
  obtain ⟨offset, value8, value16, value32⟩ := r
  simp only [decode, encode, mk.injEq]
  exact ⟨word32_bytes32 offset, rfl, word16_bytes16 value16, word32_bytes32 value32⟩

lemma encode_decode (b : Vector UInt8 12) : encode (decode b) = b.setIfInBounds 5 0 := by
  obtain ⟨⟨l⟩, hl⟩ := b
  match l, hl with
  | [b₀, b₁, b₂, b₃, b₄, b₅, b₆, b₇, b₈, b₉, b₁₀, b₁₁], hl =>
    have h₀ := bytes_word32 b₀ b₁ b₂ b₃
    have h₆ := bytes_word16 b₆ b₇
    have h₈ := bytes_word32 b₈ b₉ b₁₀ b₁₁
    simp only [List.cons.injEq, and_true] at h₀ h₆ h₈
    obtain ⟨h₀, h₁, h₂, h₃⟩ := h₀
    obtain ⟨h₆, h₇⟩ := h₆
    obtain ⟨h₈, h₉, h₁₀, h₁₁⟩ := h₈
    simp [encode, decode, h₀, h₁, h₂, h₃, h₆, h₇, h₈, h₉, h₁₀, h₁₁]

lemma toList_encode (r : ValueRequest) : r.encode.toList = LittleEndian.encode 4 r.offset.toNat ++ [r.value8, 0] ++
    LittleEndian.encode 2 r.value16.toNat ++ LittleEndian.encode 4 r.value32.toNat := by
  rw [← bytes32, ← bytes16, ← bytes32]
  rfl

section Bytes

variable {bytes : Bytes} {r : ValueRequest}

lemma ofBytes_eq_ok_iff : ofBytes bytes = .ok r ↔ ∃ h : bytes.size = 12, r = decode ⟨bytes, h⟩ := by
  rw [ofBytes]
  by_cases h : bytes.size = 12
  · simp only [h, dite_true, Except.ok.injEq, exists_true_left, eq_comm]
  · simp only [h, dite_false, reduceCtorEq, IsEmpty.exists_iff]

lemma ofBytes_eq_error_iff : ofBytes bytes = .error (.invalidLength 12 bytes.size) ↔ bytes.size ≠ 12 := by
  rw [ofBytes]
  by_cases h : bytes.size = 12
  · simp only [h, dite_true, reduceCtorEq, ne_eq, not_true]
  · simp only [h, dite_false, ne_eq, not_false_eq_true, iff_true]
    rfl

lemma ofBytes_encode (r : ValueRequest) : ofBytes r.encode.toArray = .ok r :=
  ofBytes_eq_ok_iff.mpr ⟨r.encode.size_toArray, (decode_encode r).symm⟩

lemma encode_of_ofBytes (h : ofBytes bytes = .ok r) : r.encode.toArray = bytes.setIfInBounds 5 0 := by
  obtain ⟨hs, rfl⟩ := ofBytes_eq_ok_iff.mp h
  rw [encode_decode]
  rfl

end Bytes

section Fields

lemma value_setValue (r : ValueRequest) (w : Width) (v : UInt32) : (r.setValue w v).value w = w.cut v := by
  cases w with
  | u8 =>
    rw [← UInt32.toNat_inj]
    change v.toNat % 2 ^ 8 = v.toNat &&& 2 ^ 8 - 1
    rw [Nat.and_two_pow_sub_one_eq_mod]
  | u16 =>
    rw [← UInt32.toNat_inj]
    change v.toNat % 2 ^ 16 = v.toNat &&& 2 ^ 16 - 1
    rw [Nat.and_two_pow_sub_one_eq_mod]
  | u32 =>
    rw [← UInt32.toNat_inj]
    change v.toNat = v.toNat &&& 2 ^ 32 - 1
    rw [Nat.and_two_pow_sub_one_eq_mod, Nat.mod_eq_of_lt v.toNat_lt]

@[simp] lemma offset_setValue (r : ValueRequest) (w : Width) (v : UInt32) :
    (r.setValue w v).offset = r.offset := by cases w <;> rfl

lemma value_setValue_of_ne (r : ValueRequest) {w w' : Width} (v : UInt32) (h : w ≠ w') :
    (r.setValue w v).value w' = r.value w' := by
  cases w <;> cases w' <;> first | rfl | exact absurd rfl h

lemma value_setValue_of_le (r : ValueRequest) {w : Width} {v : UInt32} (h : v ≤ w.maxValue) :
    (r.setValue w v).value w = v := by
  rw [value_setValue, Width.cut_of_le h]

def setValues (r : ValueRequest) (updates : List (Width × UInt32)) : ValueRequest :=
  updates.foldl (fun r u => r.setValue u.1 u.2) r

def lastUpdate? (w : Width) (updates : List (Width × UInt32)) : Option UInt32 :=
  (updates.filter (·.1 = w)).getLast?.map (·.2)

variable (r : ValueRequest) (updates : List (Width × UInt32))

lemma setValues_concat (u : Width × UInt32) : r.setValues (updates ++ [u]) = (r.setValues updates).setValue u.1 u.2 := by
  rw [setValues, List.foldl_append]
  rfl

lemma offset_setValues : (r.setValues updates).offset = r.offset := by
  induction updates using List.reverseRecOn with
  | nil => rfl
  | append_singleton updates u ih => rw [setValues_concat, offset_setValue, ih]

lemma lastUpdate?_concat (w : Width) (u : Width × UInt32) :
    lastUpdate? w (updates ++ [u]) = if u.1 = w then some u.2 else lastUpdate? w updates := by
  by_cases h : u.1 = w <;> simp [lastUpdate?, h]

lemma value_setValues (w : Width) :
    (r.setValues updates).value w = ((lastUpdate? w updates).map w.cut).getD (r.value w) := by
  induction updates using List.reverseRecOn with
  | nil => rfl
  | append_singleton updates u ih =>
    rw [setValues_concat, lastUpdate?_concat]
    by_cases h : u.1 = w
    · rw [if_pos h, h, value_setValue]
      rfl
    · rw [if_neg h, value_setValue_of_ne _ _ h, ih]

end Fields

/-- A request is laid out as its offset, a byte, a padding byte, a half word and a word, all little-endian. Just 12 bytes
are read as one; what is written is read back, and what is read is written back with no padding. After any updates the
offset is as it was, and each width has the value last set for it, cut to its bits, or the one that it had. -/
theorem codec_faithful :
    (∀ r : ValueRequest, r.encode.toList = LittleEndian.encode 4 r.offset.toNat ++ [r.value8, 0] ++
      LittleEndian.encode 2 r.value16.toNat ++ LittleEndian.encode 4 r.value32.toNat) ∧
    (∀ bytes, (∃ r, ofBytes bytes = .ok r) ↔ bytes.size = 12) ∧
    (∀ bytes, ofBytes bytes = .error (.invalidLength 12 bytes.size) ↔ bytes.size ≠ 12) ∧
    (∀ r : ValueRequest, ofBytes r.encode.toArray = .ok r) ∧
    (∀ bytes r, ofBytes bytes = .ok r → r.encode.toArray = bytes.setIfInBounds 5 0) ∧
    ∀ (r : ValueRequest) (updates : List (Width × UInt32)), (r.setValues updates).offset = r.offset ∧
      ∀ w, ((r.setValues updates).value w).toNat =
        ((lastUpdate? w updates).map (·.toNat % 2 ^ w.bits)).getD (r.value w).toNat := by
  refine ⟨toList_encode, fun bytes => ⟨?_, fun h => ⟨_, ofBytes_eq_ok_iff.mpr ⟨h, rfl⟩⟩⟩,
    fun bytes => ofBytes_eq_error_iff, ofBytes_encode, fun bytes r => encode_of_ofBytes,
    fun r updates => ⟨r.offset_setValues updates, fun w => ?_⟩⟩
  · rintro ⟨r, h⟩
    exact (ofBytes_eq_ok_iff.mp h).1
  · rw [value_setValues]
    cases lastUpdate? w updates with
    | none => rfl
    | some v =>
      change (w.cut v).toNat = v.toNat % 2 ^ w.bits
      rw [Width.toNat_cut, Width.bits, Nat.pow_mul]

example : ((read 0x10).setValues [(.u8, 0x1234), (.u32, 0xDEADBEEF), (.u8, 0x5678)]).encode.toList =
    [0x10, 0, 0, 0, 0x78, 0, 0, 0, 0xEF, 0xBE, 0xAD, 0xDE] := by decide

end RfBoard.ValueRequest
