import RfBoard.Word
import Mathlib

namespace RfBoard

lemma Width.toNat_cut (w : Width) (v : UInt32) : (w.cut v).toNat = v.toNat % 256 ^ w.bytes := by
  have hm : w.maxValue.toNat = 2 ^ w.bits - 1 := by cases w <;> rfl
  rw [Width.cut, UInt32.toNat_and, hm, Nat.and_two_pow_sub_one_eq_mod, Width.bits, Nat.pow_mul]

lemma Width.cut_of_le {w : Width} {v : UInt32} (h : v ≤ w.maxValue) : w.cut v = v := by
  have hv : v.toNat ≤ w.maxValue.toNat := h
  have hm : w.maxValue.toNat + 1 = 256 ^ w.bytes := by cases w <;> rfl
  rw [← UInt32.toNat_inj, toNat_cut]
  exact Nat.mod_eq_of_lt (by omega)

lemma Width.one_le_maxValue (w : Width) : 1 ≤ w.maxValue := by cases w <;> decide

lemma Width.le_maxValue_u32 (v : UInt32) : v ≤ Width.u32.maxValue :=
  UInt32.le_iff_toNat_le.mpr (Nat.le_of_lt_succ v.toNat_lt)

namespace LittleEndian

lemma decode_encode (n v : Nat) : decode (encode n v) = v % 256 ^ n := by
  induction n generalizing v with
  | zero => simp [encode, decode, Nat.mod_one]
  | succ n ih =>
    have h : (UInt8.ofNat v).toNat = v % 256 := UInt8.toNat_ofNat'
    rw [encode, decode, ih, h, Nat.pow_succ', Nat.mod_mul]

lemma encode_mod (n v : Nat) : encode n (v % 256 ^ n) = encode n v := by
  induction n generalizing v with
  | zero => rfl
  | succ n ih =>
    have hb : UInt8.ofNat (v % 256 ^ (n + 1)) = UInt8.ofNat v := by
      rw [← UInt8.toNat_inj, UInt8.toNat_ofNat', UInt8.toNat_ofNat', Nat.pow_succ']
      exact Nat.mod_mul_right_mod v 256 (256 ^ n)
    rw [encode, encode, hb, Nat.pow_succ', Nat.mod_mul_right_div_self, ih]

lemma decode_lt (bs : List UInt8) : decode bs < 256 ^ bs.length := by
  induction bs with
  | nil => simp [decode]
  | cons b bs ih =>
    have hb := b.toNat_lt
    rw [decode, List.length_cons, Nat.pow_succ]
    omega

def byteAt (v i : Nat) : UInt8 := UInt8.ofNat (v / 256 ^ i)

lemma getElem?_encode {n i : Nat} (v : Nat) (h : i < n) : (encode n v)[i]? = some (byteAt v i) := by
  induction n generalizing v i with
  | zero => omega
  | succ n ih =>
    cases i with
    | zero => simp [encode, byteAt]
    | succ i =>
      rw [encode, List.getElem?_cons_succ, ih (v / 256) (by omega), byteAt, byteAt, Nat.div_div_eq_div_mul,
        Nat.pow_succ']

lemma encode_two (v : Nat) : encode 2 v = [byteAt v 0, byteAt v 1] := by
  simp [encode, byteAt]

lemma decode_eq_sum (bs : List UInt8) :
    decode bs = ∑ i ∈ Finset.range bs.length, (bs[i]?.getD 0).toNat * 256 ^ i := by
  induction bs with
  | nil => rfl
  | cons b bs ih =>
    rw [decode, ih, List.length_cons, Finset.sum_range_succ', Finset.mul_sum, Nat.add_comm]
    congr 1
    · apply Finset.sum_congr rfl
      intro i _
      rw [List.getElem?_cons_succ, Nat.pow_succ']
      ring
    · simp

end LittleEndian

namespace Bytes

variable {buffer : Bytes} {start length k : Nat} {bs bs' : List UInt8}

lemma getElem?_overwrite : (buffer.overwrite start bs)[k]? =
    if start ≤ k ∧ k < start + bs.length ∧ k < buffer.size then bs[k - start]? else buffer[k]? := by
  induction bs generalizing buffer start with
  | nil =>
    have h : ¬ (start ≤ k ∧ k < start + ([] : List UInt8).length ∧ k < buffer.size) := by simp; omega
    rw [if_neg h, overwrite]
  | cons b bs ih =>
    rw [overwrite, ih, Array.size_setIfInBounds, Array.getElem?_setIfInBounds]
    by_cases hk : k = start
    · subst hk
      by_cases hs : k < buffer.size <;> simp [hs, Nat.not_succ_le_self k]
    · have hc : start + 1 ≤ k ∧ k < start + 1 + bs.length ∧ k < buffer.size ↔
          start ≤ k ∧ k < start + (b :: bs).length ∧ k < buffer.size := by
        simp only [List.length_cons]
        omega
      have hi : start + 1 ≤ k → k - start = k - (start + 1) + 1 := by omega
      rw [if_neg (Ne.symm hk)]
      by_cases h : start + 1 ≤ k ∧ k < start + 1 + bs.length ∧ k < buffer.size
      · rw [if_pos h, if_pos (hc.mp h), hi h.1, List.getElem?_cons_succ]
      · rw [if_neg h, if_neg (hc.not.mp h)]

lemma getElem?_slice : (buffer.slice start length)[k]? = if k < length then buffer[start + k]? else none := by
  rw [slice, Array.getElem?_extract]
  by_cases hk : k < length
  · rw [if_pos hk]
    split
    · rfl
    · rw [eq_comm, Array.getElem?_eq_none_iff]
      omega
  · rw [if_neg hk, if_neg (by omega)]

lemma size_slice (h : start + length ≤ buffer.size) : (buffer.slice start length).size = length := by
  rw [slice, Array.size_extract]
  omega

lemma slice_two (h : k + 1 < buffer.size) : (buffer.slice k 2).toList = [buffer[k], buffer[k + 1]] := by
  apply List.ext_getElem?
  intro i
  rw [Array.getElem?_toList, getElem?_slice]
  match i with
  | 0 => simp [Nat.lt_of_succ_lt h]
  | 1 => simp [h]
  | i + 2 => simp

lemma slice_overwrite (h : start + bs.length ≤ buffer.size) :
    (buffer.overwrite start bs).slice start bs.length = bs.toArray := by
  apply Array.ext_getElem?
  intro k
  rw [getElem?_slice, getElem?_overwrite]
  by_cases hk : k < bs.length
  · rw [if_pos hk, if_pos (by omega), Nat.add_sub_cancel_left, List.getElem?_toArray]
  · rw [if_neg hk, List.getElem?_toArray, List.getElem?_eq_none (by omega)]

lemma overwrite_overwrite (h : bs'.length = bs.length) :
    (buffer.overwrite start bs).overwrite start bs' = buffer.overwrite start bs' := by
  apply Array.ext_getElem?
  intro k
  rw [getElem?_overwrite, getElem?_overwrite, getElem?_overwrite, size_overwrite, h]
  split <;> rfl

lemma overwrite_comm {other : Nat} (h : start + bs.length ≤ other ∨ other + bs'.length ≤ start) :
    (buffer.overwrite start bs).overwrite other bs' = (buffer.overwrite other bs').overwrite start bs := by
  apply Array.ext_getElem?
  intro k
  simp only [getElem?_overwrite, size_overwrite]
  by_cases hk : start ≤ k ∧ k < start + bs.length ∧ k < buffer.size
  · have hk' : ¬ (other ≤ k ∧ k < other + bs'.length ∧ k < buffer.size) := by omega
    rw [if_pos hk, if_neg hk', if_pos hk]
  · rw [if_neg hk, if_neg hk]

lemma slice_overwrite_of_disjoint {other : Nat} (h : start + bs.length ≤ other ∨ other + length ≤ start) :
    (buffer.overwrite start bs).slice other length = buffer.slice other length := by
  apply Array.ext_getElem?
  intro k
  rw [getElem?_slice, getElem?_slice, getElem?_overwrite]
  by_cases hk : k < length
  · rw [if_pos hk, if_pos hk, if_neg (by omega)]
  · rw [if_neg hk, if_neg hk]

end Bytes

end RfBoard
