import RfBoard.Proofs.RequestCodec
import RfBoard.Waveform.Raw

namespace RfBoard.RawWaveform

lemma foldl_push (bs : Bytes) (ss : List Int16) :
    (ss.foldl (fun (b : Bytes) s => (b.push (lowByte s)).push (highByte s)) bs).toList =
      bs.toList ++ ss.flatMap fun s => LittleEndian.encode 2 s.toUInt16.toNat := by
  induction ss generalizing bs with
  | nil => simp
  | cons s ss ih =>
    rw [List.foldl_cons, ih, List.flatMap_cons, ← ValueRequest.bytes16]
    simp [lowByte, highByte]

variable (w : RawWaveform) {bytes : Bytes} {n i : Nat}

lemma toList_toBytes :
    w.toBytes.toList = w.samples.toList.flatMap fun s => LittleEndian.encode 2 s.toUInt16.toNat := by
  rw [toBytes, ← Array.foldl_toList, foldl_push]
  rfl

@[simp] lemma length_toBytes : w.toBytes.toList.length = 114688 := by
  rw [toList_toBytes, List.length_flatMap]
  simp only [LittleEndian.length_encode, List.map_const', List.sum_replicate, Vector.length_toList, smul_eq_mul]

lemma getElem?_flatMap_encode (ss : List Int16) (k : Nat) :
    (ss.flatMap fun s => LittleEndian.encode 2 s.toUInt16.toNat)[k]? =
      ss[k / 2]?.map fun s => LittleEndian.byteAt s.toUInt16.toNat (k % 2) := by
  induction ss generalizing k with
  | nil => simp
  | cons s ss ih =>
    rw [List.flatMap_cons]
    rcases Nat.lt_or_ge k 2 with hk | hk
    · rw [List.getElem?_append_left (by simpa using hk), LittleEndian.getElem?_encode _ hk,
        Nat.div_eq_of_lt hk, Nat.mod_eq_of_lt hk]
      rfl
    · obtain ⟨j, rfl⟩ := Nat.exists_eq_add_of_le' hk
      rw [List.getElem?_append_right (by simp), LittleEndian.length_encode, Nat.add_sub_cancel, ih,
        Nat.add_div_right j (by decide), Nat.add_mod_right]
      rfl

lemma getElem?_toBytes (h : i < 114688) : w.toBytes.toList[i]? =
    some (LittleEndian.byteAt (w.samples[i / 2]?.getD 0).toUInt16.toNat (i % 2)) := by
  have hs : i / 2 < 57344 := by omega
  rw [toList_toBytes, getElem?_flatMap_encode, Vector.getElem?_toList, Vector.getElem?_eq_getElem hs]
  rfl

lemma toNat_sampleOfBytes (low high : UInt8) :
    (sampleOfBytes low high).toUInt16.toNat = LittleEndian.decode [low, high] :=
  ValueRequest.toNat_word16 low high

lemma toInt_sampleOfBytes (low high : UInt8) :
    (sampleOfBytes low high).toInt = (LittleEndian.decode [low, high] : Int).bmod (2 ^ 16) := by
  rw [← toNat_sampleOfBytes]
  exact BitVec.toInt_eq_toNat_bmod _

lemma sampleOfBytes_byteAt (s : Int16) :
    sampleOfBytes (LittleEndian.byteAt s.toUInt16.toNat 0) (LittleEndian.byteAt s.toUInt16.toNat 1) = s := by
  have h : LittleEndian.decode [LittleEndian.byteAt s.toUInt16.toNat 0, LittleEndian.byteAt s.toUInt16.toNat 1] =
      s.toUInt16.toNat := by
    rw [← LittleEndian.encode_two, LittleEndian.decode_encode]
    exact Nat.mod_eq_of_lt s.toUInt16.toNat_lt
  rw [← toNat_sampleOfBytes, UInt16.toNat_inj] at h
  exact congrArg UInt16.toInt16 h

lemma byteAt_sampleOfBytes (low high : UInt8) :
    [LittleEndian.byteAt (sampleOfBytes low high).toUInt16.toNat 0,
      LittleEndian.byteAt (sampleOfBytes low high).toUInt16.toNat 1] = [low, high] := by
  rw [toNat_sampleOfBytes, ← LittleEndian.encode_two]
  exact LittleEndian.encode_decode [low, high]

lemma refill_eq (w : RawWaveform) (bytes : Bytes) : w.refill bytes = ofBytes bytes := by
  rw [ofBytes, refill, refill]
  split
  · simp only [Except.ok.injEq, mk.injEq]
    apply Vector.ext
    intro i hi
    rw [Vector.getElem_mapFinIdx, Vector.getElem_mapFinIdx]
  · rfl

lemma ofBytes_of_size {bytes : Bytes} (h : bytes.size = 114688) : ∃ raw, ofBytes bytes = .ok raw := by
  rw [ofBytes, refill, dif_pos h]
  exact ⟨_, rfl⟩

lemma ofBytes_eq_ok_iff : ofBytes bytes = .ok w ↔ bytes.size = 114688 ∧
    ∀ i (_ : i < 57344) (_ : 2 * i < bytes.size) (_ : 2 * i + 1 < bytes.size),
      w.samples[i] = sampleOfBytes bytes[2 * i] bytes[2 * i + 1] := by
  rw [ofBytes, refill]
  by_cases h : bytes.size = 114688
  · rw [dif_pos h, Except.ok.injEq]
    constructor
    · rintro rfl
      refine ⟨h, fun i hi _ _ => ?_⟩
      rw [Vector.getElem_mapFinIdx]
    · rintro ⟨_, hw⟩
      obtain ⟨samples⟩ := w
      rw [mk.injEq]
      apply Vector.ext
      intro i hi
      rw [Vector.getElem_mapFinIdx, hw i hi (by omega) (by omega)]
  · rw [dif_neg h]
    simp only [reduceCtorEq, h, false_and]

lemma ofBytes_eq_error_iff : ofBytes bytes = .error (.invalidLength 114688 bytes.size) ↔ bytes.size ≠ 114688 := by
  rw [ofBytes, refill]
  by_cases h : bytes.size = 114688
  · simp only [h, dite_true, reduceCtorEq, ne_eq, not_true]
  · simp only [h, dite_false, ne_eq, not_false_eq_true, iff_true]
    rfl

lemma size_toBytes : w.toBytes.size = 114688 := w.length_toBytes

lemma getElem?_toBytes_pair (hi : i < 57344) :
    w.toBytes[2 * i]? = some (LittleEndian.byteAt w.samples[i].toUInt16.toNat 0) ∧
      w.toBytes[2 * i + 1]? = some (LittleEndian.byteAt w.samples[i].toUInt16.toNat 1) := by
  have hs : w.samples[i]?.getD 0 = w.samples[i] := by rw [Vector.getElem?_eq_getElem hi, Option.getD_some]
  have h₀ := w.getElem?_toBytes (by omega : 2 * i < 114688)
  have h₁ := w.getElem?_toBytes (by omega : 2 * i + 1 < 114688)
  rw [Array.getElem?_toList, show 2 * i / 2 = i by omega, hs, Nat.mul_mod_right] at h₀
  rw [Array.getElem?_toList, show (2 * i + 1) / 2 = i by omega, hs, Nat.mul_add_mod] at h₁
  exact ⟨h₀, h₁⟩

lemma ofBytes_toBytes : ofBytes w.toBytes = .ok w := by
  refine w.ofBytes_eq_ok_iff.mpr ⟨w.size_toBytes, fun i hi _ _ => ?_⟩
  obtain ⟨h₀, h₁⟩ := w.getElem?_toBytes_pair hi
  rw [(Array.getElem_of_getElem? h₀).2, (Array.getElem_of_getElem? h₁).2, sampleOfBytes_byteAt]

variable {w}

lemma toBytes_of_ofBytes (h : ofBytes bytes = .ok w) : w.toBytes = bytes := by
  obtain ⟨hs, hw⟩ := w.ofBytes_eq_ok_iff.mp h
  apply Array.ext (w.size_toBytes.trans hs.symm)
  intro k hk hk'
  obtain ⟨i, hi⟩ : ∃ i, k = 2 * i ∨ k = 2 * i + 1 := ⟨k / 2, by omega⟩
  have hlt : i < 57344 := by omega
  obtain ⟨h₀, h₁⟩ := w.getElem?_toBytes_pair hlt
  have hb := byteAt_sampleOfBytes bytes[2 * i] bytes[2 * i + 1]
  rw [← hw i hlt (by omega) (by omega), List.cons.injEq, List.cons.injEq] at hb
  rcases hi with rfl | rfl
  · exact (Array.getElem_of_getElem? h₀).2.trans hb.1
  · exact (Array.getElem_of_getElem? h₁).2.trans hb.2.1

lemma toInt_sample_of_ofBytes (h : ofBytes bytes = .ok w) (c : RawChannel) (i : Fin 4096) : (w.sample c i).toInt =
    (LittleEndian.decode (bytes.slice ((c.index * 4096 + i) * 2) 2).toList : Int).bmod (2 ^ 16) := by
  obtain ⟨hs, hw⟩ := w.ofBytes_eq_ok_iff.mp h
  have hp := (place c i).isLt
  have hv : (place c i).val = c.index * 4096 + i := rfl
  rw [← hv, Nat.mul_comm, Bytes.slice_two (by omega), ← toInt_sampleOfBytes, ← hw _ hp (by omega) (by omega)]
  rfl

def overwrite (bytes : Bytes) (h : bytes.size = 114688) (n : Nat) (hn : n ≤ 57344) (w : RawWaveform) : RawWaveform :=
  Nat.fold n (fun i hi w => ⟨w.samples.set i (sampleOfBytes bytes[2 * i] bytes[2 * i + 1])⟩) w

def decodeInto (bytes : Bytes) : EStateM RequestError RawWaveform Unit := fun w =>
  if h : bytes.size = 114688 then .ok () (overwrite bytes h 57344 le_rfl w)
  else .error (.invalidLength Waveform.length bytes.size) w

lemma getElem_overwrite (h : bytes.size = 114688) (hn : n ≤ 57344) (prior : RawWaveform) (hi : i < 57344) :
    (overwrite bytes h n hn prior).samples[i] =
      if i < n then sampleOfBytes bytes[2 * i] bytes[2 * i + 1] else prior.samples[i] := by
  -- on the number of samples written: those that are not yet written are still the old ones
  induction n with
  | zero => rfl
  | succ n ih =>
    rw [overwrite, Nat.fold_succ, Vector.getElem_set]
    by_cases hni : n = i
    · subst hni
      simp only [if_true, Nat.lt_succ_self]
    · have hlt : i < n ↔ i < n + 1 := by omega
      rw [if_neg hni]
      exact (ih (by omega)).trans (by simp only [hlt])

lemma ofBytes_overwrite (h : bytes.size = 114688) (prior : RawWaveform) :
    ofBytes bytes = .ok (overwrite bytes h 57344 le_rfl prior) := by
  refine (ofBytes_eq_ok_iff _).mpr ⟨h, fun i hi _ _ => ?_⟩
  rw [getElem_overwrite h le_rfl prior hi, if_pos hi]

lemma decodeInto_eq (bytes : Bytes) (prior : RawWaveform) : decodeInto bytes prior =
    match ofBytes bytes with
    | .ok w => .ok () w
    | .error e => .error e prior := by
  by_cases h : bytes.size = 114688
  · rw [decodeInto, dif_pos h, ofBytes_overwrite h prior]
  · rw [decodeInto, dif_neg h, ofBytes_eq_error_iff.mpr h]
    rfl

/-- Just 114688 bytes are a waveform. Bytes and waveforms are in one-to-one correspondence, with sample `i` of a channel
in the two bytes at `(c.index * 4096 + i) * 2`, low byte first and in two's complement. Decoding into a waveform gives the
same one whatever was there, and leaves what was there if the length is wrong. -/
theorem codec_bijective (bytes : Bytes) (w prior : RawWaveform) :
    ((∃ w, ofBytes bytes = .ok w) ↔ bytes.size = 114688) ∧
    ofBytes w.toBytes = .ok w ∧
    (∀ w, ofBytes bytes = .ok w → w.toBytes = bytes ∧ ∀ (c : RawChannel) (i : Fin 4096), (w.sample c i).toInt =
      (LittleEndian.decode (bytes.slice ((c.index * 4096 + i) * 2) 2).toList : Int).bmod (2 ^ 16)) ∧
    prior.refill bytes = ofBytes bytes ∧
    (∀ w, decodeInto bytes prior = .ok () w ↔ ofBytes bytes = .ok w) ∧
    (decodeInto bytes prior = .error (.invalidLength 114688 bytes.size) prior ↔ bytes.size ≠ 114688) := by
  refine ⟨⟨?_, ofBytes_of_size⟩, w.ofBytes_toBytes, fun w h => ⟨toBytes_of_ofBytes h, toInt_sample_of_ofBytes h⟩,
    prior.refill_eq bytes, fun w => ?_, ?_⟩
  · rintro ⟨w, h⟩
    exact (w.ofBytes_eq_ok_iff.mp h).1
  · rw [decodeInto_eq]
    cases ofBytes bytes <;> simp
  · rw [← ofBytes_eq_error_iff, decodeInto_eq]
    cases ofBytes bytes <;> simp

end RfBoard.RawWaveform
