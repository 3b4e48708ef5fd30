import RfBoard.Proofs.BoardAccess

namespace RfBoard

namespace Transport

variable {offset address : UInt32} {i : Nat}

lemma toNat_wordAddress? (h : wordAddress? offset i = some address) : address.toNat = offset.toNat + 4 * i := by
  rw [wordAddress?] at h
  split at h
  · rename_i hi
    rw [← Option.some.inj h, UInt32.toNat_ofNat', Nat.mod_eq_of_lt hi]
  · cases h

lemma wordAddress?_of_lt (offset : UInt32) (i : Nat) (h : offset.toNat + 4 * i < 2 ^ 32) :
    ∃ address, wordAddress? offset i = some address ∧ address.toNat = offset.toNat + 4 * i := by
  have ha : wordAddress? offset i = some (UInt32.ofNat (offset.toNat + 4 * i)) := if_pos h
  exact ⟨_, ha, toNat_wordAddress? ha⟩

section Preserved

variable {σ : Type} [Transport σ] {P : σ → Prop} {s : σ}

lemma readWords_preserves
    (hok : ∀ {address v : UInt32} {s s' : σ}, readWord .u32 address s = .ok v s' → P s → P s')
    (herr : ∀ {address : UInt32} {e : TransportError} {s s' : σ}, readWord .u32 address s = .error e s' → P s → P s')
    (offset : UInt32) (n i : Nat) (buffer : Bytes) (hs : P s) : P (readWords offset n i buffer s).bus := by
  induction n generalizing i buffer s with
  | zero => exact hs
  | succ n ih =>
    rw [readWords]
    split
    · exact hs
    · split
      · exact herr ‹_› hs
      · exact ih _ _ (hok ‹_› hs)

lemma readBulk_preserves
    (hok : ∀ {address v : UInt32} {s s' : σ}, readWord .u32 address s = .ok v s' → P s → P s')
    (herr : ∀ {address : UInt32} {e : TransportError} {s s' : σ}, readWord .u32 address s = .error e s' → P s → P s')
    (offset : UInt32) (buffer : Bytes) (hs : P s) : P (readBulk offset buffer s).bus := by
  rw [readBulk]
  split
  · exact hs
  · exact readWords_preserves hok herr offset _ _ _ hs

lemma readWords_of_answers {n : Nat} {buffer : Bytes} (stop : Nat)
    (hok : ∀ (address : UInt32) (s : σ), offset.toNat ≤ address.toNat →
      address.toNat + 4 ≤ offset.toNat + 4 * stop → P s → ∃ v s', readWord .u32 address s = .ok v s' ∧ P s')
    (hn : i + n ≤ stop) (ha : offset.toNat + 4 * stop ≤ 2 ^ 32) (hs : P s) :
    (readWords offset n i buffer s).outcome = .ok () := by
  induction n generalizing i buffer s with
  | zero => rfl
  | succ n ih =>
    obtain ⟨address, haddr, htoNat⟩ := wordAddress?_of_lt offset i (by omega)
    obtain ⟨v, s', hr, hs'⟩ := hok address _ (by omega) (by omega) hs
    simp only [readWords, haddr, hr]
    exact ih (by omega) hs'

end Preserved

section Addresses

variable {σ : Type} [Transport σ] {buffer : Bytes} {s : σ} {m n : Nat}

lemma checkBulkLength_ok {length : Nat} {u : Unit} (h : checkBulkLength length = .ok u) : length % 4 = 0 := by
  rw [checkBulkLength] at h
  split at h
  · cases h
  · omega

structure Reaches (offset : UInt32) (buffer : Bytes) (s : σ) (i : Nat) : Prop where
  whole : checkBulkLength buffer.size = .ok ()
  inside : 4 * i < buffer.size
  read : (readWords offset i 0 buffer s).outcome = .ok ()

lemma readWords_add (offset : UInt32) (m n i : Nat) (buffer : Bytes) (s : σ) :
    readWords offset (m + n) i buffer s =
      match (readWords offset m i buffer s).outcome with
      | .ok _ =>
        readWords offset n (i + m) (readWords offset m i buffer s).buffer (readWords offset m i buffer s).bus
      | .error _ => readWords offset m i buffer s := by
  induction m generalizing i buffer s with
  | zero => simp only [Nat.zero_add, readWords, Nat.add_zero]
  | succ m ih =>
    rw [show m + 1 + n = m + n + 1 by omega, readWords, readWords]
    cases wordAddress? offset i with
    | none => rfl
    | some address =>
      dsimp only
      cases readWord .u32 address s with
      | error e after => rfl
      | ok word after =>
        dsimp only
        rw [ih, show i + 1 + m = i + (m + 1) by omega]

lemma readBulk_of_overflow (h : Reaches offset buffer s i) (ho : 2 ^ 32 ≤ offset.toNat + 4 * i) :
    (readBulk offset buffer s).outcome = .error (.addressOverflow offset i) := by
  have ha : wordAddress? offset i = none := if_neg (by omega)
  have hs : buffer.size / 4 = i + (buffer.size / 4 - i - 1 + 1) := by
    have hi := h.inside
    have hw := checkBulkLength_ok h.whole
    omega
  rw [readBulk, h.whole]
  dsimp only
  rw [hs, readWords_add, h.read]
  simp only [Nat.zero_add, readWords, ha]

end Addresses

end Transport

namespace SimBoard

open Transport

variable {offset : UInt32} {n i : Nat} {buffer : Bytes} {board : SimBoard}

lemma readWords_fits (h : (readWords offset n i buffer board).outcome = .ok ()) (hn : 0 < n) :
    board.window.Fits offset (4 * (i + n)) := by
  induction n generalizing i buffer board with
  | zero => omega
  | succ n ih =>
    rw [readWords] at h
    split at h
    · cases h
    · rename_i address ha
      split at h
      · cases h
      · rename_i word after hw
        obtain ⟨_, hf, _, rfl⟩ := readWord_ok hw
        rcases Nat.eq_zero_or_pos n with rfl | hn
        · simp only [Window.Fits, toNat_wordAddress? ha, Width.bytes] at hf ⊢
          omega
        · have hh := ih h hn
          rwa [show i + (n + 1) = i + 1 + n by omega]

lemma readWords_buffer {k : Nat} (h : (readWords offset n i buffer board).outcome = .ok ()) :
    (readWords offset n i buffer board).buffer[k]? =
      if 4 * i ≤ k ∧ k < 4 * (i + n) ∧ k < buffer.size then board.window.bytes[offset.toNat + k]? else buffer[k]? := by
  induction n generalizing i buffer board with
  | zero =>
    rw [readWords, if_neg (by omega)]
  | succ n ih =>
    rw [readWords] at h ⊢
    split at h
    · cases h
    · rename_i address ha
      split at h
      · cases h
      · rename_i word after hw
        obtain ⟨_, hf, rfl, rfl⟩ := readWord_ok hw
        have hb := Window.encode_word hf
        rw [ih h, Bytes.size_overwrite, Bytes.getElem?_overwrite, LittleEndian.length_encode]
        rw [Width.bytes] at hb
        rw [hb, Array.getElem?_toList, Bytes.getElem?_slice, toNat_wordAddress? ha]
        by_cases hk : 4 * i ≤ k ∧ k < 4 * i + 4 ∧ k < buffer.size
        · rw [if_neg (by omega), if_pos hk, if_pos (by omega), if_pos (by omega)]
          congr 1
          omega
        · rw [if_neg hk]
          by_cases hk' : 4 * (i + 1) ≤ k ∧ k < 4 * (i + 1 + n) ∧ k < buffer.size
          · rw [if_pos hk', if_pos (by omega)]
            rfl
          · rw [if_neg hk', if_neg (by omega)]

lemma readBulk_window (offset : UInt32) (buffer : Bytes) (board : SimBoard) :
    (readBulk offset buffer board).bus.window = board.window := by
  refine readBulk_preserves (P := fun after : SimBoard => after.window = board.window) ?_ ?_ offset buffer rfl
  · intro address v s s' hw hs
    obtain ⟨_, _, _, rfl⟩ := readWord_ok hw
    exact hs
  · intro address e s s' he hs
    exact (readWord_error he).trans hs

lemma readBulk_ok (hn : 0 < buffer.size) (h : (readBulk offset buffer board).outcome = .ok ()) :
    board.window.Fits offset buffer.size ∧
      (readBulk offset buffer board).buffer = board.window.bytes.slice offset.toNat buffer.size := by
  rw [readBulk] at h ⊢
  split at h
  · cases h
  · rename_i hc
    have hl := checkBulkLength_ok hc
    have hf := readWords_fits h (by omega)
    rw [show 4 * (0 + buffer.size / 4) = buffer.size by omega] at hf
    refine ⟨hf, ?_⟩
    apply Array.ext_getElem?
    intro k
    rw [readWords_buffer h, Bytes.getElem?_slice]
    by_cases hk : k < buffer.size
    · rw [if_pos (by omega), if_pos hk]
    · rw [if_neg (by omega), if_neg hk, Array.getElem?_eq_none_iff.mpr (by omega)]

lemma readWords_of_passes (h : board.faults.Passes) (hf : board.window.Fits offset (4 * (i + n)))
    (ha : offset.toNat + 4 * (i + n) ≤ 2 ^ 32) : (readWords offset n i buffer board).outcome = .ok () := by
  refine readWords_of_answers (P := fun after : SimBoard => after.faults.Passes ∧ after.window = board.window)
    (i + n) ?_ le_rfl ha ⟨h, rfl⟩
  rintro address after - hhi ⟨hp, hw⟩
  have hin : after.window.Fits address Width.u32.bytes := by
    simp only [Window.Fits, hw, Width.bytes] at hf ⊢
    omega
  exact ⟨_, _, readWord_of_passes hp hin, hp.counted, hw⟩

lemma readBulk_of_passes (h : board.faults.Passes) (hl : buffer.size % 4 = 0)
    (hf : board.window.Fits offset buffer.size) (ha : offset.toNat + buffer.size ≤ 2 ^ 32) :
    (readBulk offset buffer board).outcome = .ok () := by
  have hc : checkBulkLength buffer.size = .ok () := by rw [checkBulkLength, if_neg (by omega)]
  have hs : 4 * (0 + buffer.size / 4) = buffer.size := by omega
  simp only [readBulk, hc]
  exact readWords_of_passes h (by rwa [hs]) (by rwa [hs])

end SimBoard

end RfBoard
