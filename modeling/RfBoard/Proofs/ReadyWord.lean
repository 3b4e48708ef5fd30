import RfBoard.Proofs.WindowFront

namespace RfBoard

structure SimBoard.Holding (v : UInt32) (board : SimBoard) : Prop where
  passes : board.faults.Passes
  size : board.window.bytes.size = SimBoard.windowSize
  ready : board.peek Station.readyOffset = v

namespace SimBoard

open Station

variable {v x : UInt32} {board after : SimBoard} {offset : UInt32} {i : Nat}

lemma fits_ready (h : board.window.bytes.size = windowSize) : board.window.Fits readyOffset Width.u32.bytes := by
  rw [Window.Fits, h]
  decide

lemma peek_ready (h : board.window.bytes.size = windowSize) :
    board.peek readyOffset = board.window.word .u32 readyOffset := by
  rw [peek, Window.read_eq, if_pos (fits_ready h)]

lemma holding_ofSize : Holding ((ofSize windowSize).peek readyOffset) (ofSize windowSize) :=
  ⟨⟨rfl, rfl⟩, Array.size_replicate, rfl⟩

lemma Holding.word (h : Holding v board) : board.window.word .u32 readyOffset = v := by
  rw [← peek_ready h.size, h.ready]

lemma holding_of_word (hp : board.faults.Passes) (hs : board.window.bytes.size = windowSize)
    (hw : board.window.word .u32 readyOffset = v) : Holding v board :=
  ⟨hp, hs, (peek_ready hs).trans hw⟩

lemma Holding.of_window (h : Holding v board) (hp : after.faults.Passes) (hw : after.window = board.window) :
    Holding v after :=
  holding_of_word hp (by rw [hw, h.size]) (by rw [hw, h.word])

lemma Holding.read (h : Holding v board) :
    Transport.readWord .u32 readyOffset board = .ok v board.counted ∧ Holding v board.counted := by
  have hr := readWord_of_passes h.passes (fits_ready h.size)
  rw [h.word] at hr
  exact ⟨hr, h.of_window h.passes.counted rfl⟩

lemma Holding.clear (h : Holding v board) :
    ∃ after, Transport.writeWord .u32 readyOffset 0 board = .ok () after ∧ Holding 0 after := by
  have hf := fits_ready h.size
  refine ⟨_, writeWord_of_passes h.passes hf, holding_of_word h.passes.counted ?_ ?_⟩
  · rw [Window.size_written, h.size]
  · exact Window.word_written hf (Width.le_maxValue_u32 _)

lemma Holding.readWords (h : Holding v board) (offset : UInt32) (n i : Nat) (buffer : Bytes) :
    Holding v (Transport.readWords offset n i buffer board).bus := by
  refine Transport.readWords_preserves ?_ ?_ offset n i buffer h
  · intro address x b b' hr hb
    obtain ⟨hp, _, _, rfl⟩ := readWord_ok hr
    exact hb.of_window hp.counted rfl
  · intro address e b b' he hb
    exact hb.of_window (readWord_passes hb.passes he) (readWord_error he)

lemma Holding.readBulk (h : Holding v board) (offset : UInt32) (buffer : Bytes) :
    Holding v (Transport.readBulk offset buffer board).bus := by
  rw [Transport.readBulk]
  cases checkBulkLength buffer.size with
  | error e => exact h
  | ok u => exact h.readWords offset _ 0 buffer

lemma Holding.word_read (h : Holding v board) (hf : offset.toNat + 4 * (i + 1) ≤ windowSize) (buffer : Bytes) :
    (Transport.readWords offset 1 i buffer board).outcome = .ok () := by
  have hs : windowSize = 393216 := rfl
  refine readWords_of_passes h.passes ?_ (by omega)
  rwa [Window.Fits, h.size]

lemma Holding.load (h : Holding v board) {data : List UInt8}
    (hd : offset.toNat + data.length ≤ readyOffset.toNat ∨ readyOffset.toNat + Width.u32.bytes ≤ offset.toNat) :
    Holding v (board.load offset data) := by
  rw [load_eq]
  split
  · refine holding_of_word h.passes ?_ ?_
    · exact (Bytes.size_overwrite ..).trans h.size
    · rw [← h.word]
      simp only [Window.word, Bytes.slice_overwrite_of_disjoint hd]
  · exact h

lemma Holding.loadWaveform (h : Holding v board) (w : RawWaveform) : Holding v (board.loadWaveform w) :=
  h.load (.inr (by decide))

lemma poke_eq (hf : board.window.Fits offset Width.u32.bytes) (x : UInt32) : board.poke offset x =
    ⟨⟨board.window.bytes.overwrite offset.toNat (LittleEndian.encode 4 x.toNat), board.window.log⟩, board.faults⟩ := by
  have hl : board.window.Fits offset (LittleEndian.encode 4 x.toNat).length := by rwa [LittleEndian.length_encode]
  rw [poke, load_eq, if_pos hl]

lemma Holding.getElem?_poke (h : Holding v board) (hf : offset.toNat + 4 ≤ windowSize) (x : UInt32) (k : Nat) :
    (board.poke offset x).window.bytes[k]? =
      if offset.toNat ≤ k ∧ k < offset.toNat + 4 then (LittleEndian.encode 4 x.toNat)[k - offset.toNat]?
      else board.window.bytes[k]? := by
  have hw : board.window.Fits offset Width.u32.bytes := by rwa [Window.Fits, h.size]
  rw [poke_eq hw]
  refine Bytes.getElem?_overwrite.trans (if_congr ?_ rfl rfl)
  rw [LittleEndian.length_encode, h.size]
  exact ⟨fun hk => ⟨hk.1, hk.2.1⟩, fun hk => ⟨hk.1, hk.2, by omega⟩⟩

lemma Holding.poke (h : Holding v board) (x : UInt32) : Holding x (board.poke readyOffset x) := by
  have hf := fits_ready h.size
  rw [poke_eq hf]
  refine holding_of_word h.passes ?_ ?_
  · exact (Bytes.size_overwrite ..).trans h.size
  · have hw := Window.word_written hf (Width.le_maxValue_u32 x)
    rwa [Window.word, Window.written] at hw

end SimBoard

namespace ScriptedBoard

open SimBoard Station

variable {v x : UInt32} {board : SimBoard} {n : Option Nat} {vs : List UInt32} {ready : Option (List UInt32)}
  {running : Bool} {offset address : UInt32} {buffer : Bytes}

lemma attempt_of_ok {α : Type} {f : AccessM SimBoard α} {a : α} {after : SimBoard} (hn : n ≠ some 0)
    (hf : f board = .ok a after) :
    attempt f ⟨board, n, ready, running⟩ = .ok a ⟨after, n.map (· - 1), ready, running⟩ := by
  rw [attempt_eq, if_neg hn, hf]

lemma readWord_scripted (h : Holding v board) (hn : n ≠ some 0) (x : UInt32) :
    ∃ after, Transport.readWord .u32 readyOffset (⟨board, n, some (x :: vs), running⟩ : ScriptedBoard) =
      .ok x ⟨after, n.map (· - 1), some vs, running⟩ ∧ Holding x after := by
  obtain ⟨hr, hb⟩ := (h.poke x).read
  exact ⟨_, attempt_of_ok hn hr, hb⟩

lemma readWord_refused (h : Holding v board) (x : UInt32) :
    ∃ after, Transport.readWord .u32 readyOffset (⟨board, some 0, some (x :: vs), running⟩ : ScriptedBoard) =
      .error (.device .scripted) ⟨after, none, some vs, running⟩ ∧ Holding x after := ⟨_, rfl, h.poke x⟩

lemma clear_scripted (h : Holding v board) :
    ∃ after, Transport.writeWord .u32 readyOffset 0 (⟨board, none, ready, running⟩ : ScriptedBoard) =
      .ok () ⟨after, none, ready, running⟩ ∧ Holding 0 after := by
  obtain ⟨after, hw, hb⟩ := h.clear
  exact ⟨after, attempt_of_ok (Option.some_ne_none 0).symm hw, hb⟩

lemma readWord_apart (h : Holding v board) (ha : address.toNat + 4 ≤ windowSize) (hr : address ≠ readyOffset) :
    Transport.readWord .u32 address (⟨board, none, ready, running⟩ : ScriptedBoard) =
      .ok (board.window.word .u32 address) ⟨board.counted, none, ready, running⟩ := by
  have hp : prepareRead address (⟨board, none, ready, running⟩ : ScriptedBoard) = ⟨board, none, ready, running⟩ :=
    if_neg hr
  have hf : board.window.Fits address Width.u32.bytes := by rwa [Window.Fits, h.size]
  refine (congrArg (attempt (Transport.readWord .u32 address)) hp).trans ?_
  exact attempt_of_ok (Option.some_ne_none 0).symm (readWord_of_passes h.passes hf)

lemma readBulk_scripted (h : Holding v board) (hl : buffer.size % 4 = 0) (hr : readyOffset < offset)
    (hf : offset.toNat + buffer.size ≤ windowSize) :
    (Transport.readBulk offset buffer (⟨board, none, ready, running⟩ : ScriptedBoard)).outcome = .ok () := by
  have hs : windowSize = 393216 := rfl
  have hc : checkBulkLength buffer.size = .ok () := if_neg (by omega)
  simp only [Transport.readBulk, hc]
  refine Transport.readWords_of_answers
    (P := fun bus : ScriptedBoard => ∃ after, bus = ⟨after, none, ready, running⟩ ∧ Holding v after)
    (buffer.size / 4) ?_ (by omega) (by omega) ⟨board, rfl, h⟩
  rintro address _ hlo hhi ⟨after, rfl, ha⟩
  have hne : address ≠ readyOffset := by
    rintro rfl
    exact absurd (UInt32.lt_iff_toNat_lt.mp hr) (by omega)
  exact ⟨_, _, readWord_apart ha (by omega) hne, after.counted, rfl, ha.of_window ha.passes.counted rfl⟩

end ScriptedBoard

end RfBoard
