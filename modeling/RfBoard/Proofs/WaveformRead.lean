import RfBoard.Proofs.BulkRead

/-!
Reading a byte range word by word, and with the one command made for it.
-/

namespace RfBoard.SimBoard

open Transport

variable {board : SimBoard} {offset : UInt32} {n i : Nat} {buffer : Bytes} {r : WaveformRequest}

lemma readWord_of_outside {width : Width} (h : board.faults.Passes) (hf : ¬ board.window.Fits offset width.bytes) :
    Transport.readWord width offset board = .error (.device (.outsideWindow width.bytes offset)) board.counted := by
  simp only [readWord_eq, FaultSwitch.access_of_passes h, if_neg hf, counted]

lemma getElem?_readWords (h : board.faults.Passes) (hs : board.window.bytes.size < 2 ^ 32) (k : Nat) :
    (readWords offset n i buffer board).buffer[k]? =
      if 4 * i ≤ k ∧ k < 4 * (i + n) ∧ k < buffer.size ∧ board.window.Fits offset (4 * (k / 4) + 4)
      then board.window.bytes[offset.toNat + k]? else buffer[k]? := by
  induction n generalizing i buffer board with
  | zero => rw [readWords, if_neg (by omega)]
  | succ n ih =>
    by_cases hw : board.window.Fits offset (4 * i + 4)
    · have ha : offset.toNat + 4 * i < 2 ^ 32 := by
        rw [Window.Fits] at hw
        omega
      obtain ⟨address, haddr, htoNat⟩ := wordAddress?_of_lt offset i ha
      have hf : board.window.Fits address Width.u32.bytes := by rwa [Window.Fits, htoNat, Nat.add_assoc]
      have he := Window.encode_word hf
      rw [Width.bytes] at he
      simp only [readWords, haddr, readWord_of_passes h hf]
      rw [@ih board.counted _ _ h.counted hs, Bytes.size_overwrite, Bytes.getElem?_overwrite,
        LittleEndian.length_encode, he, Array.getElem?_toList, Bytes.getElem?_slice, htoNat]
      by_cases hk : 4 * i ≤ k ∧ k < 4 * i + 4 ∧ k < buffer.size
      · have hq : 4 * (k / 4) = 4 * i := by omega
        rw [if_neg (by omega), if_pos hk, if_pos (by omega), if_pos ⟨hk.1, by omega, hk.2.2, hq ▸ hw⟩]
        congr 1
        omega
      · rw [if_neg hk]
        refine if_congr ⟨?_, ?_⟩ rfl rfl
        · rintro ⟨hl, hu, hb, hin⟩
          exact ⟨by omega, by omega, hb, hin⟩
        · rintro ⟨hl, hu, hb, hin⟩
          exact ⟨by omega, by omega, hb, hin⟩
    · have hstop : (readWords offset (n + 1) i buffer board).buffer = buffer := by
        cases haddr : wordAddress? offset i with
        | none => simp only [readWords, haddr]
        | some address =>
          have hf : ¬ board.window.Fits address Width.u32.bytes := by
            rwa [Window.Fits, toNat_wordAddress? haddr, Nat.add_assoc]
          simp only [readWords, haddr, readWord_of_outside h hf]
      have hno : ¬ (4 * i ≤ k ∧ k < 4 * (i + (n + 1)) ∧ k < buffer.size ∧
          board.window.Fits offset (4 * (k / 4) + 4)) := by
        simp only [Window.Fits] at hw ⊢
        omega
      rw [hstop, if_neg hno]

lemma readBulk_ok_iff (h : board.faults.Passes) (hs : board.window.bytes.size < 2 ^ 32) (hl : buffer.size % 4 = 0)
    (hn : 0 < buffer.size) :
    (readBulk offset buffer board).outcome = .ok () ↔ board.window.Fits offset buffer.size := by
  refine ⟨fun ho => (readBulk_ok hn ho).1, fun hf => readBulk_of_passes h hl hf ?_⟩
  rw [Window.Fits] at hf
  omega

lemma getElem?_readBulk (h : board.faults.Passes) (hs : board.window.bytes.size < 2 ^ 32) (hl : buffer.size % 4 = 0)
    (hf : ¬ board.window.Fits offset buffer.size) (k : Nat) :
    (readBulk offset buffer board).buffer[k]? =
      if board.window.Fits offset (4 * (k / 4) + 4) then board.window.bytes[offset.toNat + k]? else buffer[k]? := by
  have hc : checkBulkLength buffer.size = .ok () := if_neg (by omega)
  rw [readBulk, hc]
  dsimp only
  rw [getElem?_readWords h hs]
  apply if_congr _ rfl rfl
  simp only [Window.Fits] at hf ⊢
  omega

lemma address_lt_of_reaches (hs : board.window.bytes.size < 2 ^ 32) (h : Transport.Reaches offset buffer board i) :
    offset.toNat + 4 * i < 2 ^ 32 := by
  rcases Nat.eq_zero_or_pos i with rfl | hi
  · exact offset.toNat_lt
  · have hf := readWords_fits h.read hi
    rw [Window.Fits] at hf
    omega

lemma readWaveform_eq (h : board.faults.Passes) (hb : buffer.size = r.length) : board.readWaveform r buffer =
    if board.window.Fits r.offset r.length then
      ⟨.ok (), board.window.bytes.slice r.offset.toNat r.length, board.counted⟩
    else ⟨.error (.device (.outsideWindow r.length r.offset)), buffer, board.counted⟩ := by
  simp only [readWaveform, request, FaultSwitch.access_of_passes h, Window.serve, Command.ofCode?_code,
    Command.width?, Window.readWaveform, WaveformRequest.checkBuffer, if_pos hb, Window.readBytes]
  by_cases hf : board.window.Fits r.offset r.length
  · have hf' : Window.fits board.window.bytes r.offset r.length = true := decide_eq_true hf
    simp only [if_pos hf, if_pos hf']
    rfl
  · have hf' : ¬ Window.fits board.window.bytes r.offset r.length = true := mt of_decide_eq_true hf
    simp only [if_neg hf, if_neg hf']
    rfl

lemma readBulkVec_eq (offset : UInt32) (length : Nat) (board : SimBoard) : readBulkVec offset length board =
    match (readBulk offset (Array.replicate length 0) board).outcome with
    | .ok _ => .ok (readBulk offset (Array.replicate length 0) board).buffer
        (readBulk offset (Array.replicate length 0) board).bus
    | .error e => .error e (readBulk offset (Array.replicate length 0) board).bus := by
  rw [readBulkVec]
  rcases readBulk offset (Array.replicate length 0) board with ⟨u | e, bytes, after⟩ <;> rfl

/-- A range read word by word into one buffer and by the command into another. The first buffer is cut
short at the end of the window, word by word. -/
structure ReadsAlike (board : SimBoard) (r : WaveformRequest) (offset : UInt32) (length : Nat)
    (buffer other : Bytes) : Prop where
  bulk_ok : (readBulk offset buffer board).outcome = .ok () ↔ board.window.Fits offset length
  vec_ok : (∃ bytes after, readBulkVec offset length board = .ok bytes after) ↔ board.window.Fits offset length
  waveform_ok : (board.readWaveform r other).outcome = .ok () ↔ board.window.Fits offset length
  bulk_bytes : board.window.Fits offset length →
    (readBulk offset buffer board).buffer = board.window.bytes.slice offset.toNat length
  vec_bytes {bytes : Bytes} {after : SimBoard} : readBulkVec offset length board = .ok bytes after →
    bytes = board.window.bytes.slice offset.toNat length
  waveform_bytes : board.window.Fits offset length →
    (board.readWaveform r other).buffer = board.window.bytes.slice offset.toNat length
  waveform_untouched : ¬ board.window.Fits offset length → (board.readWaveform r other).buffer = other
  bulk_cut : ¬ board.window.Fits offset length → ∀ k, (readBulk offset buffer board).buffer[k]? =
    if board.window.Fits offset (4 * (k / 4) + 4) then board.window.bytes[offset.toNat + k]? else buffer[k]?
  bulk_window : (readBulk offset buffer board).bus.window = board.window
  vec_window : ((readBulkVec offset length).perform board).2.window = board.window
  waveform_window : (board.readWaveform r other).bus.window = board.window
  address_lt {bytes : Bytes} {i : Nat} : Transport.Reaches offset bytes board i → offset.toNat + 4 * i < 2 ^ 32

lemma window_readBulkVec (offset : UInt32) (length : Nat) (board : SimBoard) :
    ((readBulkVec offset length).perform board).2.window = board.window := by
  have hw := readBulk_window offset (Array.replicate length 0) board
  rw [AccessM.perform, readBulkVec_eq]
  cases (readBulk offset (Array.replicate length 0) board).outcome <;> exact hw

lemma readsAlike_of_request {other : Bytes} (h : board.faults.Passes) (hs : board.window.bytes.size < 2 ^ 32)
    (hr : 0 < r.length) (hb : buffer.size = r.length) (ho : other.size = r.length) :
    ReadsAlike board r r.offset r.length buffer other := by
  have hz : (Array.replicate r.length (0 : UInt8)).size = r.length := Array.size_replicate
  have hbulk {bytes : Bytes} (hn : bytes.size = r.length) :
      (readBulk r.offset bytes board).outcome = .ok () ↔ board.window.Fits r.offset r.length := by
    rw [← hn]
    exact readBulk_ok_iff h hs (hn ▸ r.aligned) (hn ▸ hr)
  have hbytes {bytes : Bytes} (hn : bytes.size = r.length) (ho : (readBulk r.offset bytes board).outcome = .ok ()) :
      (readBulk r.offset bytes board).buffer = board.window.bytes.slice r.offset.toNat r.length := by
    rw [← hn]
    exact (readBulk_ok (hn ▸ hr) ho).2
  have hw := readWaveform_eq h ho
  constructor
  case bulk_ok => exact hbulk hb
  case vec_ok =>
    rw [← hbulk hz, readBulkVec_eq]
    cases (readBulk r.offset (Array.replicate r.length 0) board).outcome <;> simp
  case waveform_ok =>
    rw [hw]
    split <;> simp [*]
  case bulk_bytes => exact fun hf => hbytes hb ((hbulk hb).mpr hf)
  case vec_bytes =>
    intro bytes after hv
    rw [readBulkVec_eq] at hv
    cases hok : (readBulk r.offset (Array.replicate r.length 0) board).outcome with
    | error e => simp [hok] at hv
    | ok u =>
      simp only [hok, EStateM.Result.ok.injEq] at hv
      rw [← hv.1]
      exact hbytes hz hok
  case waveform_bytes =>
    intro hf
    rw [hw, if_pos hf]
  case waveform_untouched =>
    intro hf
    rw [hw, if_neg hf]
  case bulk_cut => exact fun hf => getElem?_readBulk h hs (hb ▸ r.aligned) (by rwa [hb])
  case bulk_window => exact readBulk_window ..
  case vec_window => exact window_readBulkVec ..
  case waveform_window =>
    rw [hw]
    split <;> rfl
  case address_lt => exact address_lt_of_reaches hs

lemma ofLength_ok {length : Int32} (h : WaveformRequest.ofLength offset length = .ok r) :
    r.offset = offset ∧ r.length = length.toInt.toNat := by
  rw [WaveformRequest.ofLength] at h
  split at h
  · cases h
  · cases h
    exact ⟨rfl, rfl⟩

/-- On a board that answers, the words and the command read the same ranges and deliver the same bytes. -/
theorem readsAlike_of_passes {length : Int32} {other : Bytes} (h : board.faults.Passes)
    (hs : board.window.size < 2 ^ 32) (hr : WaveformRequest.ofLength offset length = .ok r) (hl : 0 < length)
    (hb : buffer.size = length.toInt.toNat) (ho : other.size = length.toInt.toNat) :
    ReadsAlike board r offset length.toInt.toNat buffer other := by
  obtain ⟨rfl, hn⟩ := ofLength_ok hr
  rw [← hn] at hb ho ⊢
  have hp : 0 < r.length := by
    have hi := Int32.lt_iff_toInt_lt.mp hl
    rw [Int32.toInt_zero] at hi
    omega
  exact readsAlike_of_request h hs hp hb ho

theorem readsAlike_ten_bytes :
    (ofSize 10).faults.Passes ∧ (ofSize 10).window.size < 2 ^ 32 ∧ (0 : Int32) < 12 ∧
      ∃ r, WaveformRequest.ofLength 1 12 = .ok r ∧
        ReadsAlike (ofSize 10) r 1 12 (Array.replicate 12 7) (Array.replicate 12 7) ∧
        (readBulk 1 (Array.replicate 12 7) (ofSize 10)).buffer = #[0, 0, 0, 0, 0, 0, 0, 0, 7, 7, 7, 7] :=
  have hs : (ofSize 10).window.size < 2 ^ 32 := by decide
  have hz : (Array.replicate 12 (7 : UInt8)).size = (12 : Int32).toInt.toNat := by decide
  ⟨⟨rfl, rfl⟩, hs, by decide, ⟨1, 12, by decide, by decide⟩, rfl,
    readsAlike_of_passes ⟨rfl, rfl⟩ hs rfl (by decide) hz hz, by decide +kernel⟩

end RfBoard.SimBoard
