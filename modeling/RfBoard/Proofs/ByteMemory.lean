import RfBoard.Proofs.BoardAccess
import RfBoard.Proofs.WaveformCodec

/-!
The simulated board as a plain byte memory.
-/

namespace RfBoard

structure ByteMemory where
  size : Nat
  byte : Nat → UInt8
  offline : Bool
  pending : Nat
  operations : UInt64

namespace ByteMemory

def value (m : ByteMemory) (start n : Nat) : Nat := ∑ i ∈ Finset.range n, (m.byte (start + i)).toNat * 256 ^ i

def fill (m : ByteMemory) (start n : Nat) (f : Nat → UInt8) : ByteMemory :=
  { m with byte := fun k => if start ≤ k ∧ k < start + n then f (k - start) else m.byte k }

def load (m : ByteMemory) (start n : Nat) (f : Nat → UInt8) : ByteMemory :=
  if start + n ≤ m.size then m.fill start n f else m

def counted (m : ByteMemory) : ByteMemory := { m with operations := m.operations + 1 }

def access {α : Type} (m : ByteMemory) (offset : UInt32) (n : Nat) (f : ByteMemory → α × ByteMemory) :
    Except TransportError α × ByteMemory :=
  if m.offline then (.error (.device .boardOffline), m.counted)
  else if 0 < m.pending then (.error (.device .injected), { m.counted with pending := m.pending - 1 })
  else if offset.toNat + n ≤ m.size then (f m.counted).map .ok id
  else (.error (.device (.outsideWindow n offset)), m.counted)

variable {α : Type} {m : ByteMemory} {offset : UInt32} {n : Nat} {f : ByteMemory → α × ByteMemory}

lemma access_of_offline (h : m.offline = true) :
    m.access offset n f = (.error (.device .boardOffline), m.counted) := if_pos h

lemma access_of_pending (h : ¬ m.offline = true) (hp : 0 < m.pending) :
    m.access offset n f = (.error (.device .injected), { m.counted with pending := m.pending - 1 }) := by
  rw [access, if_neg h, if_pos hp]

lemma access_of_fits (h : ¬ m.offline = true) (hp : ¬ 0 < m.pending) (hf : offset.toNat + n ≤ m.size) :
    m.access offset n f = (f m.counted).map .ok id := by
  rw [access, if_neg h, if_neg hp, if_pos hf]

lemma access_of_not_fits (h : ¬ m.offline = true) (hp : ¬ 0 < m.pending) (hf : ¬ offset.toNat + n ≤ m.size) :
    m.access offset n f = (.error (.device (.outsideWindow n offset)), m.counted) := by
  rw [access, if_neg h, if_neg hp, if_neg hf]

end ByteMemory

inductive BoardOperation where
  | read (width : Width) (offset : UInt32)
  | write (width : Width) (offset value : UInt32)
  | setOffline (on : Bool)
  | failNext (count : Nat)
  | poke (offset value : UInt32)
  | loadWaveform (w : RawWaveform)

namespace BoardOperation

abbrev Answer := Except TransportError (Option UInt32)

def onBoard : BoardOperation → SimBoard → Answer × SimBoard
  | read width offset, board => (AccessM.perform (Transport.read width offset) board).map (·.map some) id
  | write width offset value, board =>
    (AccessM.perform (Transport.write width offset value) board).map (·.map fun _ => none) id
  | setOffline on, board => (.ok none, board.setOffline on)
  | failNext count, board => (.ok none, board.failNext count)
  | poke offset value, board => (.ok none, board.poke offset value)
  | loadWaveform w, board => (.ok none, board.loadWaveform w)

def onMemory : BoardOperation → ByteMemory → Answer × ByteMemory
  | read width offset, m =>
    m.access offset width.bytes fun m => (some (UInt32.ofNat (m.value offset.toNat width.bytes)), m)
  | write width offset value, m =>
    if width.maxValue < value then (.error (.tooWide value width), m)
    else m.access offset width.bytes fun m =>
      (none, m.fill offset.toNat width.bytes (LittleEndian.byteAt value.toNat))
  | setOffline on, m => (.ok none, { m with offline := on })
  | failNext count, m => (.ok none, { m with pending := count })
  | poke offset value, m => (.ok none, m.load offset.toNat 4 (LittleEndian.byteAt value.toNat))
  | loadWaveform w, m => (.ok none, m.load 0x40000 114688 fun k =>
      LittleEndian.byteAt (w.samples[k / 2]?.getD 0).toUInt16.toNat (k % 2))

def run {σ : Type} (step : BoardOperation → σ → Answer × σ) : List BoardOperation → σ → List Answer × σ
  | [], s => ([], s)
  | o :: os, s =>
    let (answer, s) := step o s
    (run step os s).map (answer :: ·) id

lemma run_map {σ τ : Type} {f : BoardOperation → σ → Answer × σ} {g : BoardOperation → τ → Answer × τ} (view : σ → τ)
    (h : ∀ o s, (f o s).map id view = g o (view s)) (os : List BoardOperation) (s : σ) :
    (run f os s).map id view = run g os (view s) := by
  induction os generalizing s with
  | nil => rfl
  | cons o os ih =>
    simp only [run, ← h o s, ← ih, Prod.map_fst, Prod.map_snd, id_eq]
    rfl

end BoardOperation

namespace SimBoard

open BoardOperation

def memory (board : SimBoard) : ByteMemory where
  size := board.window.bytes.size
  byte k := board.window.bytes[k]?.getD 0
  offline := board.faults.offline
  pending := board.faults.pending
  operations := board.faults.operations

variable {bytes : Bytes} {log : Array Write} {faults : FaultSwitch} {bs : List UInt8} {f : Nat → UInt8}
  {w : Window} {width : Width} {offset : UInt32}

lemma memory_overwrite {start : Nat} (log' : Array Write) (hf : start + bs.length ≤ bytes.size)
    (h : ∀ i < bs.length, bs[i]? = some (f i)) :
    memory ⟨⟨bytes.overwrite start bs, log'⟩, faults⟩ = (memory ⟨⟨bytes, log⟩, faults⟩).fill start bs.length f := by
  simp only [memory, ByteMemory.fill, Bytes.size_overwrite, ByteMemory.mk.injEq, and_true, true_and]
  funext k
  rw [Bytes.getElem?_overwrite]
  by_cases hk : start ≤ k ∧ k < start + bs.length
  · rw [if_pos ⟨hk.1, hk.2, by omega⟩, if_pos hk, h _ (by omega)]
    rfl
  · rw [if_neg fun hh => hk ⟨hh.1, hh.2.1⟩, if_neg hk]

lemma memory_load (board : SimBoard) (offset : UInt32) (bs : List UInt8) (h : ∀ i < bs.length, bs[i]? = some (f i)) :
    (board.load offset bs).memory = board.memory.load offset.toNat bs.length f := by
  rw [load_eq]
  by_cases hf : board.window.Fits offset bs.length
  · have hm : offset.toNat + bs.length ≤ board.memory.size := hf
    rw [if_pos hf, ByteMemory.load, if_pos hm]
    exact memory_overwrite board.window.log hf h
  · have hm : ¬ offset.toNat + bs.length ≤ board.memory.size := hf
    rw [if_neg hf, ByteMemory.load, if_neg hm]

lemma memory_poke (board : SimBoard) (offset value : UInt32) :
    (board.poke offset value).memory = board.memory.load offset.toNat 4 (LittleEndian.byteAt value.toNat) := by
  have hl := LittleEndian.length_encode 4 value.toNat
  have hm := memory_load board offset (LittleEndian.encode 4 value.toNat) fun i hi =>
    LittleEndian.getElem?_encode _ (hl ▸ hi)
  rwa [hl] at hm

lemma memory_loadWaveform (board : SimBoard) (w : RawWaveform) : (board.loadWaveform w).memory =
    board.memory.load 0x40000 114688 fun k =>
      LittleEndian.byteAt (w.samples[k / 2]?.getD 0).toUInt16.toNat (k % 2) := by
  have hl := w.length_toBytes
  have hm := memory_load board Waveform.offset w.toBytes.toList fun i hi => w.getElem?_toBytes (hl ▸ hi)
  rwa [hl] at hm

lemma memory_written (faults : FaultSwitch) (value : UInt32) (h : w.Fits offset width.bytes) :
    memory ⟨w.written width offset value, faults⟩ =
      (memory ⟨w, faults⟩).fill offset.toNat width.bytes (LittleEndian.byteAt value.toNat) := by
  obtain ⟨bytes, log⟩ := w
  have hl := LittleEndian.length_encode width.bytes value.toNat
  have hm : memory ⟨Window.written ⟨bytes, log⟩ width offset value, faults⟩ =
      (memory ⟨⟨bytes, log⟩, faults⟩).fill offset.toNat (LittleEndian.encode width.bytes value.toNat).length
        (LittleEndian.byteAt value.toNat) :=
    memory_overwrite _ (by rwa [hl]) fun i hi => LittleEndian.getElem?_encode _ (hl ▸ hi)
  rwa [hl] at hm

lemma word_eq_value (faults : FaultSwitch) (h : w.Fits offset width.bytes) :
    w.word width offset = UInt32.ofNat ((memory ⟨w, faults⟩).value offset.toNat width.bytes) := by
  rw [Window.word, LittleEndian.decode_eq_sum, Array.length_toList, Bytes.size_slice h, ByteMemory.value]
  congr 1
  apply Finset.sum_congr rfl
  intro i hi
  rw [Array.getElem?_toList, Bytes.getElem?_slice, if_pos (Finset.mem_range.mp hi)]
  rfl

def answered {α : Type} (board : SimBoard) (width : Width) (offset : UInt32) (answer : α) (next : Window) :
    Except TransportError α × SimBoard :=
  match board.faults.access with
  | (faults, some e) => (.error (.device e), ⟨board.window, faults⟩)
  | (faults, none) =>
    if board.window.Fits offset width.bytes then (.ok answer, ⟨next, faults⟩)
    else (.error (.device (.outsideWindow width.bytes offset)), ⟨board.window, faults⟩)

lemma onBoard_read (width : Width) (offset : UInt32) (board : SimBoard) : (read width offset).onBoard board =
    board.answered width offset (some (board.window.word width offset)) board.window := by
  rw [onBoard, AccessM.perform, Transport.read, readWord_eq, answered]
  rcases board.faults.access with ⟨faults, _ | e⟩
  · by_cases hf : board.window.Fits offset width.bytes
    · simp only [if_pos hf]
      rfl
    · simp only [if_neg hf]
      rfl
  · rfl

lemma onBoard_write (width : Width) (offset value : UInt32) (board : SimBoard) :
    (write width offset value).onBoard board =
      if value ≤ width.maxValue then board.answered width offset none (board.window.written width offset value)
      else (.error (.tooWide value width), board) := by
  rw [onBoard, AccessM.perform, Transport.write, answered]
  by_cases hv : value ≤ width.maxValue
  · rw [if_pos hv, if_pos hv, writeWord_eq, Width.cut_of_le hv]
    rcases board.faults.access with ⟨faults, _ | e⟩
    · by_cases hf : board.window.Fits offset width.bytes
      · simp only [if_pos hf]
        rfl
      · simp only [if_neg hf]
        rfl
    · rfl
  · rw [if_neg hv, if_neg hv]
    rfl

variable {α : Type} {answer : α} {next : Window} {board after : SimBoard} {e : TransportError}

lemma memory_answered {f : ByteMemory → α × ByteMemory}
    (h : board.window.Fits offset width.bytes → f board.memory.counted = (answer, memory ⟨next, board.faults.counted⟩)) :
    (board.answered width offset answer next).map id memory = board.memory.access offset width.bytes f := by
  obtain ⟨w, faults⟩ := board
  rw [answered, FaultSwitch.access_eq]
  by_cases ho : faults.offline = true
  · rw [ByteMemory.access_of_offline ho]
    simp only [if_pos ho]
    rfl
  by_cases hp : 0 < faults.pending
  · rw [ByteMemory.access_of_pending ho hp]
    simp only [if_neg ho, if_pos hp]
    rfl
  simp only [if_neg ho, if_neg hp]
  by_cases hf : w.Fits offset width.bytes
  · rw [ByteMemory.access_of_fits ho hp hf, h hf, if_pos hf]
    rfl
  · rw [ByteMemory.access_of_not_fits ho hp hf, if_neg hf]
    rfl

theorem memory_onBoard (o : BoardOperation) (board : SimBoard) :
    (o.onBoard board).map id memory = o.onMemory board.memory := by
  cases o with
  | read width offset =>
    rw [onBoard_read, onMemory]
    apply memory_answered
    intro hf
    rw [word_eq_value board.faults hf]
    rfl
  | write width offset value =>
    rw [onBoard_write, onMemory]
    by_cases hv : value ≤ width.maxValue
    · rw [if_pos hv, if_neg (UInt32.not_lt.mpr hv)]
      apply memory_answered
      intro hf
      rw [memory_written _ _ hf]
      rfl
    · rw [if_neg hv, if_pos (UInt32.not_le.mp hv)]
      rfl
  | setOffline on => rfl
  | failNext count => rfl
  | poke offset value =>
    rw [onMemory, ← memory_poke]
    rfl
  | loadWaveform w =>
    rw [onMemory, ← memory_loadWaveform]
    rfl

structure Refused (board : SimBoard) (e : TransportError) (after : SimBoard) : Prop where
  window : after.window = board.window
  reason : (∃ value width, e = .tooWide value width) ∧ after = board ∨
    ∃ d, e = .device d ∧ d.kind = if board.faults.offline then .offline else .rejected

lemma refused_of_answered (h : board.answered width offset answer next = (.error e, after)) : Refused board e after := by
  rw [answered, FaultSwitch.access_eq] at h
  by_cases ho : board.faults.offline = true
  · simp only [if_pos ho] at h
    cases h
    exact ⟨rfl, .inr ⟨_, rfl, by rw [if_pos ho]; rfl⟩⟩
  by_cases hp : 0 < board.faults.pending
  · simp only [if_neg ho, if_pos hp] at h
    cases h
    exact ⟨rfl, .inr ⟨_, rfl, by rw [if_neg ho]; rfl⟩⟩
  simp only [if_neg ho, if_neg hp] at h
  split at h
  · cases h
  · cases h
    exact ⟨rfl, .inr ⟨_, rfl, by rw [if_neg ho]; rfl⟩⟩

lemma refused_of_onBoard {o : BoardOperation} (h : o.onBoard board = (.error e, after)) : Refused board e after := by
  cases o with
  | read width offset =>
    rw [onBoard_read] at h
    exact refused_of_answered h
  | write width offset value =>
    rw [onBoard_write] at h
    split at h
    · exact refused_of_answered h
    · cases h
      exact ⟨rfl, .inl ⟨⟨_, _, rfl⟩, rfl⟩⟩
  | setOffline on => cases h
  | failNext count => cases h
  | poke offset value => cases h
  | loadWaveform w => cases h

/-- A run on the board is the run on the memory: the same answers, and at the end the same bytes. No access that
fails changes the window. -/
theorem run_onBoard_eq (operations : List BoardOperation) (board : SimBoard) :
    (run onBoard operations board).map id memory = run onMemory operations board.memory ∧
      ∀ (o : BoardOperation) e after, o.onBoard board = (.error e, after) → Refused board e after :=
  ⟨run_map memory memory_onBoard operations board, fun _ _ _ h => refused_of_onBoard h⟩

example : (run onBoard [.write .u32 2 0x11223344, .write .u8 3 0xAA, .read .u16 2, .read .u16 7, .failNext 1,
      .setOffline true, .read .u8 0, .setOffline false, .write .u8 0 0x100, .read .u8 0, .read .u8 3] (ofSize 8)).1 =
    [.ok none, .ok none, .ok (some 0xAA44), .error (.device (.outsideWindow 2 7)), .ok none, .ok none,
      .error (.device .boardOffline), .ok none, .error (.tooWide 0x100 .u8), .error (.device .injected),
      .ok (some 0xAA)] := by
  decide +kernel

end SimBoard

end RfBoard
