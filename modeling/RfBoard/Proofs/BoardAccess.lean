import RfBoard.Proofs.Bytes
import RfBoard.Proofs.RequestCodec
import RfBoard.SimBoard

namespace RfBoard

namespace FaultSwitch

variable {f g : FaultSwitch}

def Passes (f : FaultSwitch) : Prop := f.offline = false ∧ f.pending = 0

def counted (f : FaultSwitch) : FaultSwitch := { f with operations := f.operations + 1 }

lemma access_eq (f : FaultSwitch) : f.access =
    if f.offline then (f.counted, some .boardOffline)
    else if 0 < f.pending then ({ f.counted with pending := f.pending - 1 }, some .injected)
    else (f.counted, none) := by
  obtain ⟨offline, pending, operations⟩ := f
  cases offline with
  | true => rfl
  | false => cases pending <;> rfl

lemma access_of_passes (h : f.Passes) : f.access = (f.counted, none) := by
  obtain ⟨offline, pending, operations⟩ := f
  obtain ⟨rfl, rfl⟩ := h
  rfl

lemma access_eq_none (h : f.access = (g, none)) : f.Passes ∧ g = f.counted := by
  obtain ⟨offline, pending, operations⟩ := f
  cases offline with
  | true => simp [access] at h
  | false =>
    cases pending with
    | zero =>
      simp only [access, Bool.false_eq_true, if_false, Prod.mk.injEq, and_true] at h
      exact ⟨⟨rfl, rfl⟩, h.symm⟩
    | succ n => simp [access] at h

lemma Passes.counted (h : f.Passes) : f.counted.Passes := h

end FaultSwitch

namespace Window

variable {w : Window} {width : Width} {offset v : UInt32}

def Fits (w : Window) (offset : UInt32) (length : Nat) : Prop := offset.toNat + length ≤ w.bytes.size

instance (w : Window) (offset : UInt32) (length : Nat) : Decidable (w.Fits offset length) := Nat.decLe ..

def word (w : Window) (width : Width) (offset : UInt32) : UInt32 :=
  UInt32.ofNat (LittleEndian.decode (w.bytes.slice offset.toNat width.bytes).toList)

def written (w : Window) (width : Width) (offset value : UInt32) : Window :=
  ⟨w.bytes.overwrite offset.toNat (LittleEndian.encode width.bytes value.toNat),
    remember w.log ⟨offset, width, value⟩⟩

@[simp] lemma size_written (w : Window) (width : Width) (offset value : UInt32) :
    (w.written width offset value).bytes.size = w.bytes.size := Bytes.size_overwrite ..

lemma read_eq (w : Window) (width : Width) (offset : UInt32) : w.read width offset =
    if w.Fits offset width.bytes then .ok (w.word width offset) else .error (.outsideWindow width.bytes offset) := by
  by_cases h : w.Fits offset width.bytes
  · have hf : fits w.bytes offset width.bytes = true := decide_eq_true h
    rw [if_pos h, read, readBytes, if_pos hf]
    rfl
  · have hf : ¬ fits w.bytes offset width.bytes = true := mt of_decide_eq_true h
    rw [if_neg h, read, readBytes, if_neg hf]
    rfl

lemma write_eq (w : Window) (width : Width) (offset value : UInt32) : write width offset value w =
    if w.Fits offset width.bytes then .ok () (w.written width offset value)
    else .error (.outsideWindow width.bytes offset) w := by
  obtain ⟨bytes, log⟩ := w
  simp only [write, fits, decide_eq_true_eq, Fits, written]

lemma decode_slice_le (h : w.Fits offset width.bytes) :
    LittleEndian.decode (w.bytes.slice offset.toNat width.bytes).toList ≤ width.maxValue.toNat := by
  have hd := LittleEndian.decode_lt (w.bytes.slice offset.toNat width.bytes).toList
  rw [Array.length_toList, Bytes.size_slice h] at hd
  have hm : width.maxValue.toNat + 1 = 256 ^ width.bytes := by cases width <;> rfl
  omega

lemma toNat_word (h : w.Fits offset width.bytes) :
    (w.word width offset).toNat = LittleEndian.decode (w.bytes.slice offset.toNat width.bytes).toList := by
  have hd := decode_slice_le h
  have hm := width.maxValue.toNat_lt
  rw [word, UInt32.toNat_ofNat', Nat.mod_eq_of_lt (by omega)]

lemma word_le (h : w.Fits offset width.bytes) : w.word width offset ≤ width.maxValue := by
  rw [UInt32.le_iff_toNat_le, toNat_word h]
  exact decode_slice_le h

lemma encode_word (h : w.Fits offset width.bytes) :
    LittleEndian.encode width.bytes (w.word width offset).toNat = (w.bytes.slice offset.toNat width.bytes).toList := by
  have hl : (w.bytes.slice offset.toNat width.bytes).toList.length = width.bytes := by
    rw [Array.length_toList, Bytes.size_slice h]
  have he := LittleEndian.encode_decode (w.bytes.slice offset.toNat width.bytes).toList
  rw [hl] at he
  rwa [toNat_word h]

lemma word_written (h : w.Fits offset width.bytes) (hv : v ≤ width.maxValue) :
    (w.written width offset v).word width offset = v := by
  have hf : offset.toNat + (LittleEndian.encode width.bytes v.toNat).length ≤ w.bytes.size := by
    rwa [LittleEndian.length_encode]
  have hs := Bytes.slice_overwrite hf
  rw [LittleEndian.length_encode] at hs
  have hv' : v.toNat < 256 ^ width.bytes := by
    have hm : width.maxValue.toNat + 1 = 256 ^ width.bytes := by cases width <;> rfl
    have hv := UInt32.le_iff_toNat_le.mp hv
    omega
  rw [word, written, hs, LittleEndian.decode_encode, Nat.mod_eq_of_lt hv', UInt32.ofNat_toNat]

lemma word_written_of_disjoint {other : UInt32} {width' : Width}
    (h : offset.toNat + width.bytes ≤ other.toNat ∨ other.toNat + width'.bytes ≤ offset.toNat) :
    (w.written width offset v).word width' other = w.word width' other := by
  rw [word, word, written, Bytes.slice_overwrite_of_disjoint (by simpa using h)]

end Window

namespace SimBoard

lemma fits_ofSize {size length : Nat} {offset : UInt32} (h : offset.toNat + length ≤ size) :
    (ofSize size).window.Fits offset length := by
  simpa only [Window.Fits, ofSize, Window.ofSize, Array.size_replicate] using h

lemma width?_readCommand (width : Width) : width.readCommand.width? = some width := by cases width <;> rfl

lemma width?_writeCommand (width : Width) : width.writeCommand.width? = some width := by cases width <;> rfl

lemma isWrite_readCommand (width : Width) : width.readCommand.isWrite = false := by cases width <;> rfl

lemma isWrite_writeCommand (width : Width) : width.writeCommand.isWrite = true := by cases width <;> rfl

lemma readWord_eq (width : Width) (offset : UInt32) (board : SimBoard) :
    Transport.readWord width offset board =
      match board.faults.access with
      | (faults, some e) => .error (.device e) ⟨board.window, faults⟩
      | (faults, none) =>
        if board.window.Fits offset width.bytes then .ok (board.window.word width offset) ⟨board.window, faults⟩
        else .error (.device (.outsideWindow width.bytes offset)) ⟨board.window, faults⟩ := by
  obtain ⟨window, faults⟩ := board
  simp only [Transport.readWord, request]
  obtain ⟨faults', _ | e⟩ := faults.access
  · simp only [Window.serve, Command.ofCode?_code, width?_readCommand, isWrite_readCommand,
      Bool.false_eq_true, if_false, Window.readValue, ValueRequest.decode_encode, ValueRequest.read,
      Window.read_eq]
    by_cases h : window.Fits offset width.bytes
    · simp only [if_pos h, answer, ValueRequest.decode_encode,
        ValueRequest.value_setValue_of_le _ (Window.word_le h)]
    · simp only [if_neg h]
  · rfl

lemma writeWord_eq (width : Width) (offset value : UInt32) (board : SimBoard) :
    Transport.writeWord width offset value board =
      match board.faults.access with
      | (faults, some e) => .error (.device e) ⟨board.window, faults⟩
      | (faults, none) =>
        if board.window.Fits offset width.bytes then
          .ok () ⟨board.window.written width offset (width.cut value), faults⟩
        else .error (.device (.outsideWindow width.bytes offset)) ⟨board.window, faults⟩ := by
  obtain ⟨window, faults⟩ := board
  simp only [Transport.writeWord, request]
  obtain ⟨faults', _ | e⟩ := faults.access
  · simp only [Window.serve, Command.ofCode?_code, width?_writeCommand, isWrite_writeCommand,
      if_true, Window.writeValue, ValueRequest.decode_encode, ValueRequest.write,
      ValueRequest.offset_setValue, ValueRequest.value_setValue, ValueRequest.read, Window.write_eq]
    by_cases h : window.Fits offset width.bytes
    · simp only [if_pos h]
    · simp only [if_neg h]
  · rfl

variable {width : Width} {offset value v : UInt32} {board after : SimBoard} {e : TransportError}

def counted (board : SimBoard) : SimBoard := ⟨board.window, board.faults.counted⟩

lemma readWord_of_passes (h : board.faults.Passes) (hf : board.window.Fits offset width.bytes) :
    Transport.readWord width offset board = .ok (board.window.word width offset) board.counted := by
  simp only [readWord_eq, FaultSwitch.access_of_passes h, if_pos hf, counted]

lemma readWord_ok (h : Transport.readWord width offset board = .ok v after) :
    board.faults.Passes ∧ board.window.Fits offset width.bytes ∧ v = board.window.word width offset ∧
      after = board.counted := by
  rw [readWord_eq] at h
  split at h
  · cases h
  · rename_i faults ha
    obtain ⟨hp, rfl⟩ := FaultSwitch.access_eq_none ha
    split at h
    · cases h
      exact ⟨hp, ‹_›, rfl, rfl⟩
    · cases h

lemma readWord_error (h : Transport.readWord width offset board = .error e after) :
    after.window = board.window := by
  rw [readWord_eq] at h
  split at h
  · cases h
    rfl
  · split at h <;> cases h
    rfl

lemma writeWord_of_passes (h : board.faults.Passes) (hf : board.window.Fits offset width.bytes) :
    Transport.writeWord width offset value board =
      .ok () ⟨board.window.written width offset (width.cut value), board.faults.counted⟩ := by
  simp only [writeWord_eq, FaultSwitch.access_of_passes h, if_pos hf]

lemma writeWord_ok (h : Transport.writeWord width offset value board = .ok () after) :
    board.faults.Passes ∧ board.window.Fits offset width.bytes ∧
      after = ⟨board.window.written width offset (width.cut value), board.faults.counted⟩ := by
  rw [writeWord_eq] at h
  split at h
  · cases h
  · rename_i faults ha
    obtain ⟨hp, rfl⟩ := FaultSwitch.access_eq_none ha
    split at h
    · cases h
      exact ⟨hp, ‹_›, rfl⟩
    · cases h

lemma write_eq_of_passes (h : board.faults.Passes) : Transport.write width offset value board =
    if value ≤ width.maxValue then
      if board.window.Fits offset width.bytes then
        .ok () ⟨board.window.written width offset value, board.faults.counted⟩
      else .error (.device (.outsideWindow width.bytes offset)) board.counted
    else .error (.tooWide value width) board := by
  rw [Transport.write]
  by_cases hv : value ≤ width.maxValue
  · rw [if_pos hv, if_pos hv, writeWord_eq, FaultSwitch.access_of_passes h, Width.cut_of_le hv]
    rfl
  · rw [if_neg hv, if_neg hv]

lemma write_of_passes (hv : value ≤ width.maxValue) (h : board.faults.Passes)
    (hf : board.window.Fits offset width.bytes) : Transport.write width offset value board =
      .ok () ⟨board.window.written width offset value, board.faults.counted⟩ := by
  rw [write_eq_of_passes h, if_pos hv, if_pos hf]

lemma write_ok (h : Transport.write width offset value board = .ok () after) :
    value ≤ width.maxValue ∧ board.faults.Passes ∧ board.window.Fits offset width.bytes ∧
      after = ⟨board.window.written width offset value, board.faults.counted⟩ := by
  rw [Transport.write] at h
  split at h
  · rename_i hv
    obtain ⟨hp, hf, rfl⟩ := writeWord_ok h
    exact ⟨hv, hp, hf, by rw [Width.cut_of_le hv]⟩
  · cases h

lemma writeWord_error (h : Transport.writeWord width offset value board = .error e after) :
    after.window = board.window := by
  rw [writeWord_eq] at h
  split at h
  · cases h
    rfl
  · split at h <;> cases h
    rfl

lemma readWord_passes (hp : board.faults.Passes) (h : Transport.readWord width offset board = .error e after) :
    after.faults.Passes := by
  simp only [readWord_eq, FaultSwitch.access_of_passes hp] at h
  split at h <;> cases h
  exact hp.counted

lemma write_passes (hp : board.faults.Passes) (h : Transport.write width offset value board = .error e after) :
    after.faults.Passes := by
  rw [Transport.write] at h
  split at h
  · simp only [writeWord_eq, FaultSwitch.access_of_passes hp] at h
    split at h <;> cases h
    exact hp.counted
  · cases h
    exact hp

lemma load_eq (board : SimBoard) (offset : UInt32) (data : List UInt8) : board.load offset data =
    if board.window.Fits offset data.length then
      ⟨⟨board.window.bytes.overwrite offset.toNat data, board.window.log⟩, board.faults⟩
    else board := by
  obtain ⟨⟨bytes, log⟩, faults⟩ := board
  rw [load, Window.load]
  by_cases h : offset.toNat + data.length ≤ bytes.size
  · have hf : Window.fits bytes offset data.length = true := decide_eq_true h
    have hw : Window.Fits ⟨bytes, log⟩ offset data.length := h
    rw [if_pos hf, if_pos hw]
  · have hf : ¬ Window.fits bytes offset data.length = true := mt of_decide_eq_true h
    have hw : ¬ Window.Fits ⟨bytes, log⟩ offset data.length := h
    rw [if_neg hf, if_neg hw]

lemma write_error (h : Transport.write width offset value board = .error e after) : after.window = board.window := by
  rw [Transport.write] at h
  split at h
  · exact writeWord_error h
  · cases h
    rfl

end SimBoard

end RfBoard
