import RfBoard.Bench.ScriptedBoard
import RfBoard.Proofs.BulkRead
import RfBoard.Proofs.CycleExit

namespace RfBoard

namespace Window

variable {w w' w'' : Window} {width width' : Width} {offset other value : UInt32}

structure Agrees (w w' : Window) : Prop where
  read_eq {width : Width} {offset : UInt32} : offset.toNat + width.bytes ≤ 508 ∨ 512 ≤ offset.toNat →
    w'.read width offset = w.read width offset

lemma Agrees.refl (w : Window) : w.Agrees w := ⟨fun _ => rfl⟩

lemma agrees_of_eq (h : w' = w) : w.Agrees w' := by
  rw [h]
  exact .refl w

lemma Agrees.trans (h : w.Agrees w') (h' : w'.Agrees w'') : w.Agrees w'' :=
  ⟨fun ho => (h'.read_eq ho).trans (h.read_eq ho)⟩

lemma write_ok (h : write width offset value w = .ok () w') :
    w.Fits offset width.bytes ∧ w' = w.written width offset value := by
  rw [write_eq] at h
  split at h
  · cases h
    exact ⟨‹_›, rfl⟩
  · cases h

lemma read_of_write (hv : value ≤ width.maxValue) (h : write width offset value w = .ok () w') :
    w'.read width offset = .ok value := by
  obtain ⟨hf, rfl⟩ := write_ok h
  have hf' : (w.written width offset value).Fits offset width.bytes := by rwa [Fits, size_written]
  rw [read_eq, if_pos hf', word_written hf hv]

lemma read_of_write_apart (h : write width offset value w = .ok () w')
    (hd : offset.toNat + width.bytes ≤ other.toNat ∨ other.toNat + width'.bytes ≤ offset.toNat) :
    w'.read width' other = w.read width' other := by
  obtain ⟨_, rfl⟩ := write_ok h
  simp only [read_eq, Fits, size_written, word_written_of_disjoint hd]

lemma agrees_of_write_ready (h : write .u32 Station.readyOffset value w = .ok () w') : w.Agrees w' :=
  ⟨fun ho => read_of_write_apart h ho.symm⟩

lemma agrees_overwrite_ready {data : List UInt8} (hl : data.length = 4) (w : Window) :
    w.Agrees ⟨w.bytes.overwrite Station.readyOffset.toNat data, w.log⟩ := by
  constructor
  intro width offset ho
  have hd : offset.toNat + width.bytes ≤ Station.readyOffset.toNat ∨
      Station.readyOffset.toNat + data.length ≤ offset.toNat := by rwa [hl]
  simp only [read_eq, Fits, word, Bytes.size_overwrite, Bytes.slice_overwrite_of_disjoint hd.symm]

end Window

namespace SimBoard

lemma agrees_poke_ready (board : SimBoard) (value : UInt32) :
    board.window.Agrees (board.poke Station.readyOffset value).window := by
  rw [poke, load_eq]
  split
  · exact Window.agrees_overwrite_ready (LittleEndian.length_encode 4 value.toNat) board.window
  · exact .refl _

end SimBoard

/-- A transport in front of a window. An access that fails changes nothing; that somebody else may have put
another ready word into the window is left open. -/
class Fronting (σ : Type) extends Transport σ where
  window : σ → Window
  readWord_ok {width : Width} {offset v : UInt32} {bus after : σ} : readWord width offset bus = .ok v after →
    (window bus).Agrees (window after) ∧ (window after).read width offset = .ok v
  readWord_error {width : Width} {offset : UInt32} {e : TransportError} {bus after : σ} :
    readWord width offset bus = .error e after → (window bus).Agrees (window after)
  writeWord_ok {width : Width} {offset value : UInt32} {bus after : σ} : value ≤ width.maxValue →
    writeWord width offset value bus = .ok () after → Window.write width offset value (window bus) = .ok () (window after)
  writeWord_error {width : Width} {offset value : UInt32} {e : TransportError} {bus after : σ} :
    writeWord width offset value bus = .error e after → (window bus).Agrees (window after)

namespace SimBoard

variable {width : Width} {offset value v : UInt32} {board after : SimBoard}

lemma read_window_of_readWord (h : Transport.readWord width offset board = .ok v after) :
    after.window = board.window ∧ board.window.read width offset = .ok v := by
  obtain ⟨_, hf, rfl, rfl⟩ := readWord_ok h
  exact ⟨rfl, by rw [Window.read_eq, if_pos hf]⟩

lemma write_window_of_writeWord (hv : value ≤ width.maxValue)
    (h : Transport.writeWord width offset value board = .ok () after) :
    Window.write width offset value board.window = .ok () after.window := by
  obtain ⟨_, hf, rfl⟩ := writeWord_ok h
  rw [Window.write_eq, if_pos hf, Width.cut_of_le hv]

instance : Fronting SimBoard where
  window := SimBoard.window
  readWord_ok h := by
    obtain ⟨hw, hr⟩ := read_window_of_readWord h
    exact ⟨Window.agrees_of_eq hw, by rw [hw, hr]⟩
  readWord_error h := Window.agrees_of_eq (readWord_error h)
  writeWord_ok hv h := write_window_of_writeWord hv h
  writeWord_error h := Window.agrees_of_eq (writeWord_error h)

end SimBoard

namespace ScriptedBoard

variable {α : Type} {f : AccessM SimBoard α} {a : α} {e : TransportError} {s s' : ScriptedBoard}

lemma attempt_eq (f : AccessM SimBoard α) (s : ScriptedBoard) : attempt f s =
    if s.failAfter = some 0 then .error (.device .scripted) { s with failAfter := none }
    else
      match f s.board with
      | .ok a board => .ok a { s with board, failAfter := s.failAfter.map (· - 1) }
      | .error e board => .error e { s with board, failAfter := s.failAfter.map (· - 1) } := by
  obtain ⟨board, _ | _ | n, ready, running⟩ := s <;> rfl

lemma attempt_ok (h : attempt f s = .ok a s') : f s.board = .ok a s'.board := by
  rw [attempt_eq] at h
  split at h
  · cases h
  · split at h <;> cases h
    assumption

lemma attempt_error (h : attempt f s = .error e s') : s'.board = s.board ∨ f s.board = .error e s'.board := by
  rw [attempt_eq] at h
  split at h
  · cases h
    exact .inl rfl
  · split at h <;> cases h
    exact .inr ‹_›

lemma agrees_prepareRead (offset : UInt32) (s : ScriptedBoard) :
    s.board.window.Agrees (prepareRead offset s).board.window := by
  obtain ⟨board, failAfter, ready, running⟩ := s
  by_cases ho : offset = Station.readyOffset
  · rcases ready with _ | _ | ⟨v, vs⟩ <;> simp only [prepareRead, if_pos ho]
    · exact .refl _
    · exact .refl _
    · rw [ho]
      exact SimBoard.agrees_poke_ready board v
  · simp only [prepareRead, if_neg ho]
    exact .refl _

instance : Fronting ScriptedBoard where
  window s := s.board.window
  readWord_ok {width offset v bus after} h := by
    obtain ⟨hw, hr⟩ := SimBoard.read_window_of_readWord (attempt_ok h)
    rw [hw]
    exact ⟨agrees_prepareRead offset bus, hr⟩
  readWord_error {width offset e bus after} h := by
    apply (agrees_prepareRead offset bus).trans
    rcases attempt_error h with hb | hb
    · rw [hb]
      exact .refl _
    · exact Window.agrees_of_eq (SimBoard.readWord_error hb)
  writeWord_ok hv h := SimBoard.write_window_of_writeWord hv (attempt_ok h)
  writeWord_error h := by
    rcases attempt_error h with hb | hb
    · rw [hb]
      exact .refl _
    · exact Window.agrees_of_eq (SimBoard.writeWord_error hb)

end ScriptedBoard

namespace Fronting

variable {σ : Type} [Fronting σ] {width : Width} {offset value : UInt32} {e : TransportError} {bus after : σ}

lemma write_ok (h : Transport.write width offset value bus = .ok () after) :
    value ≤ width.maxValue ∧ Window.write width offset value (window bus) = .ok () (window after) := by
  rw [Transport.write] at h
  split at h
  · rename_i hv
    exact ⟨hv, writeWord_ok hv h⟩
  · cases h

lemma write_error (h : Transport.write width offset value bus = .error e after) :
    (window bus).Agrees (window after) := by
  rw [Transport.write] at h
  split at h
  · exact writeWord_error h
  · cases h
    exact .refl _

lemma agrees_readBulk (offset : UInt32) (buffer : Bytes) (bus : σ) :
    (window bus).Agrees (window (Transport.readBulk offset buffer bus).bus) := by
  refine Transport.readBulk_preserves (P := fun after : σ => (window bus).Agrees (window after)) ?_ ?_ offset buffer (.refl _)
  · intro address v s s' hw hs
    exact hs.trans (readWord_ok hw).1
  · intro address e s s' he hs
    exact hs.trans (readWord_error he)

end Fronting

namespace Station

open Fronting

variable {σ : Type} [Fronting σ] {plan : Plan} {bus bus' : σ}

lemma Cleared.agrees (h : Cleared plan bus bus') : (Fronting.window bus).Agrees (Fronting.window bus') := by
  cases h with
  | unasked _ => exact .refl _
  | cleared _ hr _ hw =>
    have hc := writeWord_ok (UInt32.zero_le) hw
    exact (readWord_ok hr).1.trans (Window.agrees_of_write_ready hc)

lemma acquire_agrees (plan : Plan) (cal : Calibration) (s : Station σ) :
    (window s.bus).Agrees (window (perform (acquire plan cal) s).2.bus) ∧
      (perform (acquire plan cal) s).2.cache = s.cache := by
  have hx := acquire_exit plan cal s
  rw [perform]
  generalize acquire plan cal s = res at hx
  cases hx with
  | unread _ he => exact ⟨readWord_error he, rfl⟩
  | notReady _ hr => exact ⟨(readWord_ok hr).1, rfl⟩
  | uncleared _ hr _ he => exact ⟨(readWord_ok hr).1.trans (writeWord_error he), rfl⟩
  | unfetched hc _ => exact ⟨hc.agrees.trans (agrees_readBulk ..), rfl⟩
  | published hc _ _ => exact ⟨hc.agrees.trans (agrees_readBulk ..), rfl⟩

end Station

end RfBoard
