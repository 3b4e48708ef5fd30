import RfBoard.Proofs.BoardAccess

/-!
Requests as their caller sees them, who hands over bytes and finds them changed.
-/

namespace RfBoard

def Width.field : Width → Nat
  | u8 => 4
  | u16 => 6
  | u32 => 8

namespace ValueRequest

variable {r : ValueRequest} {width : Width} {v : UInt32} {raw : Vector UInt8 12} {i k : Nat}

lemma slice_encode (r : ValueRequest) (width : Width) : Bytes.slice r.encode.toArray width.field width.bytes =
    (LittleEndian.encode width.bytes (r.value width).toNat).toArray := by
  cases width with
  | u8 =>
    have h : r.value8 = UInt8.ofNat r.value8.toUInt32.toNat := by simp
    exact congrArg (fun b => #[b]) h
  | u16 =>
    have h : (r.value .u16).toNat = r.value16.toNat := UInt16.toNat_toUInt32 _
    rw [h]
    exact congrArg List.toArray (bytes16 r.value16)
  | u32 => exact congrArg List.toArray (bytes32 r.value32)

lemma getElem?_encode_field (r : ValueRequest) (hk : k < width.bytes) :
    r.encode[width.field + k]? = some (LittleEndian.byteAt (r.value width).toNat k) := by
  have h := congrArg (·[k]?) (slice_encode r width)
  simp only [Bytes.getElem?_slice, if_pos hk, List.getElem?_toArray, LittleEndian.getElem?_encode _ hk] at h
  exact h

lemma getElem?_encode_setValue (hi : ¬ (width.field ≤ i ∧ i < width.field + width.bytes)) :
    (r.setValue width v).encode[i]? = r.encode[i]? := by
  have h : ∀ j : Fin 12, ¬ (width.field ≤ j ∧ j < width.field + width.bytes) →
      (r.setValue width v).encode[j] = r.encode[j] := by
    intro j hj
    cases width <;> fin_cases j <;> first | rfl | exact absurd (by decide) hj
  rcases Nat.lt_or_ge i 12 with hi' | hi'
  · rw [Vector.getElem?_eq_getElem hi', Vector.getElem?_eq_getElem hi']
    exact congrArg some (h ⟨i, hi'⟩ hi)
  · rw [Vector.getElem?_eq_none hi', Vector.getElem?_eq_none hi']

lemma getElem?_decode_field (hk : k < width.bytes) :
    raw[width.field + k]? = some (LittleEndian.byteAt ((decode raw).value width).toNat k) := by
  have hp : width.field + k ≠ 5 := by cases width <;> simp only [Width.field, Width.bytes] at * <;> omega
  rw [← getElem?_encode_field _ hk, encode_decode, Vector.getElem?_setIfInBounds_ne hp.symm]

end ValueRequest

namespace Window

open ValueRequest

inductive Accepts (w : Window) (command : Command) : Argument → Prop
  | value {raw : Vector UInt8 12} {width : Width} : command.width? = some width →
      w.Fits (decode raw).offset width.bytes → Accepts w command (.value raw)
  | waveform {r : WaveformRequest} {buffer : Bytes} : command = .readWaveform → buffer.size = r.length →
      w.Fits r.offset r.length → Accepts w command (.waveform r buffer)

inductive Serves (w : Window) (command : Command) : Argument → Argument → Window → Prop
  | read {raw raw' : Vector UInt8 12} {width : Width} : command.width? = some width → command.isWrite = false →
      (∀ k < width.bytes, raw'[width.field + k]? = w.bytes[(decode raw).offset.toNat + k]?) →
      raw'[5] = 0 →
      (∀ i, i ≠ 5 → ¬ (width.field ≤ i ∧ i < width.field + width.bytes) → raw'[i]? = raw[i]?) →
      Serves w command (.value raw) (.value raw') w
  | write {raw : Vector UInt8 12} {width : Width} {bytes : Bytes} {log : Array Write} :
      command.width? = some width → command.isWrite = true →
      (∀ k < width.bytes, bytes[(decode raw).offset.toNat + k]? = raw[width.field + k]?) →
      (∀ i, ¬ ((decode raw).offset.toNat ≤ i ∧ i < (decode raw).offset.toNat + width.bytes) →
        bytes[i]? = w.bytes[i]?) →
      log = (if w.log.size < 4096 then w.log else w.log.extract 1).push
        ⟨(decode raw).offset, width, (decode raw).value width⟩ →
      Serves w command (.value raw) (.value raw) ⟨bytes, log⟩
  | waveform {r : WaveformRequest} {buffer buffer' : Bytes} : command = .readWaveform →
      buffer'.size = r.length → (∀ k < r.length, buffer'[k]? = w.bytes[r.offset.toNat + k]?) →
      Serves w command (.waveform r buffer) (.waveform r buffer') w

/-- A request in the caller's own bytes: an answer is written over the argument. -/
def dispatch (code : UInt32) : EStateM TransportError (Argument × Window) Unit := fun (argument, w) =>
  match Command.ofCode? code with
  | none => .error (.request (.unknownCommand code)) (argument, w)
  | some command =>
    match command.width?, argument with
    | some width, .value raw =>
      let r := decode raw
      if command.isWrite then
        match write width r.offset (r.value width) w with
        | .ok _ w => .ok () (.value raw, w)
        | .error e w => .error (.device e) (.value raw, w)
      else
        match w.read width r.offset with
        | .ok v => .ok () (.value (r.setValue width v).encode, w)
        | .error e => .error (.device e) (.value raw, w)
    | none, .waveform r buffer =>
      match r.checkBuffer buffer.size with
      | .error e => .error (.request e) (.waveform r buffer, w)
      | .ok _ =>
        match w.readBytes r.offset r.length with
        | .ok bytes => .ok () (.waveform r (buffer.overwrite 0 bytes.toList), w)
        | .error e => .error (.device e) (.waveform r buffer, w)
    | _, argument => .error (.device (.argumentMismatch command)) (argument, w)

variable {w : Window} {command : Command} {argument : Argument} {code : UInt32} {raw : Vector UInt8 12}
  {width : Width} {r : WaveformRequest} {buffer : Bytes}

lemma readBytes_eq (w : Window) (offset : UInt32) (length : Nat) : w.readBytes offset length =
    if w.Fits offset length then .ok (w.bytes.slice offset.toNat length) else .error (.outsideWindow length offset) := by
  by_cases h : w.Fits offset length
  · have hf : fits w.bytes offset length = true := decide_eq_true h
    rw [if_pos h, readBytes, if_pos hf]
  · have hf : ¬ fits w.bytes offset length = true := mt of_decide_eq_true h
    rw [if_neg h, readBytes, if_neg hf]

lemma overwrite_all {new : List UInt8} (h : buffer.size = new.length) : buffer.overwrite 0 new = new.toArray := by
  apply Array.ext_getElem?
  intro k
  rw [Bytes.getElem?_overwrite]
  by_cases hk : k < new.length
  · rw [if_pos (by omega), Nat.sub_zero, List.getElem?_toArray]
  · have hl : new.toArray.size ≤ k := by
      rw [List.size_toArray]
      omega
    rw [if_neg (by omega), Array.getElem?_eq_none hl, Array.getElem?_eq_none (by omega)]

lemma dispatch_eq (code : UInt32) (argument : Argument) (w : Window) : dispatch code (argument, w) =
    match serve code argument w with
    | .ok left w => .ok () (left, w)
    | .error e w => .error e (argument, w) := by
  rw [dispatch, serve]
  cases Command.ofCode? code with
  | none => rfl
  | some command =>
    dsimp only
    cases command.width? with
    | some width =>
      cases argument with
      | value raw =>
        dsimp only
        split
        · simp only [writeValue]
          cases write width (decode raw).offset ((decode raw).value width) w <;> rfl
        · simp only [readValue]
          cases w.read width (decode raw).offset <;> rfl
      | waveform r buffer => rfl
    | none =>
      cases argument with
      | value raw => rfl
      | waveform r buffer =>
        simp only [readWaveform, WaveformRequest.checkBuffer, readBytes_eq]
        by_cases hb : buffer.size = r.length
        · by_cases hf : w.Fits r.offset r.length
          · have hl : buffer.size = (w.bytes.slice r.offset.toNat r.length).toList.length := by
              rw [Array.length_toList, Bytes.size_slice hf, hb]
            simp only [if_pos hb, if_pos hf, overwrite_all hl]
          · simp only [if_pos hb, if_neg hf]
        · simp only [if_neg hb]

lemma serves_read (hc : command.width? = some width) (hr : command.isWrite = false)
    (hf : w.Fits (decode raw).offset width.bytes) : w.Serves command (.value raw)
      (.value ((decode raw).setValue width (w.word width (decode raw).offset)).encode) w := by
  refine .read hc hr (fun k hk => ?_) rfl fun i hi hf => ?_
  · have hs := LittleEndian.getElem?_encode (w.word width (decode raw).offset).toNat hk
    rw [encode_word hf, Array.getElem?_toList, Bytes.getElem?_slice, if_pos hk] at hs
    rw [getElem?_encode_field _ hk, value_setValue_of_le _ (word_le hf), hs]
  · rw [getElem?_encode_setValue hf, encode_decode, Vector.getElem?_setIfInBounds_ne hi.symm]

lemma serves_write (hc : command.width? = some width) (hw : command.isWrite = true)
    (hf : w.Fits (decode raw).offset width.bytes) : w.Serves command (.value raw) (.value raw)
      (w.written width (decode raw).offset ((decode raw).value width)) := by
  have hl := LittleEndian.length_encode width.bytes ((decode raw).value width).toNat
  refine .write hc hw (fun k hk => ?_) (fun i hi => ?_) rfl
  · rw [Bytes.getElem?_overwrite, hl, if_pos ⟨by omega, by omega, by rw [Fits] at hf; omega⟩, Nat.add_sub_cancel_left,
      LittleEndian.getElem?_encode _ hk, getElem?_decode_field hk]
  · rw [Bytes.getElem?_overwrite, hl, if_neg fun h => hi ⟨h.1, h.2.1⟩]

lemma serves_waveform (hf : w.Fits r.offset r.length) : w.Serves .readWaveform (.waveform r buffer)
    (.waveform r (w.bytes.slice r.offset.toNat r.length)) w :=
  .waveform rfl (Bytes.size_slice hf) fun k hk => by rw [Bytes.getElem?_slice, if_pos hk]

lemma accepts_value_iff (hc : command.width? = some width) :
    w.Accepts command (.value raw) ↔ w.Fits (decode raw).offset width.bytes := by
  refine ⟨fun h => ?_, .value hc⟩
  cases h with
  | value hc' hf =>
    cases hc.symm.trans hc'
    exact hf

lemma accepts_waveform_iff : w.Accepts .readWaveform (.waveform r buffer) ↔
    buffer.size = r.length ∧ w.Fits r.offset r.length := by
  refine ⟨fun h => ?_, fun h => .waveform rfl h.1 h.2⟩
  cases h with
  | waveform _ hb hf => exact ⟨hb, hf⟩

lemma eq_readWaveform (hc : command.width? = none) : command = .readWaveform := by
  cases command <;> first | rfl | cases hc

lemma serve_code (command : Command) (argument : Argument) (w : Window) :
    (w.Accepts command argument ∧
      ∃ left w', serve command.code argument w = .ok left w' ∧ w.Serves command argument left w') ∨
    (¬ w.Accepts command argument ∧
      ∃ e, serve command.code argument w = .error e w ∧ e.isUnknownCommand = false) := by
  rw [serve, Command.ofCode?_code]
  dsimp only
  cases hc : command.width? with
  | some width =>
    cases argument with
    | value raw =>
      rw [accepts_value_iff hc]
      by_cases hf : w.Fits (decode raw).offset width.bytes
      · refine .inl ⟨hf, ?_⟩
        cases hw : command.isWrite with
        | true =>
          simp only [if_true, writeValue, write_eq, if_pos hf]
          exact ⟨_, _, rfl, serves_write hc hw hf⟩
        | false =>
          simp only [Bool.false_eq_true, if_false, readValue, read_eq, if_pos hf]
          exact ⟨_, _, rfl, serves_read hc hw hf⟩
      · refine .inr ⟨hf, .device (.outsideWindow width.bytes (decode raw).offset), ?_, rfl⟩
        cases command.isWrite with
        | true => simp only [if_true, writeValue, write_eq, if_neg hf]
        | false => simp only [Bool.false_eq_true, if_false, readValue, read_eq, if_neg hf]
    | waveform r buffer =>
      refine .inr ⟨fun h => ?_, _, rfl, rfl⟩
      cases h with
      | waveform h _ _ =>
        subst h
        cases hc
  | none =>
    obtain rfl := eq_readWaveform hc
    cases argument with
    | value raw =>
      refine .inr ⟨fun h => ?_, _, rfl, rfl⟩
      cases h with
      | value h _ => cases hc.symm.trans h
    | waveform r buffer =>
      rw [accepts_waveform_iff]
      simp only [readWaveform, WaveformRequest.checkBuffer, readBytes_eq]
      by_cases hb : buffer.size = r.length
      · by_cases hf : w.Fits r.offset r.length
        · simp only [if_pos hb, if_pos hf]
          exact .inl ⟨⟨hb, hf⟩, _, _, rfl, serves_waveform hf⟩
        · simp only [if_pos hb, if_neg hf]
          exact .inr ⟨fun h => hf h.2, _, rfl, rfl⟩
      · simp only [if_neg hb]
        exact .inr ⟨fun h => hb h.1, _, rfl, rfl⟩

lemma serve_unknown (h : ∀ command : Command, command.code ≠ code) :
    serve code argument w = .error (.request (.unknownCommand code)) w := by
  have hn : Command.ofCode? code = none := by
    cases ho : Command.ofCode? code with
    | none => rfl
    | some command => exact absurd (Command.code_of_ofCode? ho) (h command)
  rw [serve, hn]

lemma code_injective {c d : Command} (h : c.code = d.code) : c = d :=
  Option.some.inj ((Command.ofCode?_code c).symm.trans ((congrArg Command.ofCode? h).trans (Command.ofCode?_code d)))

/-- The requests that are carried out are those that the board takes, and a code that no command has is named
in the refusal. What was refused has changed neither the window nor the caller's bytes, and what was carried
out has changed what its command is for and nothing else. -/
theorem dispatch_atomic (code : UInt32) (argument : Argument) (w : Window) :
    ((∃ s, dispatch code (argument, w) = .ok () s) ↔
      ∃ command : Command, command.code = code ∧ w.Accepts command argument) ∧
    (dispatch code (argument, w) = .error (.request (.unknownCommand code)) (argument, w) ↔
      ∀ command : Command, command.code ≠ code) ∧
    match dispatch code (argument, w) with
    | .ok _ (left, w') => ∃ command : Command, command.code = code ∧ w.Serves command argument left w'
    | .error _ s => s = (argument, w) := by
  rw [dispatch_eq]
  by_cases hk : ∃ command : Command, command.code = code
  · obtain ⟨command, rfl⟩ := hk
    have hu : ¬ ∀ c : Command, c.code ≠ command.code := fun h => h command rfl
    rcases serve_code command argument w with ⟨ha, left, w', hs, hd⟩ | ⟨ha, e, hs, he⟩
    · rw [hs]
      exact ⟨⟨fun _ => ⟨command, rfl, ha⟩, fun _ => ⟨_, rfl⟩⟩, ⟨nofun, fun h => absurd h hu⟩, command, rfl, hd⟩
    · rw [hs]
      refine ⟨⟨nofun, fun ⟨c, hc, h⟩ => absurd (code_injective hc ▸ h) ha⟩, ⟨fun h => ?_, fun h => absurd h hu⟩, rfl⟩
      cases h
      cases he
  · have hn : ∀ command : Command, command.code ≠ code := fun command h => hk ⟨command, h⟩
    rw [serve_unknown hn]
    exact ⟨⟨nofun, fun ⟨c, hc, _⟩ => absurd hc (hn c)⟩, ⟨fun _ => hn, fun _ => rfl⟩, rfl⟩

end Window

end RfBoard
