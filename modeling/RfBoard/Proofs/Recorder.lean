import RfBoard.Proofs.BoardAccess
import RfBoard.Proofs.ParameterExit
import RfBoard.Proofs.History

namespace RfBoard

structure Recorder (σ : Type) where
  inner : σ
  writes : List Write

instance {σ : Type} [Transport σ] : Transport (Recorder σ) where
  readWord width offset := fun ⟨inner, writes⟩ =>
    match Transport.readWord width offset inner with
    | .ok v inner => .ok v ⟨inner, writes⟩
    | .error e inner => .error e ⟨inner, writes⟩
  writeWord width offset value := fun ⟨inner, writes⟩ =>
    match Transport.writeWord width offset value inner with
    | .ok _ inner => .ok () ⟨inner, writes ++ [⟨offset, width, value⟩]⟩
    | .error e inner => .error e ⟨inner, writes⟩

namespace Recorder

lemma readWord_eq {σ : Type} [Transport σ] (width : Width) (offset : UInt32) (bus : Recorder σ) :
    Transport.readWord width offset bus =
      match Transport.readWord width offset bus.inner with
      | .ok v inner => .ok v ⟨inner, bus.writes⟩
      | .error e inner => .error e ⟨inner, bus.writes⟩ := rfl

lemma writeWord_eq {σ : Type} [Transport σ] (width : Width) (offset value : UInt32) (bus : Recorder σ) :
    Transport.writeWord width offset value bus =
      match Transport.writeWord width offset value bus.inner with
      | .ok _ inner => .ok () ⟨inner, bus.writes ++ [⟨offset, width, value⟩]⟩
      | .error e inner => .error e ⟨inner, bus.writes⟩ := rfl

variable {bus : Recorder SimBoard} {offset value : UInt32}

structure Open (bus : Recorder SimBoard) : Prop where
  passes : bus.inner.faults.Passes
  size : 588 ≤ bus.inner.window.bytes.size

def word (bus : Recorder SimBoard) (offset : UInt32) : UInt32 := bus.inner.window.word .u32 offset

def counted (bus : Recorder SimBoard) : Recorder SimBoard := ⟨bus.inner.counted, bus.writes⟩

def wrote (bus : Recorder SimBoard) (offset value : UInt32) : Recorder SimBoard :=
  ⟨⟨bus.inner.window.written .u32 offset value, bus.inner.faults.counted⟩, bus.writes ++ [⟨offset, .u32, value⟩]⟩

lemma Open.wrote (h : Open bus) (offset value : UInt32) : Open (bus.wrote offset value) :=
  ⟨h.passes, h.size.trans (Window.size_written ..).ge⟩

lemma Open.fits (h : Open bus) (ho : offset.toNat + 4 ≤ 588) : bus.inner.window.Fits offset Width.u32.bytes :=
  ho.trans h.size

lemma read_of_open (h : Open bus) (ho : offset.toNat + 4 ≤ 588) :
    Transport.read .u32 offset bus = .ok (bus.word offset) bus.counted := by
  rw [Transport.read, readWord_eq, SimBoard.readWord_of_passes h.passes (h.fits ho)]
  rfl

lemma write_of_open (h : Open bus) (ho : offset.toNat + 4 ≤ 588) :
    Transport.write .u32 offset value bus = .ok () (bus.wrote offset value) := by
  have hv := Width.le_maxValue_u32 value
  rw [Transport.write, if_pos hv, writeWord_eq, SimBoard.writeWord_of_passes h.passes (h.fits ho),
    Width.cut_of_le hv]
  rfl

lemma word_wrote (h : Open bus) (ho : offset.toNat + 4 ≤ 588) : (bus.wrote offset value).word offset = value :=
  Window.word_written (h.fits ho) (Width.le_maxValue_u32 value)

lemma word_wrote_of_disjoint {other : UInt32}
    (h : offset.toNat + 4 ≤ other.toNat ∨ other.toNat + 4 ≤ offset.toNat) :
    (bus.wrote offset value).word other = bus.word other := Window.word_written_of_disjoint h

structure OnlyReads (bus after : Recorder SimBoard) : Prop where
  window : after.inner.window = bus.inner.window
  writes : after.writes = bus.writes
  passes : bus.inner.faults.Passes → after.inner.faults.Passes

lemma OnlyReads.refl (bus : Recorder SimBoard) : OnlyReads bus bus := ⟨rfl, rfl, id⟩

lemma OnlyReads.trans {b c : Recorder SimBoard} (h : OnlyReads bus b) (h' : OnlyReads b c) : OnlyReads bus c :=
  ⟨h'.window.trans h.window, h'.writes.trans h.writes, fun hp => h'.passes (h.passes hp)⟩

lemma onlyReads_counted (bus : Recorder SimBoard) : OnlyReads bus bus.counted := ⟨rfl, rfl, id⟩

lemma OnlyReads.open {b : Recorder SimBoard} (h : OnlyReads bus b) (ho : Open bus) : Open b :=
  ⟨h.passes ho.passes, by rw [h.window]; exact ho.size⟩

lemma OnlyReads.word_eq {b : Recorder SimBoard} (h : OnlyReads bus b) : b.word offset = bus.word offset := by
  rw [word, word, h.window]

end Recorder

def Setup.standard (cal : Calibration) : Setup := { conversions := .standard cal, calibration := cal }

lemma RegisterMap.standard_layout : ∀ r ∈ standard, r.width = .u32 ∧ r.offset.toNat + 4 ≤ 588 := by decide

namespace Station

open Recorder

variable {cal : Calibration} {name : String} {v : ParamValue} {s : Station (Recorder SimBoard)} {r : Register}

lemma Names.layout (h : Names (.standard cal) name r) : r.width = .u32 ∧ r.offset.toNat + 4 ≤ 588 :=
  RegisterMap.standard_layout r (List.mem_of_find?_eq_some h.found)

variable {bus after : Recorder SimBoard} {value : UInt32} {e : TransportError}

lemma Names.read_eq (h : Names (.standard cal) name r) (ho : Open bus) :
    Transport.read r.width r.offset bus = .ok (bus.word r.offset) bus.counted := by
  obtain ⟨hw, hl⟩ := h.layout
  rw [hw, read_of_open ho hl]

lemma Names.write_eq (h : Names (.standard cal) name r) (ho : Open bus) :
    Transport.write r.width r.offset value bus = .ok () (bus.wrote r.offset value) := by
  obtain ⟨hw, hl⟩ := h.layout
  rw [hw, write_of_open ho hl]

lemma Names.eq_counted (h : Names (.standard cal) name r) (ho : Open bus)
    (hr : Transport.read r.width r.offset bus = .ok value after) : after = bus.counted := by
  rw [h.read_eq ho] at hr
  injection hr with _ ha
  exact ha.symm

lemma Names.read_ne_error (h : Names (.standard cal) name r) (ho : Open bus) :
    Transport.read r.width r.offset bus ≠ .error e after := by
  rw [h.read_eq ho]
  exact fun hh => nomatch hh

lemma Names.eq_wrote (h : Names (.standard cal) name r) (ho : Open bus)
    (hw : Transport.write r.width r.offset value bus = .ok () after) : after = bus.wrote r.offset value := by
  rw [h.write_eq ho] at hw
  injection hw with _ ha
  exact ha.symm

lemma Names.write_ne_error (h : Names (.standard cal) name r) (ho : Open bus) :
    Transport.write r.width r.offset value bus ≠ .error e after := by
  rw [h.write_eq ho]
  exact fun hh => nomatch hh

lemma readParameter_onlyReads (cal : Calibration) (name : String) (h : Open s.bus) :
    OnlyReads s.bus (perform (readParameter (.standard cal) name) s).2.bus := by
  have hx := readParameter_exit (.standard cal) name s
  rw [perform]
  revert hx
  generalize readParameter (.standard cal) name s = res
  intro hx
  cases hx with
  | probeIndex _ => exact .refl _
  | probed _ _ => exact .refl _
  | unknown _ _ _ => exact .refl _
  | failed hn _ hr => exact absurd hr (hn.read_ne_error h)
  | undefined hn _ hr _ =>
    obtain rfl := hn.eq_counted h hr
    exact onlyReads_counted _
  | read hn _ hr _ =>
    obtain rfl := hn.eq_counted h hr
    exact onlyReads_counted _

lemma readAll_onlyReads (cal : Calibration) (h : Open s.bus) :
    OnlyReads s.bus (readAll (.standard cal) s).2.bus := by
  refine readAll_preserves (P := fun after : Station (Recorder SimBoard) => OnlyReads s.bus after.bus) ?_ (.refl _)
  intro name after ho
  exact ho.trans (readParameter_onlyReads cal name (ho.open h))

lemma writeParameter_bus (cal : Calibration) (name : String) (v : ParamValue) (h : Open s.bus) :
    (perform (writeParameter (.standard cal) name v) s).2.bus = s.bus ∨
    (∃ r raw, Targets (.standard cal) name r ∧ ¬ IsPulse r v ∧
      (ConversionTable.standard cal).inverse r.name v.toReal = .ok raw ∧
      (perform (writeParameter (.standard cal) name v) s).2.bus = s.bus.wrote r.offset raw) ∨
    ∃ r, Targets (.standard cal) name r ∧ IsPulse r v ∧
      (perform (writeParameter (.standard cal) name v) s).2.bus = (s.bus.wrote r.offset 1).wrote r.offset 0 := by
  have hx := writeParameter_exit (.standard cal) name v s
  rw [perform]
  revert hx
  generalize writeParameter (.standard cal) name v s = res
  intro hx
  cases hx with
  | probeIndex _ => exact .inl rfl
  | derived _ _ => exact .inl rfl
  | unknown _ _ _ => exact .inl rfl
  | readOnly _ _ _ => exact .inl rfl
  | refused _ _ _ => exact .inl rfl
  | unraised ht _ hw => exact absurd hw (ht.write_ne_error h)
  | unreleased ht _ hw hw' =>
    obtain rfl := ht.eq_wrote h hw
    exact absurd hw' (ht.write_ne_error (h.wrote ..))
  | pulsed ht hi hw hw' =>
    obtain rfl := ht.eq_wrote h hw
    obtain rfl := ht.eq_wrote (h.wrote ..) hw'
    exact .inr (.inr ⟨_, ht, hi, rfl⟩)
  | failed ht _ _ hw => exact absurd hw (ht.write_ne_error h)
  | slipped ht hi hv hw _ =>
    obtain rfl := ht.eq_wrote h hw
    exact .inr (.inl ⟨_, _, ht, hi, hv, rfl⟩)
  | written ht hi hv hw _ =>
    obtain rfl := ht.eq_wrote h hw
    exact .inr (.inl ⟨_, _, ht, hi, hv, rfl⟩)

lemma writeParameter_plain_bus {raw : UInt32} (ht : Targets (.standard cal) name r) (hi : ¬ IsPulse r v)
    (hv : (ConversionTable.standard cal).inverse r.name v.toReal = .ok raw) (h : Open s.bus) :
    (perform (writeParameter (.standard cal) name v) s).2.bus = s.bus.wrote r.offset raw := by
  have hv' : (Setup.standard cal).conversions.inverse r.name v.toReal = .ok raw := hv
  rw [perform, writeParameter_of_plain _ name v s ht hi, writeRegister_eq, hv']
  simp only [ht.write_eq h]
  cases shown (.standard cal) r raw <;> rfl

end Station

end RfBoard
