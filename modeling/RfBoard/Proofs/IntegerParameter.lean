import RfBoard.Proofs.BoardAccess
import RfBoard.Proofs.ConversionRange
import RfBoard.Proofs.History
import RfBoard.Proofs.ParameterExit

namespace RfBoard

namespace Double

variable {v : Int}

lemma isFinite_ofInt (h : v.natAbs < 2 ^ 64) : (Float.ofInt v).isFinite = true := by
  by_cases hv : v = 0
  · subst hv
    decide +kernel
  · refine Number.isFinite_of_nearest_ne_zero ?_
    have hn := nearest_ofInt v h
    omega

end Double

namespace Conversion

open Double

variable {quantity : String} {cal : Calibration} {v : Int64}

lemma isWord_nearest_iff : IsWord true (Number.nearest (Float.ofInt v.toInt)) ↔ IsWord true v.toInt := by
  have hl := v.le_toInt
  have hu := v.toInt_lt
  have hn := nearest_ofInt v.toInt (by omega)
  simp only [IsWord, if_true]
  omega

lemma inverse_ofInt (h : IsWord true v.toInt) :
    identity.inverse quantity cal (Float.ofInt v.toInt) = .ok (UInt32.ofInt v.toInt) := by
  have hl := v.le_toInt
  have hu := v.toInt_lt
  have hn := nearest_ofInt v.toInt (by omega)
  have hw := isWord_nearest_iff.mpr h
  have hv : Number.nearest (Float.ofInt v.toInt) = v.toInt := by
    simp only [IsWord, if_true] at h
    omega
  rw [nearest_eq_roundAway] at hw hv
  rw [inverse_identity, toWord_inside quantity (isFinite_ofInt (by omega)) hw, hv]

lemma inverse_ofInt_outside (h : ¬ IsWord true v.toInt) :
    identity.inverse quantity cal (Float.ofInt v.toInt) = .error (.outOfRange quantity (Float.ofInt v.toInt)) := by
  have hl := v.le_toInt
  have hu := v.toInt_lt
  have hw := isWord_nearest_iff.not.mpr h
  rw [nearest_eq_roundAway] at hw
  rw [inverse_identity, toWord_outside quantity (isFinite_ofInt (by omega)) hw]

lemma forward_ofInt (quantity : String) (cal : Calibration) (h : IsWord true v.toInt) : ∃ x, Number.truncate x = v ∧
    identity.forward quantity cal (UInt32.ofInt v.toInt) = .ok x := by
  have hf := isFinite_ofWord true (UInt32.ofInt v.toInt)
  obtain ⟨s, m, e, he⟩ := Number.isFinite_eq_true.mp hf
  have hr : real (Number.ofWord true (UInt32.ofInt v.toInt)) = v.toInt := by rw [real_ofWord, wordInt_ofInt h]
  exact ⟨_, truncate_of_exact he hr, (forward_eq_ok_iff quantity cal _).mpr ⟨rfl, hf⟩⟩

end Conversion

namespace Width

def Admits (w : Width) (n : Int) : Prop :=
  if w = .u32 then -2 ^ 31 ≤ n ∧ n ≤ 2 ^ 31 - 1 else 0 ≤ n ∧ n ≤ 2 ^ w.bits - 1

instance (w : Width) (n : Int) : Decidable (w.Admits n) := by
  unfold Admits
  infer_instance

lemma admits_iff {w : Width} {n : Int} : w.Admits n ↔ Conversion.IsWord true n ∧ UInt32.ofInt n ≤ w.maxValue := by
  have ht := Conversion.toNat_ofInt n
  have hm := (UInt32.ofInt n).toNat_lt
  rw [UInt32.le_iff_toNat_le]
  cases w with
  | u8 =>
    have hmax : (maxValue .u8).toNat = 255 := rfl
    simp only [Admits, Conversion.IsWord, bits, bytes, reduceCtorEq, if_true, if_false]
    omega
  | u16 =>
    have hmax : (maxValue .u16).toNat = 65535 := rfl
    simp only [Admits, Conversion.IsWord, bits, bytes, reduceCtorEq, if_true, if_false]
    omega
  | u32 =>
    have hmax : (maxValue .u32).toNat = 4294967295 := rfl
    simp only [Admits, Conversion.IsWord, if_true]
    omega

end Width

lemma byteAt_ofInt {k : Nat} (n : Int) (hk : k < 4) :
    LittleEndian.byteAt (UInt32.ofInt n).toNat k = UInt8.ofInt (n / 256 ^ k) := by
  have ht := Conversion.toNat_ofInt n
  have hb (z : Int) : ((UInt8.ofInt z).toNat : Int) = z % 256 := by
    rw [UInt8.ofInt, UInt8.toNat_ofNat']
    omega
  rw [← UInt8.toNat_inj, LittleEndian.byteAt, UInt8.toNat_ofNat', ← Int.ofNat_inj, hb]
  interval_cases k <;> omega

namespace Station

variable {setup : Setup} {name : String} {r : Register} {v : Int64} {s : Station SimBoard}

structure Direct (setup : Setup) (name : String) (r : Register) (s : Station SimBoard) : Prop where
  target : Targets setup name r
  kind : r.kind = .int
  unconverted : setup.conversions.find r.name = .identity
  passes : s.bus.faults.Passes
  fits : s.bus.window.Fits r.offset r.width.bytes

structure Stored (r : Register) (v : Int64) (before after : Window) : Prop where
  bytes : ∀ k < r.width.bytes, after.bytes[r.offset.toNat + k]? = some (UInt8.ofInt (v.toInt / 256 ^ k))
  others : ∀ i, i < r.offset.toNat ∨ r.offset.toNat + r.width.bytes ≤ i → after.bytes[i]? = before.bytes[i]?

lemma stored_written {w : Window} (h : w.Fits r.offset r.width.bytes) :
    Stored r v w (w.written r.width r.offset (UInt32.ofInt v.toInt)) where
  bytes k hk := by
    have h₄ : r.width.bytes ≤ 4 := by cases r.width <;> decide
    have hs : r.offset.toNat + k < w.bytes.size := lt_of_lt_of_le (by omega) h
    rw [Window.written, Bytes.getElem?_overwrite, LittleEndian.length_encode, if_pos ⟨by omega, by omega, hs⟩,
      Nat.add_sub_cancel_left, LittleEndian.getElem?_encode _ hk, byteAt_ofInt _ (by omega)]
  others i hi := by
    rw [Window.written, Bytes.getElem?_overwrite, LittleEndian.length_encode, if_neg (by omega)]

def afterTransfer (s : Station SimBoard) (r : Register) (v : Int64) : Station SimBoard :=
  { s with
    bus := ⟨s.bus.window.written r.width r.offset (UInt32.ofInt v.toInt), s.bus.faults.counted⟩
    cache := s.cache.insert r.name (.int v) }

inductive Excess (r : Register) (v : Int64) : StationError → Prop
  | outOfRange : ¬ Conversion.IsWord true v.toInt → Excess r v (.domain (.outOfRange r.name (Float.ofInt v.toInt)))
  | tooWide : Conversion.IsWord true v.toInt → Excess r v (.transport (.tooWide (UInt32.ofInt v.toInt) r.width))

section Direct

variable (h : Direct setup name r s)
include h

lemma Direct.shown_ofInt (hv : Conversion.IsWord true v.toInt) :
    shown setup r (UInt32.ofInt v.toInt) = .ok (.int v) := by
  obtain ⟨x, hx, hf⟩ := Conversion.forward_ofInt r.name setup.conversions.calibration hv
  rw [shown, ConversionTable.forward, h.unconverted, hf, h.kind]
  exact congrArg (fun n => Except.ok (ParamValue.int n)) hx

lemma Direct.write_eq (hv : ¬ IsPulse r (.int v)) (ha : r.width.Admits v.toInt) :
    writeParameter setup name (.int v) s = .ok () (s.afterTransfer r v) := by
  obtain ⟨hw, hle⟩ := Width.admits_iff.mp ha
  have hi : setup.conversions.inverse r.name (ParamValue.int v).toReal = .ok (UInt32.ofInt v.toInt) := by
    rw [ConversionTable.inverse, h.unconverted]
    exact Conversion.inverse_ofInt hw
  rw [writeParameter_of_plain setup name _ s h.target hv, writeRegister_eq]
  simp only [hi, SimBoard.write_of_passes hle h.passes h.fits, h.shown_ofInt hw, afterTransfer]

lemma Direct.read_eq (ha : r.width.Admits v.toInt) :
    ∃ s', readParameter setup name (s.afterTransfer r v) = .ok (.int v) s' := by
  obtain ⟨hw, hle⟩ := Width.admits_iff.mp ha
  have hp : probedChannel? name = none := by rw [probedChannel?, h.target.notDerived, Option.filter_none]
  have hf : (s.afterTransfer r v).bus.window.Fits r.offset r.width.bytes := by
    rw [Window.Fits, afterTransfer, Window.size_written]
    exact h.fits
  have hr : Transport.read r.width r.offset (s.afterTransfer r v).bus = _ :=
    SimBoard.readWord_of_passes h.passes.counted hf
  have hword : (s.afterTransfer r v).bus.window.word r.width r.offset = UInt32.ofInt v.toInt :=
    Window.word_written h.fits hle
  rw [hword] at hr
  rw [readParameter, if_neg h.target.notProbe, hp]
  simp only [register, h.target.found, pure_bind, readRegister_eq, hr, h.shown_ofInt hw]
  exact ⟨_, rfl⟩

lemma Direct.write_refused (hv : ¬ IsPulse r (.int v)) (ha : ¬ r.width.Admits v.toInt) :
    ∃ e, Excess r v e ∧ writeParameter setup name (.int v) s = .error e s := by
  rw [writeParameter_of_plain setup name _ s h.target hv, writeRegister_eq, ConversionTable.inverse, h.unconverted]
  simp only [ParamValue.toReal]
  by_cases hw : Conversion.IsWord true v.toInt
  · have hle : ¬ UInt32.ofInt v.toInt ≤ r.width.maxValue := fun hle => ha (Width.admits_iff.mpr ⟨hw, hle⟩)
    have ht : Transport.write r.width r.offset (UInt32.ofInt v.toInt) s.bus =
        .error (.tooWide (UInt32.ofInt v.toInt) r.width) s.bus := if_neg hle
    exact ⟨_, .tooWide hw, by simp only [Conversion.inverse_ofInt hw, ht]⟩
  · exact ⟨_, .outOfRange hw, by simp only [Conversion.inverse_ofInt_outside hw]⟩

/-- An integer goes into a register exactly or not at all. It goes in just if the width admits it; then the bytes of
the register are its own and no others have changed, and the cache and the next read give it back. If it does not,
all stays as it was. -/
theorem writeParameter_int (hv : ¬ IsPulse r (.int v)) :
    ((∃ s', writeParameter setup name (.int v) s = .ok () s') ↔ r.width.Admits v.toInt) ∧
    (∀ s', writeParameter setup name (.int v) s = .ok () s' → Stored r v s.bus.window s'.bus.window ∧
      s'.cached name = some (.int v) ∧ ∃ s'', readParameter setup name s' = .ok (.int v) s'') ∧
    (∀ e s', writeParameter setup name (.int v) s = .error e s' → s' = s ∧ Excess r v e) := by
  by_cases ha : r.width.Admits v.toInt
  · have hw := h.write_eq hv ha
    refine ⟨⟨fun _ => ha, fun _ => ⟨_, hw⟩⟩, fun s' hs => ?_, fun e s' he => ?_⟩
    · cases hw.symm.trans hs
      refine ⟨stored_written h.fits, ?_, h.read_eq ha⟩
      rw [cached, afterTransfer, NameTable.find_insert, if_pos h.target.toNames.name_eq.symm]
    · cases hw.symm.trans he
  · obtain ⟨e, hx, hw⟩ := h.write_refused hv ha
    refine ⟨⟨fun ⟨s', hs⟩ => ?_, fun h => absurd h ha⟩, fun s' hs => ?_, fun e' s' he => ?_⟩
    · cases hw.symm.trans hs
    · cases hw.symm.trans hs
    · cases hw.symm.trans he
      exact ⟨rfl, hx⟩

end Direct

theorem writeParameter_int_least :
    (Direct {} "lock_en" (.settingInt "lock_en" 0) (ofSize SimBoard.windowSize) ∧
      ¬ IsPulse (.settingInt "lock_en" 0) (.int (-2147483648))) ∧
    ∃ s', writeParameter {} "lock_en" (.int (-2147483648)) (ofSize SimBoard.windowSize) = .ok () s' ∧
      Stored (.settingInt "lock_en" 0) (-2147483648) (ofSize SimBoard.windowSize).bus.window s'.bus.window ∧
      s'.cached "lock_en" = some (.int (-2147483648)) ∧
      ∃ s'', readParameter {} "lock_en" s' = .ok (.int (-2147483648)) s'' := by
  have hd : Direct {} "lock_en" (.settingInt "lock_en" 0) (ofSize SimBoard.windowSize) :=
    { target := { notProbe := by decide, found := by decide, notDerived := by decide, writable := rfl }
      kind := rfl
      unconverted := rfl
      passes := ⟨rfl, rfl⟩
      fits := SimBoard.fits_ofSize (by decide) }
  have hp : ¬ IsPulse (.settingInt "lock_en" 0) (.int (-2147483648)) := fun h => absurd h.1 (by decide)
  obtain ⟨hok, hstored, -⟩ := writeParameter_int hd hp
  obtain ⟨s', hs⟩ := hok.mpr (by decide)
  exact ⟨⟨hd, hp⟩, s', hs, hstored s' hs⟩

end Station

end RfBoard
