import RfBoard.Proofs.BoardAccess
import RfBoard.Proofs.ConversionRange
import RfBoard.Proofs.History
import RfBoard.Proofs.ParameterExit
import RfBoard.Proofs.WordConversion

/-!
Writes that end in a conversion error. The word is converted back after it was written, so such an error need not
leave the board as it was.
-/

namespace RfBoard.Station

variable {setup : Setup} {name : String} {v : ParamValue} {s s' : Station SimBoard} {r : Register} {raw : UInt32}
  {e : DomainError}

structure Refuses (setup : Setup) (name : String) (v : ParamValue) (r : Register) (e : DomainError) : Prop where
  target : Targets setup name r
  plain : ¬ IsPulse r v
  inverse : setup.conversions.inverse r.name v.toReal = .error e

structure Slips (setup : Setup) (name : String) (v : ParamValue) (s : Station SimBoard) (r : Register) (raw : UInt32)
    (e : DomainError) : Prop where
  target : Targets setup name r
  plain : ¬ IsPulse r v
  inverse : setup.conversions.inverse r.name v.toReal = .ok raw
  holds : raw ≤ r.width.maxValue
  passes : s.bus.faults.Passes
  fits : s.bus.window.Fits r.offset r.width.bytes
  forward : setup.conversions.forward r.name raw = .error e

def afterSlip (s : Station SimBoard) (r : Register) (raw : UInt32) : Station SimBoard :=
  { s with bus := ⟨s.bus.window.written r.width r.offset raw, s.bus.faults.counted⟩ }

lemma shown_eq_error : shown setup r raw = .error e ↔ setup.conversions.forward r.name raw = .error e := by
  rw [shown]
  cases setup.conversions.forward r.name raw <;> simp [Except.map]

lemma Refuses.writeParameter_eq (h : Refuses setup name v r e) :
    writeParameter setup name v s = .error (.domain e) s := by
  rw [writeParameter_of_plain setup name v s h.target h.plain, writeRegister_eq, h.inverse]

lemma Slips.writeParameter_eq (h : Slips setup name v s r raw e) :
    writeParameter setup name v s = .error (.domain e) (s.afterSlip r raw) := by
  have hw := SimBoard.write_of_passes h.holds h.passes h.fits
  have hs := shown_eq_error.mpr h.forward
  rw [writeParameter_of_plain setup name v s h.target h.plain, writeRegister_eq]
  simp only [h.inverse, hw, hs, afterSlip]

lemma writeParameter_domain (h : writeParameter setup name v s = .error (.domain e) s') :
    s' = s ∧ (∃ r, Refuses setup name v r e) ∨
      ∃ r raw, Slips setup name v s r raw e ∧ s' = s.afterSlip r raw := by
  have hx := writeParameter_exit setup name v s
  rw [h] at hx
  cases hx with
  | refused ht hi hv => exact .inl ⟨rfl, _, ht, hi, hv⟩
  | slipped ht hi hv hw hs =>
    obtain ⟨hl, hp, hf, rfl⟩ := SimBoard.write_ok hw
    exact .inr ⟨_, _, ⟨ht, hi, hv, hl, hp, hf, shown_eq_error.mp hs⟩, rfl⟩

structure Untouched (before after : Station SimBoard) : Prop where
  window : after.bus.window = before.bus.window
  cache : after.cache = before.cache
  probeIndex : after.store.probeIndex = before.store.probeIndex

/-- How writes end in a conversion error, and when none of them leaves a trace. -/
theorem writeParameter_domain_iff (setup : Setup) (name : String) (v : ParamValue) (s : Station SimBoard) :
    (∀ e s', writeParameter setup name v s = .error (.domain e) s' ↔
      s' = s ∧ (∃ r, Refuses setup name v r e) ∨
        ∃ r raw, Slips setup name v s r raw e ∧ s' = s.afterSlip r raw) ∧
    ((∀ e s', writeParameter setup name v s = .error (.domain e) s' → Untouched s s') ↔
      ∀ r raw e, Slips setup name v s r raw e → s.bus.window.written r.width r.offset raw = s.bus.window) := by
  refine ⟨fun e s' => ⟨writeParameter_domain, ?_⟩, ?_, ?_⟩
  · rintro (⟨rfl, r, hr⟩ | ⟨r, raw, hs, rfl⟩)
    · exact hr.writeParameter_eq
    · exact hs.writeParameter_eq
  · intro h r raw e hs
    exact (h e _ hs.writeParameter_eq).window
  · intro h e s' hw
    obtain ⟨rfl, _⟩ | ⟨r, raw, hs, rfl⟩ := writeParameter_domain hw
    · exact ⟨rfl, rfl, rfl⟩
    · exact ⟨h r raw e hs, rfl, rfl⟩

theorem writeParameter_domain_reflection : ∃ e s',
    writeParameter {} "SP_P_2" (.real 1e7) (ofSize SimBoard.windowSize) = .error (.domain e) s' ∧
      (ofSize SimBoard.windowSize).bus.window.log = #[] ∧ s'.bus.window.log = #[⟨216, .u32, 1024⟩] := by
  have ht : ((Number.ofWord true 1024 / 1024 * 1.5818e-10 / 1.5818e-10).sqrt == 1) = true := by decide +kernel
  have hs : Slips {} "SP_P_2" (.real 1e7) (ofSize SimBoard.windowSize) (.settingReal "SP_P_2" 216) 1024
      (.divisionByZero "SP_P_2") :=
    { target := { notProbe := by decide, found := by decide, notDerived := by decide, writable := rfl }
      plain := fun h => absurd h.1 (by decide)
      inverse := rfl
      holds := by decide
      passes := ⟨rfl, rfl⟩
      fits := SimBoard.fits_ofSize (by decide)
      forward := Conversion.forward_reflection rfl ht }
  exact ⟨_, _, hs.writeParameter_eq, rfl, rfl⟩

section NotFinite

variable {σ : Type} [Transport σ] {x : Float}

def IsEnd (x : Float) (n : Int64) : Prop :=
  x.isNaN = true ∧ n = 0 ∨ x.isNaN = false ∧ (n = Int64.maxValue ∨ n = Int64.minValue)

lemma isEnd_truncate (h : x.isFinite = false) : IsEnd x (Number.truncate x) := by
  have hn : x.isNaN = x.toModel.unpack.isNaN := rfl
  rw [IsEnd, Number.truncate, Number.exact, hn]
  rcases Double.unpack_of_not_isFinite h with hx | ⟨s, hx⟩
  · rw [hx]
    exact .inl ⟨rfl, rfl⟩
  · rw [hx]
    refine .inr ⟨rfl, ?_⟩
    cases s with
    | positive => exact .inl rfl
    | negative => exact .inr rfl

def IsRefusal (name : String) (e : StationError) : Prop :=
  e = .unknownParameter name ∨ e = .readOnly name ∨ e = .domain (.notFinite name)

lemma writeParameter_refused (hp : name ≠ DerivedChannel.probeIndexParameter) (hx : x.isFinite = false)
    (s : Station σ) : ∃ e, IsRefusal name e ∧ writeParameter setup name (.real x) s = .error e s := by
  have hinverse (r : Register) : setup.conversions.inverse r.name x = .error (.notFinite r.name) :=
    Conversion.inverse_not_finite _ _ _ hx
  have hpulse {r : Register} : ¬ IsPulse r (.real x) := fun h => by
    rcases isEnd_truncate hx with ⟨-, ht⟩ | ⟨-, ht | ht⟩ <;> cases ht.symm.trans h.2
  have hexit := writeParameter_exit setup name (.real x) s
  generalize writeParameter setup name (.real x) s = res at hexit ⊢
  cases hexit with
  | probeIndex h => exact absurd h hp
  | derived _ _ => exact ⟨_, .inr (.inl rfl), rfl⟩
  | unknown _ _ _ => exact ⟨_, .inl rfl, rfl⟩
  | readOnly hn _ _ =>
    rw [hn.name_eq]
    exact ⟨_, .inr (.inl rfl), rfl⟩
  | unraised _ hi _ => exact absurd hi hpulse
  | unreleased _ hi _ _ => exact absurd hi hpulse
  | pulsed _ hi _ _ => exact absurd hi hpulse
  | refused ht _ hi =>
    cases (hinverse _).symm.trans hi
    rw [ht.toNames.name_eq]
    exact ⟨_, .inr (.inr rfl), rfl⟩
  | failed _ _ hi _ => cases (hinverse _).symm.trans hi
  | slipped _ _ hi _ _ => cases (hinverse _).symm.trans hi
  | written _ _ hi _ _ => cases (hinverse _).symm.trans hi

/-- A value that is not finite is refused, and all stays as it was, just if the name is not that of the probe
point's place. That takes it: as zero if it is no number, else as an end of the 64-bit range. -/
theorem writeParameter_not_finite (setup : Setup) (name : String) (s : Station σ) (hx : x.isFinite = false) :
    (name ≠ DerivedChannel.probeIndexParameter ↔
      ∃ e, IsRefusal name e ∧ writeParameter setup name (.real x) s = .error e s) ∧
    (name = DerivedChannel.probeIndexParameter → ∃ n, IsEnd x n ∧
      writeParameter setup name (.real x) s = .ok () { s with store := s.store.setProbeIndex n }) := by
  have haccepted (hp : name = DerivedChannel.probeIndexParameter) : writeParameter setup name (.real x) s =
      .ok () { s with store := s.store.setProbeIndex (Number.truncate x) } := by
    rw [writeParameter, if_pos hp]
    rfl
  refine ⟨⟨fun hp => writeParameter_refused hp hx s, ?_⟩, fun hp => ⟨_, isEnd_truncate hx, haccepted hp⟩⟩
  rintro ⟨e, -, he⟩ hp
  rw [haccepted hp] at he
  cases he

theorem writeParameter_not_finite_register : (0 / 0 : Float).isFinite = false ∧
    ∃ e, IsRefusal "sp_freq" e ∧
      writeParameter {} "sp_freq" (.real (0 / 0)) (ofSize SimBoard.windowSize) = .error e (ofSize SimBoard.windowSize) := by
  have hx : (0 / 0 : Float).isFinite = false := by decide +kernel
  exact ⟨hx, (writeParameter_not_finite {} "sp_freq" _ hx).1.mp (by decide)⟩

theorem probeIndex_of_not_a_number : (0 / 0 : Float).isNaN = true ∧ ∃ s s' : Station SimBoard,
    s.store.probeIndex = 7 ∧ writeParameter {} DerivedChannel.probeIndexParameter (.real (0 / 0)) s = .ok () s' ∧
      s'.store.probeIndex = 0 := by
  have ht : Number.truncate (0 / 0) = 0 := by decide +kernel
  refine ⟨by decide +kernel, { ofSize SimBoard.windowSize with store := { probeIndex := 7 } }, _, rfl, rfl, ?_⟩
  exact ht

end NotFinite

end RfBoard.Station
