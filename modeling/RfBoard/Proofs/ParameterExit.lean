import RfBoard.Proofs.CycleExit
import RfBoard.Station.Parameters

namespace RfBoard.Station

variable {σ : Type} [Transport σ]

structure Names (setup : Setup) (name : String) (r : Register) : Prop where
  notProbe : name ≠ DerivedChannel.probeIndexParameter
  found : setup.registers.find name = some r

inductive ReadExit (setup : Setup) (name : String) (s : Station σ) :
    EStateM.Result StationError (Station σ) ParamValue → Prop
  | probeIndex : name = DerivedChannel.probeIndexParameter →
      ReadExit setup name s (.ok (.int s.store.probeIndex) s)
  | probed {c : DerivedChannel} : name ≠ DerivedChannel.probeIndexParameter → probedChannel? name = some c →
      ReadExit setup name s (.ok (.real (s.store.probeValue c)) s)
  | unknown : name ≠ DerivedChannel.probeIndexParameter → probedChannel? name = none →
      setup.registers.find name = none → ReadExit setup name s (.error (.unknownParameter name) s)
  | failed {r : Register} {e : TransportError} {bus : σ} : Names setup name r → probedChannel? name = none →
      Transport.read r.width r.offset s.bus = .error e bus →
      ReadExit setup name s (.error (.transport e) { s with bus })
  | undefined {r : Register} {raw : UInt32} {e : DomainError} {bus : σ} : Names setup name r →
      probedChannel? name = none → Transport.read r.width r.offset s.bus = .ok raw bus →
      shown setup r raw = .error e → ReadExit setup name s (.error (.domain e) { s with bus })
  | read {r : Register} {raw : UInt32} {v : ParamValue} {bus : σ} : Names setup name r →
      probedChannel? name = none → Transport.read r.width r.offset s.bus = .ok raw bus →
      shown setup r raw = .ok v →
      ReadExit setup name s (.ok v { s with bus, cache := s.cache.insert r.name v })

structure Targets (setup : Setup) (name : String) (r : Register) : Prop extends Names setup name r where
  notDerived : DerivedChannel.ofName? name = none
  writable : r.isWritable = true

def IsPulse (r : Register) (v : ParamValue) : Prop := r.name = Register.manualClear ∧ v.toInt64 = 1

inductive WriteExit (setup : Setup) (name : String) (v : ParamValue) (s : Station σ) :
    EStateM.Result StationError (Station σ) Unit → Prop
  | probeIndex : name = DerivedChannel.probeIndexParameter →
      WriteExit setup name v s (.ok () { s with store := s.store.setProbeIndex v.toInt64 })
  | derived : name ≠ DerivedChannel.probeIndexParameter → DerivedChannel.ofName? name ≠ none →
      WriteExit setup name v s (.error (.readOnly name) s)
  | unknown : name ≠ DerivedChannel.probeIndexParameter → DerivedChannel.ofName? name = none →
      setup.registers.find name = none → WriteExit setup name v s (.error (.unknownParameter name) s)
  | readOnly {r : Register} : Names setup name r → DerivedChannel.ofName? name = none →
      r.isWritable = false → WriteExit setup name v s (.error (.readOnly r.name) s)
  | unraised {r : Register} {e : TransportError} {bus : σ} : Targets setup name r → IsPulse r v →
      Transport.write r.width r.offset 1 s.bus = .error e bus →
      WriteExit setup name v s (.error (.transport e) { s with bus })
  | unreleased {r : Register} {e : TransportError} {bus bus' : σ} : Targets setup name r → IsPulse r v →
      Transport.write r.width r.offset 1 s.bus = .ok () bus →
      Transport.write r.width r.offset 0 bus = .error e bus' →
      WriteExit setup name v s (.error (.transport e) { s with bus := bus', cache := s.cache.insert r.name (.int 1) })
  | pulsed {r : Register} {bus bus' : σ} : Targets setup name r → IsPulse r v →
      Transport.write r.width r.offset 1 s.bus = .ok () bus → Transport.write r.width r.offset 0 bus = .ok () bus' →
      WriteExit setup name v s
        (.ok () { s with bus := bus', cache := (s.cache.insert r.name (.int 1)).insert r.name (.int 0) })
  | refused {r : Register} {e : DomainError} : Targets setup name r → ¬ IsPulse r v →
      setup.conversions.inverse r.name v.toReal = .error e → WriteExit setup name v s (.error (.domain e) s)
  | failed {r : Register} {raw : UInt32} {e : TransportError} {bus : σ} : Targets setup name r → ¬ IsPulse r v →
      setup.conversions.inverse r.name v.toReal = .ok raw →
      Transport.write r.width r.offset raw s.bus = .error e bus →
      WriteExit setup name v s (.error (.transport e) { s with bus })
  | slipped {r : Register} {raw : UInt32} {e : DomainError} {bus : σ} : Targets setup name r → ¬ IsPulse r v →
      setup.conversions.inverse r.name v.toReal = .ok raw →
      Transport.write r.width r.offset raw s.bus = .ok () bus → shown setup r raw = .error e →
      WriteExit setup name v s (.error (.domain e) { s with bus })
  | written {r : Register} {raw : UInt32} {x : ParamValue} {bus : σ} : Targets setup name r → ¬ IsPulse r v →
      setup.conversions.inverse r.name v.toReal = .ok raw →
      Transport.write r.width r.offset raw s.bus = .ok () bus → shown setup r raw = .ok x →
      WriteExit setup name v s (.ok () { s with bus, cache := s.cache.insert r.name x })

variable (setup : Setup) (name : String) (v : ParamValue) (s : Station σ) {r : Register}

lemma readRegister_eq : readRegister setup r s =
    match Transport.read r.width r.offset s.bus with
    | .error e bus => .error (.transport e) { s with bus }
    | .ok raw bus =>
      match shown setup r raw with
      | .error e => .error (.domain e) { s with bus }
      | .ok x => .ok x { s with bus, cache := s.cache.insert r.name x } := by
  simp only [readRegister, bind, EStateM.bind, access_eq]
  rcases Transport.read r.width r.offset s.bus with ⟨raw, bus⟩ | ⟨e, bus⟩
  · rcases hs : shown setup r raw with e | x <;> simp only [hs] <;> rfl
  · rfl

lemma pulse_eq : pulse r s =
    match Transport.write r.width r.offset 1 s.bus with
    | .error e bus => .error (.transport e) { s with bus }
    | .ok _ bus =>
      match Transport.write r.width r.offset 0 bus with
      | .error e bus' => .error (.transport e) { s with bus := bus', cache := s.cache.insert r.name (.int 1) }
      | .ok _ bus' =>
        .ok () { s with bus := bus', cache := (s.cache.insert r.name (.int 1)).insert r.name (.int 0) } := by
  simp only [pulse, bind, EStateM.bind, access_eq]
  rcases Transport.write r.width r.offset 1 s.bus with ⟨u, bus⟩ | ⟨e, bus⟩
  · simp only [remember, modify, modifyGet, MonadStateOf.modifyGet, EStateM.modifyGet]
    rcases Transport.write r.width r.offset 0 bus with ⟨u, bus'⟩ | ⟨e, bus'⟩ <;> rfl
  · rfl

lemma writeRegister_eq : writeRegister setup r v s =
    match setup.conversions.inverse r.name v.toReal with
    | .error e => .error (.domain e) s
    | .ok raw =>
      match Transport.write r.width r.offset raw s.bus with
      | .error e bus => .error (.transport e) { s with bus }
      | .ok _ bus =>
        match shown setup r raw with
        | .error e => .error (.domain e) { s with bus }
        | .ok x => .ok () { s with bus, cache := s.cache.insert r.name x } := by
  simp only [writeRegister, bind, EStateM.bind]
  rcases setup.conversions.inverse r.name v.toReal with e | raw
  · rfl
  · simp only [convert, pure, EStateM.pure, access_eq]
    rcases Transport.write r.width r.offset raw s.bus with ⟨u, bus⟩ | ⟨e, bus⟩
    · rcases shown setup r raw with e | x <;> rfl
    · rfl

lemma Names.name_eq (h : Names setup name r) : r.name = name := by
  have hf := h.found
  rw [RegisterMap.find] at hf
  simpa using List.find?_some hf

theorem readParameter_exit : ReadExit setup name s (readParameter setup name s) := by
  by_cases hp : name = DerivedChannel.probeIndexParameter
  · rw [readParameter, if_pos hp]
    exact .probeIndex hp
  rw [readParameter, if_neg hp]
  cases hc : probedChannel? name with
  | some c => exact .probed hp hc
  | none =>
    cases hf : setup.registers.find name with
    | none =>
      simp only [register, hf]
      exact .unknown hp hc hf
    | some r =>
      have hn : Names setup name r := ⟨hp, hf⟩
      simp only [register, hf, pure_bind, readRegister_eq]
      cases hr : Transport.read r.width r.offset s.bus with
      | error e bus => exact .failed hn hc hr
      | ok raw bus =>
        dsimp only
        cases hs : shown setup r raw with
        | error e => exact .undefined hn hc hr hs
        | ok x => exact .read hn hc hr hs

lemma readEach_preserves {P : Station σ → Prop} {setup : Setup} {s : Station σ}
    (h : ∀ name s, P s → P (perform (readParameter setup name) s).2) (rs : List Register) (hs : P s) :
    P (readEach setup rs s).2 := by
  induction rs generalizing s with
  | nil => exact hs
  | cons r rs ih => exact ih (h r.name s hs)

lemma readAll_preserves {P : Station σ → Prop} {setup : Setup} {s : Station σ}
    (h : ∀ name s, P s → P (perform (readParameter setup name) s).2) (hs : P s) : P (readAll setup s).2 := by
  rw [readAll]
  exact readEach_preserves h _ hs

lemma pulse_exit (ht : Targets setup name r) (hi : IsPulse r v) : WriteExit setup name v s (pulse r s) := by
  rw [pulse_eq]
  cases h₁ : Transport.write r.width r.offset 1 s.bus with
  | error e bus => exact .unraised ht hi h₁
  | ok u bus =>
    dsimp only
    cases h₀ : Transport.write r.width r.offset 0 bus with
    | error e bus' => exact .unreleased ht hi h₁ h₀
    | ok u bus' => exact .pulsed ht hi h₁ h₀

lemma writeRegister_exit (ht : Targets setup name r) (hi : ¬ IsPulse r v) :
    WriteExit setup name v s (writeRegister setup r v s) := by
  rw [writeRegister_eq]
  cases hv : setup.conversions.inverse r.name v.toReal with
  | error e => exact .refused ht hi hv
  | ok raw =>
    dsimp only
    cases hw : Transport.write r.width r.offset raw s.bus with
    | error e bus => exact .failed ht hi hv hw
    | ok u bus =>
      dsimp only
      cases hs : shown setup r raw with
      | error e => exact .slipped ht hi hv hw hs
      | ok x => exact .written ht hi hv hw hs

lemma writeParameter_of_targets (ht : Targets setup name r) : writeParameter setup name v s =
    if r.name = Register.manualClear ∧ v.toInt64 = 1 then pulse r s else writeRegister setup r v s := by
  simp only [writeParameter, if_neg ht.notProbe, register, ht.found, ht.notDerived, ht.writable, pure_bind,
    Option.isSome_none, Bool.false_eq_true, Bool.not_true, if_false]
  by_cases hi : r.name = Register.manualClear ∧ v.toInt64 = 1
  · simp only [if_pos hi]
  · simp only [if_neg hi]

lemma writeParameter_of_plain (ht : Targets setup name r) (hi : ¬ IsPulse r v) :
    writeParameter setup name v s = writeRegister setup r v s :=
  (writeParameter_of_targets setup name v s ht).trans (if_neg hi)

theorem writeParameter_exit : WriteExit setup name v s (writeParameter setup name v s) := by
  by_cases hp : name = DerivedChannel.probeIndexParameter
  · rw [writeParameter, if_pos hp]
    exact .probeIndex hp
  cases hc : DerivedChannel.ofName? name with
  | some c =>
    rw [writeParameter, if_neg hp, hc]
    exact .derived hp (by rw [hc]; exact Option.some_ne_none c)
  | none =>
    cases hf : setup.registers.find name with
    | none =>
      simp only [writeParameter, if_neg hp, register, hf, hc]
      exact .unknown hp hc hf
    | some r =>
      cases hw : r.isWritable with
      | false =>
        simp only [writeParameter, if_neg hp, register, hf, hc, hw, pure_bind]
        exact .readOnly ⟨hp, hf⟩ hc hw
      | true =>
        have ht : Targets setup name r := ⟨⟨hp, hf⟩, hc, hw⟩
        rw [writeParameter_of_targets setup name v s ht]
        split
        · exact pulse_exit setup name v s ht ‹_›
        · exact writeRegister_exit setup name v s ht ‹_›

lemma writeParameter_preserves {P : σ → Prop} {setup : Setup} {name : String} {s : Station σ}
    (hok : ∀ {r : Register} {raw : UInt32} {bus bus' : σ}, Targets setup name r →
      Transport.write r.width r.offset raw bus = .ok () bus' → P bus → P bus')
    (herr : ∀ {r : Register} {raw : UInt32} {e : TransportError} {bus bus' : σ}, Targets setup name r →
      Transport.write r.width r.offset raw bus = .error e bus' → P bus → P bus')
    (v : ParamValue) (hs : P s.bus) : P (perform (writeParameter setup name v) s).2.bus := by
  have hx := writeParameter_exit setup name v s
  rw [perform]
  generalize writeParameter setup name v s = res at hx
  cases hx with
  | probeIndex _ => exact hs
  | derived _ _ => exact hs
  | unknown _ _ _ => exact hs
  | readOnly _ _ _ => exact hs
  | unraised ht _ he => exact herr ht he hs
  | unreleased ht _ h₁ h₀ => exact herr ht h₀ (hok ht h₁ hs)
  | pulsed ht _ h₁ h₀ => exact hok ht h₀ (hok ht h₁ hs)
  | refused _ _ _ => exact hs
  | failed ht _ _ he => exact herr ht he hs
  | slipped ht _ _ hw _ => exact hok ht hw hs
  | written ht _ _ hw _ => exact hok ht hw hs

end RfBoard.Station
