import RfBoard.Proofs.Recorder
import RfBoard.Proofs.WindowFront

/-!
The cache of a station over runs of accesses and cycles.
-/

namespace RfBoard

namespace RegisterMap

def readyNames : List String := ["state_wr_reg", "rd_reg_state"]

lemma standard_ready : ∀ r ∈ standard, r.name ∈ readyNames ∧ r.offset = Station.readyOffset ∨
    r.name ∉ readyNames ∧ (r.offset.toNat + 4 ≤ 508 ∨ 512 ≤ r.offset.toNat) := by decide

lemma standard_apart : ∀ r ∈ standard, ∀ r' ∈ standard,
    r.offset.toNat + 4 ≤ r'.offset.toNat ∨ r'.offset.toNat + 4 ≤ r.offset.toNat ∨ r.name = r'.name ∨
      r.name ∈ readyNames := by decide +kernel

lemma standard_notTelemetry : ∀ r ∈ standard,
    r.name ≠ DerivedChannel.probeIndexParameter ∧ Station.probedChannel? r.name = none := by decide +kernel

end RegisterMap

namespace Station

open Fronting RegisterMap

def Holds (setup : Setup) (w : Window) (name : String) (v : ParamValue) : Prop :=
  ∃ r raw, setup.registers.find name = some r ∧ w.read r.width r.offset = .ok raw ∧ shown setup r raw = .ok v

section Holds

variable {setup : Setup} {cal : Calibration} {name key : String} {w w' : Window} {r : Register} {raw : UInt32}
  {v : ParamValue}

lemma mem_of_find (h : (Setup.standard cal).registers.find name = some r) : r ∈ standard ∧ r.name = name :=
  ⟨List.mem_of_find?_eq_some h, by simpa using List.find?_some h⟩

lemma Holds.agrees (hn : name ∉ readyNames) (h : Holds (.standard cal) w name v) (ha : w.Agrees w') :
    Holds (.standard cal) w' name v := by
  obtain ⟨r, raw, hf, hr, hs⟩ := h
  obtain ⟨hm, rfl⟩ := mem_of_find hf
  obtain ⟨hn', _⟩ | ⟨_, hb⟩ := standard_ready r hm
  · exact absurd hn' hn
  refine ⟨r, raw, hf, ?_, hs⟩
  rw [ha.read_eq, hr]
  rwa [(standard_layout r hm).1]

lemma Holds.written_apart (hn : name ∉ readyNames) (h : Holds (.standard cal) w name v) (hr : r ∈ standard)
    (hne : name ≠ r.name) (hw : Window.write r.width r.offset raw w = .ok () w') : Holds (.standard cal) w' name v := by
  obtain ⟨r', raw', hf, hr', hs⟩ := h
  obtain ⟨hm, rfl⟩ := mem_of_find hf
  refine ⟨r', raw', hf, ?_, hs⟩
  rw [Window.read_of_write_apart hw, hr']
  rw [(standard_layout r hr).1, (standard_layout r' hm).1]
  obtain ha | ha | ha | ha := standard_apart r' hm r hr
  · exact .inr ha
  · exact .inl ha
  · exact absurd ha hne
  · exact absurd ha hn

end Holds

section Step

variable {σ : Type} [Fronting σ] {setup : Setup} {cal : Calibration} {name key : String} {s s' : Station σ} {bus : σ}
  {r : Register} {raw : UInt32} {v x : ParamValue}

def Coherent (setup : Setup) (name : String) (s : Station σ) : Prop :=
  ∀ v, s.cached name = some v → Holds setup (window s.bus) name v

lemma Coherent.kept (h : Coherent setup name s) (hc : s'.cache = s.cache)
    (hw : ∀ v, Holds setup (window s.bus) name v → Holds setup (window s'.bus) name v) : Coherent setup name s' := by
  intro v hv
  rw [cached, hc] at hv
  exact hw v (h v hv)

lemma Coherent.agrees (hn : name ∉ readyNames) (h : Coherent (.standard cal) name s)
    (ha : (window s.bus).Agrees (window s'.bus)) (hc : s'.cache = s.cache) : Coherent (.standard cal) name s' :=
  h.kept hc fun _ hv => hv.agrees hn ha

lemma Coherent.written_apart (hn : name ∉ readyNames) (h : Coherent (.standard cal) name s)
    (hr : Names (.standard cal) key r) (hne : name ≠ r.name)
    (hw : Transport.write r.width r.offset raw s.bus = .ok () bus) : Coherent (.standard cal) name { s with bus } :=
  h.kept rfl fun _ hv => hv.written_apart hn (mem_of_find hr.found).1 hne (write_ok hw).2

lemma Coherent.remembered (hx : name = key → Holds setup (window bus) name x)
    (h : name ≠ key → Coherent setup name { s with bus }) :
    Coherent setup name { s with bus, cache := s.cache.insert key x } := by
  intro v hv
  rw [cached, NameTable.find_insert] at hv
  split at hv
  · cases hv
    exact hx ‹_›
  · exact h ‹_› v hv

lemma Coherent.read (hn : name ∉ readyNames) (h : Coherent (.standard cal) name s) (hr : Names (.standard cal) key r)
    (hw : Transport.read r.width r.offset s.bus = .ok raw bus) (hs : shown (.standard cal) r raw = .ok x) :
    Coherent (.standard cal) name { s with bus, cache := s.cache.insert r.name x } := by
  obtain ⟨ha, hv⟩ := readWord_ok hw
  refine .remembered ?_ fun _ => h.agrees hn ha rfl
  rintro rfl
  exact ⟨r, raw, by rw [hr.name_eq, hr.found], hv, hs⟩

lemma Coherent.written (hn : name ∉ readyNames) (h : Coherent (.standard cal) name s)
    (hr : Names (.standard cal) key r) (hw : Transport.write r.width r.offset raw s.bus = .ok () bus)
    (hs : shown (.standard cal) r raw = .ok x) :
    Coherent (.standard cal) name { s with bus, cache := s.cache.insert r.name x } := by
  refine .remembered ?_ fun hne => h.written_apart hn hr hne hw
  rintro rfl
  obtain ⟨hv, hw⟩ := write_ok hw
  exact ⟨r, raw, by rw [hr.name_eq, hr.found], Window.read_of_write hv hw, hs⟩

lemma readParameter_coherent (hn : name ∉ readyNames) (h : Coherent (.standard cal) name s) (key : String) :
    Coherent (.standard cal) name (perform (readParameter (.standard cal) key) s).2 := by
  have hx := readParameter_exit (.standard cal) key s
  rw [perform]
  generalize readParameter (.standard cal) key s = res at hx
  cases hx with
  | probeIndex _ => exact h
  | probed _ _ => exact h
  | unknown _ _ _ => exact h
  | failed _ _ he => exact h.agrees hn (readWord_error he) rfl
  | undefined _ _ hr _ => exact h.agrees hn (readWord_ok hr).1 rfl
  | read hk _ hr hs => exact h.read hn hk hr hs

lemma shown_manualClear (cal : Calibration) :
    shown (.standard cal) (.settingInt Register.manualClear 236) 1 = .ok (.int 1) ∧
      shown (.standard cal) (.settingInt Register.manualClear 236) 0 = .ok (.int 0) := by
  have hv : ∀ raw, (ConversionTable.standard cal).forward Register.manualClear raw =
      Conversion.checkFinite Register.manualClear (Number.ofWord true raw) := fun _ => rfl
  have h₁ : (Number.ofWord true 1).isFinite = true ∧ Number.truncate (Number.ofWord true 1) = 1 := by decide +kernel
  have h₀ : (Number.ofWord true 0).isFinite = true ∧ Number.truncate (Number.ofWord true 0) = 0 := by decide +kernel
  constructor
  · change ((ConversionTable.standard cal).forward Register.manualClear 1).map (ParamValue.ofKind .int) = _
    rw [hv, Conversion.checkFinite, if_pos h₁.1, Except.map, ParamValue.ofKind, h₁.2]
  · change ((ConversionTable.standard cal).forward Register.manualClear 0).map (ParamValue.ofKind .int) = _
    rw [hv, Conversion.checkFinite, if_pos h₀.1, Except.map, ParamValue.ofKind, h₀.2]

lemma IsPulse.shown (hi : IsPulse r v) (hr : Names (.standard cal) key r) :
    shown (.standard cal) r 1 = .ok (.int 1) ∧ shown (.standard cal) r 0 = .ok (.int 0) := by
  have hf := hr.found
  rw [← hr.name_eq, hi.1] at hf
  have he : some (Register.settingInt Register.manualClear 236) = some r := hf
  rw [← Option.some.inj he]
  exact shown_manualClear cal

lemma writeParameter_coherent (hn : name ∉ readyNames) (h : Coherent (.standard cal) name s)
    (hd : name = key → ∀ e, (perform (writeParameter (.standard cal) key v) s).1 ≠ .error (.domain e)) :
    Coherent (.standard cal) name (perform (writeParameter (.standard cal) key v) s).2 := by
  have hx := writeParameter_exit (.standard cal) key v s
  rw [perform] at hd ⊢
  generalize writeParameter (.standard cal) key v s = res at hx hd
  cases hx with
  | probeIndex _ => exact h
  | derived _ _ => exact h
  | unknown _ _ _ => exact h
  | readOnly _ _ _ => exact h
  | unraised ht _ he => exact h.agrees hn (write_error he) rfl
  | unreleased ht hi h₁ h₀ =>
    -- the first write of the pulse is remembered, and the second changes nothing
    have hs := (hi.shown ht.toNames).1
    exact (h.written hn ht.toNames h₁ hs).agrees hn (write_error h₀) rfl
  | pulsed ht hi h₁ h₀ =>
    obtain ⟨hs₁, hs₀⟩ := hi.shown ht.toNames
    exact (h.written hn ht.toNames h₁ hs₁).written hn ht.toNames h₀ hs₀
  | refused _ _ _ => exact h
  | failed ht _ _ he => exact h.agrees hn (write_error he) rfl
  | slipped ht _ _ hw _ =>
    refine h.written_apart hn ht.toNames ?_ hw
    intro he
    exact hd (he.trans ht.name_eq) _ rfl
  | written ht _ _ hw hs => exact h.written hn ht.toNames hw hs

lemma readAll_coherent (hn : name ∉ readyNames) (h : Coherent (.standard cal) name s) :
    Coherent (.standard cal) name (readAll (.standard cal) s).2 :=
  readAll_preserves (fun key _ hs => readParameter_coherent hn hs key) h

lemma apply_coherent (hn : name ∉ readyNames) (h : Coherent (.standard cal) name s) (a : ParameterAccess)
    (hd : ∀ v e, a = .write name v → (a.apply (.standard cal) s).1 ≠ .written (.error (.domain e))) :
    Coherent (.standard cal) name (a.apply (.standard cal) s).2 := by
  cases a with
  | read key => exact readParameter_coherent hn h key
  | write key v =>
    refine writeParameter_coherent hn h ?_
    rintro rfl e he
    exact hd v e rfl (congrArg AccessOutcome.written he)
  | readAll =>
    rw [ParameterAccess.apply, Prod.map_snd, id_eq]
    exact readAll_coherent hn h

lemma cached_of_read (hr : r ∈ standard) (h : readParameter setup r.name s = .ok x s') :
    s'.cached r.name = some x := by
  obtain ⟨hp, hc⟩ := standard_notTelemetry r hr
  have hx := readParameter_exit setup r.name s
  rw [h] at hx
  cases hx with
  | probeIndex hp' => exact absurd hp' hp
  | probed _ hc' => exact nomatch hc.symm.trans hc'
  | read hn _ _ _ => rw [cached, NameTable.find_insert, if_pos hn.name_eq.symm]

lemma cached_of_write (hr : r ∈ standard) (h : writeParameter setup r.name v s = .ok () s') :
    ∃ x, s'.cached r.name = some x := by
  have hx := writeParameter_exit setup r.name v s
  rw [h] at hx
  cases hx with
  | probeIndex hp => exact absurd hp (standard_notTelemetry r hr).1
  | pulsed ht _ _ _ => exact ⟨_, by rw [cached, NameTable.find_insert, if_pos ht.name_eq.symm]⟩
  | written ht _ _ _ _ => exact ⟨_, by rw [cached, NameTable.find_insert, if_pos ht.name_eq.symm]⟩

end Step

variable {σ : Type} [Fronting σ] {cal : Calibration} {name : String} {start s : Station σ}
  {log : List (ParameterAccess × AccessOutcome)}

/-- Parameter accesses and cycles in any order, with the outcomes of the accesses. Between them anything may
happen that leaves cache and window alone, the ready word apart. -/
inductive Session (setup : Setup) (start : Station σ) : List (ParameterAccess × AccessOutcome) → Station σ → Prop
  | start : Session setup start [] start
  | access {log : List (ParameterAccess × AccessOutcome)} {s : Station σ} (a : ParameterAccess) :
      Session setup start log s → Session setup start (log ++ [(a, (a.apply setup s).1)]) (a.apply setup s).2
  | cycle {log : List (ParameterAccess × AccessOutcome)} {s : Station σ} (plan : Plan) (cal : Calibration) :
      Session setup start log s → Session setup start log (perform (acquire plan cal) s).2
  | outside {log : List (ParameterAccess × AccessOutcome)} {s s' : Station σ} : Session setup start log s →
      (window s.bus).Agrees (window s'.bus) → s'.cache = s.cache → Session setup start log s'

lemma Session.coherent (hn : name ∉ readyNames) (h₀ : start.cache = []) (h : Session (.standard cal) start log s)
    (hd : ∀ v e, (.write name v, .written (.error (.domain e))) ∉ log) : Coherent (.standard cal) name s := by
  induction h with
  | start =>
    intro v hv
    rw [cached, h₀] at hv
    exact nomatch hv
  | access a _ ih =>
    have hc := ih fun v e hm => hd v e (List.mem_append_left _ hm)
    refine apply_coherent hn hc a ?_
    rintro v e rfl he
    exact hd v e (List.mem_append_right _ (List.mem_singleton.mpr (Prod.ext rfl he.symm)))
  | @cycle _ s plan cal _ ih =>
    obtain ⟨ha, hc⟩ := acquire_agrees plan cal s
    exact (ih hd).agrees hn ha hc
  | outside _ ha hc ih => exact (ih hd).agrees hn ha hc

end Station

open Station

/-- After any accesses and cycles, whatever failed of them, a cached value is that of the word in the register,
unless a write of this name ended in a conversion error. Each read and write of a register that succeeds leaves
a value in the cache. -/
theorem cached_of_session {σ : Type} [Fronting σ] (cal : Calibration) (start s : Station σ)
    (log : List (ParameterAccess × AccessOutcome)) (h : Session (.standard cal) start log s) (h₀ : start.cache = []) :
    (∀ name ∉ RegisterMap.readyNames, (∀ v e, (.write name v, .written (.error (.domain e))) ∉ log) →
      ∀ v, s.cached name = some v →
        ∃ r raw x, RegisterMap.standard.find name = some r ∧
          (Fronting.window s.bus).read r.width r.offset = .ok raw ∧
          (ConversionTable.standard cal).forward name raw = .ok x ∧ v = .ofKind r.kind x) ∧
    ∀ r ∈ RegisterMap.standard,
      (∀ v s', readParameter (.standard cal) r.name s = .ok v s' → s'.cached r.name = some v) ∧
        ∀ v s', writeParameter (.standard cal) r.name v s = .ok () s' → ∃ x, s'.cached r.name = some x := by
  refine ⟨fun name hn hd v hv => ?_, fun r hr => ⟨fun v s' => cached_of_read hr, fun v s' => cached_of_write hr⟩⟩
  obtain ⟨r, raw, hf, hr, hs⟩ := h.coherent hn h₀ hd v hv
  rw [shown, (mem_of_find hf).2] at hs
  cases hx : (Setup.standard cal).conversions.forward name raw with
  | error e =>
    rw [hx] at hs
    cases hs
  | ok x =>
    rw [hx] at hs
    cases hs
    exact ⟨r, raw, x, hf, hr, hx, rfl⟩

def Station.cutShort : Station ScriptedBoard := { bus := { board := .ofSize 588, failAfter := some 1 } }

theorem cached_of_session_cutShort : ∃ log s, Session (.standard .standard) cutShort log s ∧
    log = [(.write Register.manualClear (.int 1), .written (.error (.transport (.device .scripted))))] ∧
    s.cached Register.manualClear = some (.int 1) ∧
    ∃ r raw x, RegisterMap.standard.find Register.manualClear = some r ∧
      s.bus.board.window.read r.width r.offset = .ok raw ∧
      (ConversionTable.standard .standard).forward Register.manualClear raw = .ok x ∧
      ParamValue.int 1 = .ofKind r.kind x := by
  have ht : Targets (.standard .standard) Register.manualClear (.settingInt Register.manualClear 236) :=
    { notProbe := by decide, found := rfl, notDerived := by decide, writable := rfl }
  obtain ⟨bus, h₁, hb⟩ : ∃ bus, Transport.write .u32 236 1 cutShort.bus = .ok () bus ∧ bus.failAfter = some 0 := by
    have hf : cutShort.bus.board.window.Fits 236 Width.u32.bytes := SimBoard.fits_ofSize (by decide)
    have hw : Transport.writeWord .u32 236 1 cutShort.bus.board = .ok () _ := SimBoard.writeWord_of_passes ⟨rfl, rfl⟩ hf
    have ha := ScriptedBoard.attempt_eq (Transport.writeWord .u32 236 1) cutShort.bus
    rw [if_neg (by decide), hw] at ha
    rw [Transport.write, if_pos (Width.le_maxValue_u32 1)]
    exact ⟨_, ha, rfl⟩
  have h₀ : Transport.write .u32 236 0 bus = .error (.device .scripted) { bus with failAfter := none } := by
    rw [Transport.write, if_pos (Width.le_maxValue_u32 0)]
    exact (ScriptedBoard.attempt_eq ..).trans (if_pos hb)
  have hi : (Register.settingInt Register.manualClear 236).name = Register.manualClear ∧
      (ParamValue.int 1).toInt64 = 1 := ⟨rfl, rfl⟩
  have ha : (ParameterAccess.write Register.manualClear (.int 1)).apply (.standard .standard) cutShort =
      (.written (.error (.transport (.device .scripted))),
        { cutShort with bus := { bus with failAfter := none }, cache := [(Register.manualClear, .int 1)] }) := by
    rw [ParameterAccess.apply, perform, writeParameter_of_targets _ _ _ _ ht, if_pos hi, pulse_eq]
    simp only [Register.settingInt, h₁, h₀]
    rfl
  have hs : Session (.standard .standard) cutShort _ _ := Session.start.access (.write Register.manualClear (.int 1))
  rw [ha] at hs
  have hc : NameTable.find [(Register.manualClear, ParamValue.int 1)] Register.manualClear = some (.int 1) :=
    List.lookup_cons_self
  have hd : ∀ v e, (ParameterAccess.write Register.manualClear v, AccessOutcome.written (.error (.domain e))) ∉
      [] ++ [(ParameterAccess.write Register.manualClear (.int 1),
        AccessOutcome.written (.error (.transport (.device .scripted))))] := by
    intro v e hm
    cases List.mem_singleton.mp hm
  have hn : Register.manualClear ∉ RegisterMap.readyNames := by decide
  exact ⟨_, _, hs, rfl, hc, (cached_of_session .standard cutShort _ _ hs rfl).1 _ hn hd _ hc⟩

end RfBoard
