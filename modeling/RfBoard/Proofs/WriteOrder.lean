import RfBoard.Proofs.WritableBytes

/-!
Writes to different registers in any order.
-/

namespace RfBoard

namespace RegisterMap

lemma standard_writable_apart : ∀ r ∈ standard, ∀ q ∈ standard, r.isWritable = true → q.isWritable = true →
    r.offset.toNat + 4 ≤ q.offset.toNat ∨ q.offset.toNat + 4 ≤ r.offset.toNat ∨ r.name = q.name := by decide +kernel

lemma standard_notDerived : ∀ r ∈ standard, DerivedChannel.ofName? r.name = none := by decide +kernel

end RegisterMap

namespace Station

section WriteEach

variable {σ : Type} [Transport σ]

def writeEach (setup : Setup) : List (String × ParamValue) → Station σ →
    List (String × Except StationError Unit) × Station σ
  | [], s => ([], s)
  | (name, v) :: ws, s =>
    let (x, s) := perform (writeParameter setup name v) s
    (writeEach setup ws s).map ((name, x) :: ·) id

end WriteEach

structure Effect where
  result : Except StationError Unit
  word : Option UInt32 := none
  kept : Option ParamValue := none

def Effect.store (size : Nat) (r : Register) (raw : UInt32) (x : Except DomainError ParamValue) : Effect :=
  if raw ≤ r.width.maxValue then
    if r.offset.toNat + r.width.bytes ≤ size then
      { result := (x.mapError .domain).map fun _ => (), word := raw, kept := x.toOption }
    else { result := .error (.transport (.device (.outsideWindow r.width.bytes r.offset))) }
  else { result := .error (.transport (.tooWide raw r.width)) }

def effect (setup : Setup) (size : Nat) (r : Register) (v : ParamValue) : Effect :=
  if r.name = Register.manualClear ∧ v.toInt64 = 1 then .store size r 0 (.ok (.int 0))
  else match setup.conversions.inverse r.name v.toReal with
    | .error e => { result := .error (.domain e) }
    | .ok raw => .store size r raw (shown setup r raw)

structure Contents where
  bytes : Bytes
  cached : String → Option ParamValue

def contents (s : Station SimBoard) : Contents := ⟨s.bus.window.bytes, s.cached⟩

namespace Contents

def after (c : Contents) (r : Register) (e : Effect) : Contents where
  bytes := e.word.elim c.bytes fun raw =>
    c.bytes.overwrite r.offset.toNat (LittleEndian.encode r.width.bytes raw.toNat)
  cached name := if name = r.name then e.kept.or (c.cached name) else c.cached name

variable {c : Contents} {r q : Register} {e f : Effect}

lemma after_nothing (h : e.word = none) (h' : e.kept = none) : c.after r e = c := by
  rw [after, h, h']
  simp only [Option.elim_none, Option.none_or, ite_self]

lemma size_after : (c.after r e).bytes.size = c.bytes.size := by
  rw [after]
  cases e.word with
  | none => rfl
  | some raw => exact Bytes.size_overwrite ..

lemma after_comm (hn : r.name ≠ q.name)
    (ho : r.offset.toNat + r.width.bytes ≤ q.offset.toNat ∨ q.offset.toNat + q.width.bytes ≤ r.offset.toNat) :
    (c.after r e).after q f = (c.after q f).after r e := by
  simp only [after, mk.injEq]
  constructor
  · cases e.word with
    | none => rfl
    | some raw =>
      cases f.word with
      | none => rfl
      | some raw' => exact Bytes.overwrite_comm (by simpa only [LittleEndian.length_encode] using ho)
  · funext name
    by_cases hr : name = r.name
    · subst hr
      rw [if_neg hn, if_pos rfl, if_pos rfl, if_neg hn]
    · rw [if_neg hr, if_neg hr]

end Contents

section Effect

variable {setup : Setup} {name : String} {v : ParamValue} {s : Station SimBoard} {r : Register} {raw : UInt32}

def Takes (r : Register) (s : Station SimBoard) (e : Effect) (f : StationM SimBoard Unit) : Prop :=
  ∃ t, perform f s = (e.result, t) ∧ t.contents = s.contents.after r e ∧ t.bus.faults.Passes

section Takes

variable {e : Effect} {err : StationError} {f : StationM SimBoard Unit} {t : Station SimBoard} {bus : SimBoard}

lemma takes_of_ok (h : f s = .ok () t) (hr : e.result = .ok ()) (hc : t.contents = s.contents.after r e)
    (hp : t.bus.faults.Passes) : Takes r s e f := ⟨t, by rw [perform, h, hr], hc, hp⟩

lemma takes_of_error (h : f s = .error err t) (hr : e.result = .error err) (hc : t.contents = s.contents.after r e)
    (hp : t.bus.faults.Passes) : Takes r s e f := ⟨t, by rw [perform, h, hr], hc, hp⟩

lemma takes_nothing (h : f s = .error err { s with bus }) (hb : bus.window = s.bus.window) (hp : bus.faults.Passes) :
    Takes r s { result := .error err } f := by
  refine takes_of_error h rfl ?_ hp
  rw [Contents.after_nothing rfl rfl, contents, contents, hb]
  rfl

end Takes

lemma contents_stored {t : Station SimBoard} {e : Effect} (hw : e.word = some raw)
    (hb : t.bus.window.bytes =
      s.bus.window.bytes.overwrite r.offset.toNat (LittleEndian.encode r.width.bytes raw.toNat))
    (hc : ∀ name, t.cached name = if name = r.name then e.kept.or (s.cached name) else s.cached name) :
    t.contents = s.contents.after r e := by
  rw [contents, Contents.after, hw, hb]
  congr 1
  funext name
  exact hc name

lemma pulse_takes (hp : s.bus.faults.Passes) :
    Takes r s (.store s.bus.window.bytes.size r 0 (.ok (.int 0))) (pulse r) := by
  have hraise : Transport.write r.width r.offset 1 s.bus = _ := SimBoard.write_eq_of_passes hp
  rw [if_pos r.width.one_le_maxValue] at hraise
  rw [Effect.store, if_pos UInt32.zero_le]
  by_cases hf : s.bus.window.Fits r.offset r.width.bytes
  · have hs : r.offset.toNat + r.width.bytes ≤ s.bus.window.bytes.size := hf
    have hf' : (s.bus.window.written r.width r.offset 1).Fits r.offset r.width.bytes :=
      hf.trans_eq (Window.size_written ..).symm
    have hrelease : Transport.write r.width r.offset 0
        (⟨s.bus.window.written r.width r.offset 1, s.bus.faults.counted⟩ : SimBoard) = _ :=
      SimBoard.write_of_passes UInt32.zero_le hp.counted hf'
    have hpulse := pulse_eq s (r := r)
    simp only [hraise, if_pos hf, hrelease] at hpulse
    rw [if_pos hs]
    refine takes_of_ok hpulse rfl (contents_stored rfl ?_ fun name => ?_) hp
    · exact Bytes.overwrite_overwrite (by simp only [LittleEndian.length_encode])
    · rw [cached, NameTable.find_insert, NameTable.find_insert]
      split <;> rfl
  · have hs : ¬ r.offset.toNat + r.width.bytes ≤ s.bus.window.bytes.size := hf
    rw [if_neg hf] at hraise
    rw [if_neg hs]
    have hpulse := pulse_eq s (r := r)
    simp only [hraise] at hpulse
    exact takes_nothing hpulse rfl hp.counted

lemma writeRegister_takes (setup : Setup) (v : ParamValue) (hp : s.bus.faults.Passes)
    (hv : setup.conversions.inverse r.name v.toReal = .ok raw) :
    Takes r s (.store s.bus.window.bytes.size r raw (shown setup r raw)) (writeRegister setup r v) := by
  have hw : Transport.write r.width r.offset raw s.bus = _ := SimBoard.write_eq_of_passes hp
  have he := writeRegister_eq setup v s (r := r)
  simp only [hv, hw] at he
  rw [Effect.store]
  by_cases hm : raw ≤ r.width.maxValue
  · simp only [if_pos hm] at he ⊢
    by_cases hf : s.bus.window.Fits r.offset r.width.bytes
    · have hs : r.offset.toNat + r.width.bytes ≤ s.bus.window.bytes.size := hf
      simp only [if_pos hf] at he
      rw [if_pos hs]
      cases hx : shown setup r raw with
      | error e =>
        simp only [hx] at he
        exact takes_of_error he rfl (contents_stored rfl rfl fun name => (ite_self _).symm) hp
      | ok x =>
        simp only [hx] at he
        refine takes_of_ok he rfl (contents_stored rfl rfl fun name => ?_) hp
        rw [cached, NameTable.find_insert]
        rfl
    · have hs : ¬ r.offset.toNat + r.width.bytes ≤ s.bus.window.bytes.size := hf
      simp only [if_neg hf] at he
      rw [if_neg hs]
      exact takes_nothing he rfl hp.counted
  · simp only [if_neg hm] at he ⊢
    exact takes_nothing he rfl hp

lemma writeParameter_takes (v : ParamValue) (ht : Targets setup name r) (hp : s.bus.faults.Passes) :
    Takes r s (effect setup s.bus.window.bytes.size r v) (writeParameter setup name v) := by
  rw [effect, Takes, perform, writeParameter_of_targets setup name v s ht]
  by_cases hi : r.name = Register.manualClear ∧ v.toInt64 = 1
  · simp only [if_pos hi]
    exact pulse_takes hp
  · simp only [if_neg hi]
    cases hv : setup.conversions.inverse r.name v.toReal with
    | ok raw => exact writeRegister_takes setup v hp hv
    | error e =>
      have he := writeRegister_eq setup v s (r := r)
      simp only [hv] at he
      exact takes_nothing he rfl hp

end Effect

section Order

variable {setup : Setup} {s t : Station SimBoard} {ws ws' : List (String × ParamValue)}

def Contents.write (setup : Setup) (size : Nat) (c : Contents) (w : String × ParamValue) : Contents :=
  match setup.registers.find w.1 with
  | some r => c.after r (effect setup size r w.2)
  | none => c

lemma writeEach_eq (hw : ∀ w ∈ ws, ∃ r, Targets setup w.1 r) (hs : s.bus.faults.Passes) (ht : t.bus.faults.Passes)
    (hz : t.bus.window.bytes.size = s.bus.window.bytes.size) :
    (writeEach setup ws t).1 = ws.map (fun w => (w.1, (perform (writeParameter setup w.1 w.2) s).1)) ∧
      (writeEach setup ws t).2.contents = ws.foldl (Contents.write setup s.bus.window.bytes.size) t.contents := by
  induction ws generalizing t with
  | nil => exact ⟨rfl, rfl⟩
  | cons w ws ih =>
    obtain ⟨name, v⟩ := w
    obtain ⟨⟨r, hr⟩, hws⟩ := List.forall_mem_cons.mp hw
    obtain ⟨t', ht', hc, hp⟩ := writeParameter_takes v hr ht
    obtain ⟨s', hs', -, -⟩ := writeParameter_takes v hr hs
    have hsize : t'.bus.window.bytes.size = s.bus.window.bytes.size := by
      have hl : t'.contents.bytes.size = t.contents.bytes.size := by rw [hc, Contents.size_after]
      exact hl.trans hz
    obtain ⟨hresults, hcontents⟩ := ih hws hp hsize
    have hstep : t'.contents = t.contents.write setup s.bus.window.bytes.size (name, v) := by
      rw [hc, hz, Contents.write, hr.found]
    rw [hz] at ht'
    rw [writeEach, ht', List.map_cons, List.foldl_cons, ← hstep, hs']
    exact ⟨congrArg (_ :: ·) hresults, hcontents⟩

lemma targets_of_standard (hm : setup.registers = .standard) {name : String} {r : Register}
    (hr : r ∈ RegisterMap.standard) (hn : r.name = name) (hw : r.isWritable = true) : Targets setup name r := by
  subst hn
  exact ⟨.of_standard hm hr, RegisterMap.standard_notDerived r hr, hw⟩

lemma write_comm (hm : setup.registers = .standard) {w u : String × ParamValue} {r q : Register}
    (hr : Targets setup w.1 r) (hq : Targets setup u.1 q) (hn : w.1 ≠ u.1) (size : Nat) (c : Contents) :
    (c.write setup size w).write setup size u = (c.write setup size u).write setup size w := by
  have hfr := hr.found
  have hfq := hq.found
  rw [hm] at hfr hfq
  have hmr := List.mem_of_find?_eq_some hfr
  have hmq := List.mem_of_find?_eq_some hfq
  have hne : r.name ≠ q.name := by rwa [hr.name_eq, hq.name_eq]
  have ho : r.offset.toNat + r.width.bytes ≤ q.offset.toNat ∨ q.offset.toNat + q.width.bytes ≤ r.offset.toNat := by
    rw [(RegisterMap.standard_layout r hmr).1, (RegisterMap.standard_layout q hmq).1]
    obtain h | h | h := RegisterMap.standard_writable_apart r hmr q hmq hr.writable hq.writable
    · exact .inl h
    · exact .inr h
    · exact absurd h hne
  simp only [Contents.write, hr.found, hq.found]
  exact Contents.after_comm hne ho

/-- Writes to different registers of a board without faults may be made in any order: window and cache end up the
same, and each write ends as it does alone. -/
theorem writes_commute (setup : Setup) (ws ws' : List (String × ParamValue)) (s : Station SimBoard)
    (hm : setup.registers = .standard) (hn : (ws.map Prod.fst).Nodup)
    (hw : ∀ w ∈ ws, ∃ r ∈ RegisterMap.standard, r.name = w.1 ∧ r.isWritable = true) (hp : s.bus.faults.Passes)
    (h : ws.Perm ws') :
    (writeEach setup ws' s).2.bus.window.bytes = (writeEach setup ws s).2.bus.window.bytes ∧
      (∀ name, (writeEach setup ws' s).2.cached name = (writeEach setup ws s).2.cached name) ∧
      (writeEach setup ws s).1 = ws.map (fun w => (w.1, (perform (writeParameter setup w.1 w.2) s).1)) ∧
      (writeEach setup ws' s).1 = ws'.map fun w => (w.1, (perform (writeParameter setup w.1 w.2) s).1) := by
  have ht : ∀ w ∈ ws, ∃ r, Targets setup w.1 r := by
    intro w hmem
    obtain ⟨r, hr, he, hwr⟩ := hw w hmem
    exact ⟨r, targets_of_standard hm hr he hwr⟩
  have ht' : ∀ w ∈ ws', ∃ r, Targets setup w.1 r := fun w hmem => ht w (h.mem_iff.mpr hmem)
  obtain ⟨hresults, hcontents⟩ := writeEach_eq ht hp hp rfl
  obtain ⟨hresults', hcontents'⟩ := writeEach_eq ht' hp hp rfl
  have hc : (writeEach setup ws' s).2.contents = (writeEach setup ws s).2.contents := by
    rw [hcontents, hcontents']
    refine (h.foldl_eq' ?_ s.contents).symm
    intro w hwm u hum c
    by_cases he : w.1 = u.1
    · rw [List.inj_on_of_nodup_map hn hwm hum he]
    · obtain ⟨r, hr⟩ := ht w hwm
      obtain ⟨q, hq⟩ := ht u hum
      exact write_comm hm hr hq he _ c
  exact ⟨congrArg Contents.bytes hc, congrFun (congrArg Contents.cached hc), hresults, hresults'⟩

def mixed : List (String × ParamValue) :=
  [(Register.manualClear, .int 1), ("kp", .int 7), ("sp_amp", .real (0 / 0)), ("VSWR_EN", .int 1)]

theorem writes_commute_mixed :
    (writeEach {} mixed.reverse (ofSize 240)).2.bus.window.bytes =
        (writeEach {} mixed (ofSize 240)).2.bus.window.bytes ∧
      (∀ name, (writeEach {} mixed.reverse (ofSize 240)).2.cached name =
        (writeEach {} mixed (ofSize 240)).2.cached name) ∧
      (writeEach {} mixed.reverse (ofSize 240)).1.map Prod.fst = ["VSWR_EN", "sp_amp", "kp", Register.manualClear] ∧
      (writeEach {} mixed.reverse (ofSize 240)).1.map (fun x => x.2.isOk) = [false, false, true, true] ∧
      (writeEach {} mixed (ofSize 240)).1.map (fun x => x.2.isOk) = [true, true, false, false] := by
  have hw : ∀ w ∈ mixed, ∃ r ∈ RegisterMap.standard, r.name = w.1 ∧ r.isWritable = true := by
    simp only [mixed, List.forall_mem_cons, List.not_mem_nil, false_implies, implies_true, and_true]
    decide
  have hn : (mixed.map Prod.fst).Nodup := by
    change [Register.manualClear, "kp", "sp_amp", "VSWR_EN"].Nodup
    decide
  obtain ⟨hb, hc, hr, hr'⟩ :=
    writes_commute {} mixed mixed.reverse (ofSize 240) rfl hn hw ⟨rfl, rfl⟩ (List.reverse_perm mixed).symm
  have hk : mixed.map (fun w => (perform (writeParameter {} w.1 w.2) (ofSize 240)).1.isOk) =
      [true, true, false, false] := by decide +kernel
  refine ⟨hb, hc, ?_, ?_, ?_⟩
  · rw [hr', List.map_map]
    rfl
  · rw [hr', List.map_map, List.map_reverse]
    exact congrArg List.reverse hk
  · rw [hr, List.map_map]
    exact hk

end Order

end Station

end RfBoard
