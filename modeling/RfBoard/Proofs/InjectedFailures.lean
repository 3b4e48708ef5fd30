import RfBoard.Proofs.History
import RfBoard.Proofs.Sections
import RfBoard.Proofs.TransportMirror

/-!
Injected failures over runs of a station, which goes beside one that has none to come.
-/

namespace RfBoard

namespace SimBoard

def Struck (board : SimBoard) : Prop := board.faults.offline = false ∧ 0 < board.faults.pending

def hit (board : SimBoard) : SimBoard :=
  ⟨board.window, { board.faults.counted with pending := board.faults.pending - 1 }⟩

variable {width : Width} {offset value : UInt32} {board bus : SimBoard} {e : TransportError}

lemma Struck.access_eq (h : board.Struck) : board.faults.access = (board.hit.faults, some .injected) := by
  rw [FaultSwitch.access_eq, h.1, if_neg Bool.false_ne_true, if_pos h.2]
  rfl

lemma Struck.readWord_eq (h : board.Struck) :
    Transport.readWord width offset board = .error (.device .injected) board.hit := by
  rw [SimBoard.readWord_eq, h.access_eq]
  rfl

lemma Struck.writeWord_eq (h : board.Struck) :
    Transport.writeWord width offset value board = .error (.device .injected) board.hit := by
  rw [SimBoard.writeWord_eq, h.access_eq]
  rfl

lemma Struck.write_eq (h : board.Struck) : Transport.write width offset value board =
    if value ≤ width.maxValue then .error (.device .injected) board.hit else .error (.tooWide value width) board := by
  rw [Transport.write, h.writeWord_eq]

lemma Struck.readBulk_eq (h : board.Struck) {buffer : Bytes} (hs : buffer.size = 114688) :
    Transport.readBulk offset buffer board = ⟨.error (.device .injected), buffer, board.hit⟩ := by
  have hc : checkBulkLength buffer.size = .ok () := by
    rw [hs]
    rfl
  have ha : Transport.wordAddress? offset 0 = some (UInt32.ofNat offset.toNat) := if_pos offset.toNat_lt
  rw [Transport.readBulk, hc, show buffer.size / 4 = 28671 + 1 by omega]
  simp only [Transport.readWords, ha, h.readWord_eq]

lemma access_of_not_struck (h : ¬ board.Struck) : board.faults.access =
    (board.faults.counted, if board.faults.offline then some .boardOffline else none) := by
  rw [FaultSwitch.access_eq]
  cases ho : board.faults.offline with
  | true => rfl
  | false =>
    have hp : ¬ 0 < board.faults.pending := fun hp => h ⟨ho, hp⟩
    rw [if_neg Bool.false_ne_true, if_neg hp, if_neg Bool.false_ne_true]

structure Beside (start board spare : SimBoard) : Prop where
  window : board.window = spare.window
  offline : board.faults.offline = start.faults.offline
  spareOffline : spare.faults.offline = start.faults.offline
  pending : board.faults.pending = start.faults.pending
  clear : spare.faults.pending = 0
  operations : start.Struck → board.faults.operations = start.faults.operations

variable {start spare : SimBoard}

lemma Beside.struck_iff (h : Beside start board spare) : board.Struck ↔ start.Struck := by
  rw [Struck, Struck, h.offline, h.pending]

lemma Beside.counted (h : Beside start board spare) (hs : ¬ start.Struck) (w : Window) :
    Beside start ⟨w, board.faults.counted⟩ ⟨w, spare.faults.counted⟩ :=
  ⟨rfl, h.offline, h.spareOffline, h.pending, h.clear, fun hs' => absurd hs' hs⟩

lemma Beside.access_eq (h : Beside start board spare) (hs : ¬ start.Struck) :
    (board.faults.access = (board.faults.counted, some .boardOffline) ∧
        spare.faults.access = (spare.faults.counted, some .boardOffline)) ∨
      (board.faults.access = (board.faults.counted, none) ∧ spare.faults.access = (spare.faults.counted, none)) := by
  have hb : ¬ spare.Struck := fun hs' => absurd hs'.2 (by rw [h.clear]; exact Nat.lt_irrefl 0)
  rw [access_of_not_struck (mt h.struck_iff.mp hs), access_of_not_struck hb, h.offline, h.spareOffline]
  cases start.faults.offline with
  | true => exact .inl ⟨rfl, rfl⟩
  | false => exact .inr ⟨rfl, rfl⟩

lemma mirrors_beside (start : SimBoard) : Mirrors start.Struck .injected (Beside start) where
  readWord {width offset board spare} h := by
    by_cases hs : start.Struck
    · rw [(h.struck_iff.mpr hs).readWord_eq]
      exact .cut hs
    · rw [SimBoard.readWord_eq, SimBoard.readWord_eq, h.window]
      obtain ⟨hb, hc⟩ | ⟨hb, hc⟩ := h.access_eq hs <;> rw [hb, hc] <;> dsimp only
      · exact .error nofun (h.counted hs _)
      · split
        · exact .ok (h.counted hs _)
        · exact .error nofun (h.counted hs _)
  writeWord {width offset value board spare} h := by
    by_cases hs : start.Struck
    · rw [(h.struck_iff.mpr hs).writeWord_eq]
      exact .cut hs
    · rw [SimBoard.writeWord_eq, SimBoard.writeWord_eq, h.window]
      obtain ⟨hb, hc⟩ | ⟨hb, hc⟩ := h.access_eq hs <;> rw [hb, hc] <;> dsimp only
      · exact .error nofun (h.counted hs _)
      · split
        · exact .ok (h.counted hs _)
        · exact .error nofun (h.counted hs _)

structure Spares (board spare : SimBoard) : Prop where
  window : board.window = spare.window
  offline : board.faults.offline = spare.faults.offline
  clear : spare.faults.pending = 0

lemma Spares.beside (h : Spares board spare) : Beside board board spare :=
  ⟨h.window, rfl, h.offline.symm, rfl, h.clear, fun _ => rfl⟩

lemma Beside.spares (h : Beside start board spare) : Spares board spare :=
  ⟨h.window, h.offline.trans h.spareOffline.symm, h.clear⟩

end SimBoard

namespace Station

open SimBoard

variable {setup : Setup} {plan : Plan} {cal : Calibration} {name : String} {v : ParamValue} {s t : Station SimBoard}

def Spent (s t : Station SimBoard) : Prop := Mirrored (fun b c => b.Struck ∧ c = b.hit) s t

lemma spent_atFetch (h : s.bus.Struck) : Spent s (s.atFetch s.bus.hit) := ⟨⟨h, rfl⟩, rfl, rfl, rfl, rfl, rfl⟩

lemma spent_bus (h : s.bus.Struck) : Spent s { s with bus := s.bus.hit } := ⟨⟨h, rfl⟩, rfl, rfl, rfl, rfl, rfl⟩

lemma spent_acquire (h : s.bus.Struck) (plan : Plan) (cal : Calibration) :
    Spent s (perform (acquire plan cal) s).2 := by
  cases hh : plan.handshake with
  | true =>
    rw [perform, acquire_unread hh h.readWord_eq]
    exact spent_atFetch h
  | false =>
    have hb : Transport.readBulk plan.waveformOffset s.buffers.bytes s.bus =
        ⟨.error (.device .injected), s.buffers.bytes, s.bus.hit⟩ := h.readBulk_eq s.buffers.size_bytes
    have ho : (Transport.readBulk plan.waveformOffset s.buffers.bytes s.bus).outcome = .error (.device .injected) :=
      congrArg Transport.Filled.outcome hb
    have hf : s.buffers.fetched plan.waveformOffset s.bus = s.buffers := by
      simp only [Buffers.fetched, hb]
    rw [perform, acquire_unfetched cal (.unasked hh) ho]
    exact ⟨⟨h, congrArg Transport.Filled.bus hb⟩, rfl, rfl, rfl, rfl, hf.symm⟩

lemma spent_readParameter (h : s.bus.Struck)
    (hi : (perform (readParameter setup name) s).1 = .error (.transport (.device .injected))) :
    Spent s (perform (readParameter setup name) s).2 := by
  have hx := readParameter_exit setup name s
  rw [perform] at hi ⊢
  generalize readParameter setup name s = res at hx hi
  cases hx with
  | probeIndex _ => cases hi
  | probed _ _ => cases hi
  | unknown _ _ _ => cases hi
  | failed _ _ he =>
    cases h.readWord_eq.symm.trans he
    exact spent_bus h
  | undefined _ _ _ _ => cases hi
  | read _ _ _ _ => cases hi

lemma spent_writeParameter (h : s.bus.Struck)
    (hi : (perform (writeParameter setup name v) s).1 = .error (.transport (.device .injected))) :
    Spent s (perform (writeParameter setup name v) s).2 := by
  have hn : ∀ {width offset value bus}, Transport.write width offset value s.bus ≠ .ok () bus := by
    intro width offset value bus hw
    obtain ⟨_, hp, _, _⟩ := SimBoard.write_ok hw
    exact absurd h.2 (by rw [hp.2]; exact Nat.lt_irrefl 0)
  have he : ∀ {width offset value bus}, Transport.write width offset value s.bus = .error (.device .injected) bus →
      bus = s.bus.hit := by
    intro width offset value bus hw
    rw [h.write_eq] at hw
    split at hw <;> cases hw
    rfl
  have hx := writeParameter_exit setup name v s
  rw [perform] at hi ⊢
  generalize writeParameter setup name v s = res at hx hi
  cases hx with
  | probeIndex _ => cases hi
  | derived _ _ => cases hi
  | unknown _ _ _ => cases hi
  | readOnly _ _ _ => cases hi
  | unraised _ _ hw =>
    cases hi
    rw [he hw]
    exact spent_bus h
  | unreleased _ _ hw _ => exact absurd hw hn
  | pulsed _ _ hw _ => exact absurd hw hn
  | refused _ _ _ => cases hi
  | failed _ _ _ hw =>
    cases hi
    rw [he hw]
    exact spent_bus h
  | slipped _ _ _ hw _ => exact absurd hw hn
  | written _ _ _ hw _ => exact absurd hw hn

end Station

namespace Outcome

def error? : Outcome → Option StationError
  | cycle (.error e) => some e
  | access (.value (.error e)) => some e
  | access (.written (.error e)) => some e
  | _ => none

lemma error?_cycle (r : Except StationError CycleOutcome) (e : StationError) :
    (cycle r).error? = some e ↔ r = .error e := by cases r <;> simp [error?]

lemma error?_value (r : Except StationError ParamValue) (e : StationError) :
    (access (.value r)).error? = some e ↔ r = .error e := by cases r <;> simp [error?]

lemma error?_written (r : Except StationError Unit) (e : StationError) :
    (access (.written r)).error? = some e ↔ r = .error e := by cases r <;> simp [error?]

def isInjected (o : Outcome) : Bool :=
  match o.error? with
  | some (.transport (.device .injected)) => true
  | _ => false

lemma isInjected_iff {o : Outcome} : o.isInjected = true ↔ o.error? = some (.transport (.device .injected)) := by
  rw [isInjected]
  split
  · rename_i h
    exact ⟨fun _ => h, fun _ => rfl⟩
  · rename_i h
    exact ⟨nofun, fun he => absurd he h⟩

end Outcome

open Station SimBoard

namespace Operation

/-- No new failures are injected, and no more than one parameter is asked for at once. -/
def IsSingle : Operation → Prop
  | failNext _ => False
  | access .readAll => False
  | _ => True

variable {setup : Setup} {s t : Station SimBoard} {o : Operation}

structure Unhit (setup : Setup) (o : Operation) (s t : Station SimBoard) : Prop where
  outcome : (o.apply setup s).1 = (o.apply setup t).1
  notInjected : (o.apply setup s).1.isInjected = false
  pending : (o.apply setup s).2.bus.faults.pending = s.bus.faults.pending
  operations : s.bus.Struck → (o.apply setup s).2.bus.faults.operations = s.bus.faults.operations
  spares : Mirrored Spares (o.apply setup s).2 (o.apply setup t).2

lemma unhit_of_beside (ho : (o.apply setup s).1 = (o.apply setup t).1)
    (hi : (o.apply setup s).1.error? ≠ some (.transport (.device .injected)))
    (h : Mirrored (Beside s.bus) (o.apply setup s).2 (o.apply setup t).2) : Unhit setup o s t where
  outcome := ho
  notInjected := Bool.eq_false_iff.mpr (mt Outcome.isInjected_iff.mp hi)
  pending := h.bus.pending
  operations := h.bus.operations
  spares := { h with bus := h.bus.spares }

lemma unhit_of_changeBoard {f : SimBoard → SimBoard} (h : Mirrored Spares s t)
    (ha : ∀ s, o.apply setup s = (.done, s.changeBoard f)) (hf : ∀ b, (f b).faults.pending = b.faults.pending)
    (hn : ∀ b, (f b).faults.operations = b.faults.operations) (hs : ∀ b c, Spares b c → Spares (f b) (f c)) :
    Unhit setup o s t where
  outcome := by rw [ha, ha]
  notInjected := by rw [ha]; rfl
  pending := by rw [ha]; exact hf s.bus
  operations _ := by rw [ha]; exact hn s.bus
  spares := by rw [ha, ha]; exact { h with bus := hs _ _ h.bus }

lemma unhit_of_load (h : Mirrored Spares s t) {offset : UInt32} {data : List UInt8}
    (ha : ∀ s, o.apply setup s = (.done, s.changeBoard (·.load offset data))) : Unhit setup o s t := by
  have hf : ∀ b : SimBoard, (b.load offset data).faults = b.faults := by
    intro b
    rw [load_eq]
    split <;> rfl
  refine unhit_of_changeBoard h ha (fun b => by rw [hf]) (fun b => by rw [hf]) fun b c hbc => ⟨?_, ?_, ?_⟩
  · rw [load_eq, load_eq, hbc.window]
    split
    · rfl
    · exact hbc.window
  · rw [hf, hf, hbc.offline]
  · rw [hf, hbc.clear]

lemma apply_of_corresponds {α : Type} {f : StationM SimBoard α} {wrap : Except StationError α → Outcome}
    (h : Mirrored Spares s t) (hf : Corresponds s.bus.Struck .injected (Beside s.bus) f f)
    (hw : ∀ r e, (wrap r).error? = some e ↔ r = .error e)
    (ha : ∀ s, o.apply setup s = (wrap (perform f s).1, (perform f s).2))
    (hs : s.bus.Struck → (perform f s).1 = .error (.transport (.device .injected)) → Spent s (perform f s).2) :
    (o.apply setup s).1.isInjected = true ∧ Spent s (o.apply setup s).2 ∨ Unhit setup o s t := by
  have hb : Mirrored (Beside s.bus) s t := { h with bus := h.bus.beside }
  obtain ⟨hc, hi⟩ | ⟨hi, he, hm⟩ := hf.perform hb
  · rw [ha, Outcome.isInjected_iff, hw]
    exact .inl ⟨hi, hs hc hi⟩
  · refine .inr (unhit_of_beside ?_ ?_ ?_)
    · rw [ha, ha, he]
    · rwa [ha, ne_eq, hw]
    · rwa [ha, ha]

lemma apply_of_single (setup : Setup) (ho : o.IsSingle) (h : Mirrored Spares s t) :
    (o.apply setup s).1.isInjected = true ∧ Spent s (o.apply setup s).2 ∨ Unhit setup o s t := by
  have hb : Mirrored (Beside s.bus) s t := { h with bus := h.bus.beside }
  have m := mirrors_beside s.bus
  cases o with
  | cycle plan =>
    exact apply_of_corresponds h (m.acquire plan setup.calibration) Outcome.error?_cycle (fun _ => rfl)
      fun hs _ => spent_acquire hs plan setup.calibration
  | access a =>
    cases a with
    | read name =>
      exact apply_of_corresponds h (m.readParameter setup name) Outcome.error?_value (fun _ => rfl)
        spent_readParameter
    | write name v =>
      exact apply_of_corresponds h (m.writeParameter setup name v) Outcome.error?_written (fun _ => rfl)
        spent_writeParameter
    | readAll => exact ho.elim
  | setProbeIndex index =>
    have hf := corresponds_setProbeIndex (C := False) (d := .injected) (R := Beside s.bus) index
    obtain ⟨hc, _⟩ | ⟨_, _, hm⟩ := hf.perform hb
    · exact hc.elim
    · exact .inr (unhit_of_beside rfl nofun hm)
  | setOffline on =>
    exact .inr (unhit_of_changeBoard h (fun _ => rfl) (fun _ => rfl) (fun _ => rfl)
      fun b c hbc => ⟨hbc.window, rfl, hbc.clear⟩)
  | failNext _ => exact ho.elim
  | poke offset value => exact .inr (unhit_of_load h fun _ => rfl)
  | loadWaveform w => exact .inr (unhit_of_load h fun _ => rfl)
  | keepReplaced =>
    exact .inr (unhit_of_beside rfl nofun { hb with buffers := congrArg ({ · with spare := .zero }) hb.buffers })

end Operation

namespace Event

def reaches (e : Event) : Bool :=
  !e.before.bus.faults.offline && e.after.bus.faults.operations != e.before.bus.faults.operations

def isInjected (e : Event) : Bool := e.outcome.isInjected

structure Repeats (e f : Event) : Prop where
  operation : e.operation = f.operation
  outcome : e.outcome = f.outcome
  before : Mirrored Spares e.before f.before
  after : Mirrored Spares e.after f.after

end Event

namespace Operation

variable {setup : Setup} {s t : Station SimBoard} {o : Operation}

inductive Refused (setup : Setup) : Operation → Prop
  | unread {name : String} : name ≠ DerivedChannel.probeIndexParameter → probedChannel? name = none →
      setup.registers.find name = none → Refused setup (.access (.read name))
  | unknown {name : String} {v : ParamValue} : name ≠ DerivedChannel.probeIndexParameter →
      setup.registers.find name = none → Refused setup (.access (.write name v))
  | derived {name : String} {v : ParamValue} : (DerivedChannel.ofName? name).isSome = true →
      Refused setup (.access (.write name v))
  | readOnly {name : String} {v : ParamValue} {r : Register} : setup.registers.find name = some r →
      r.isWritable = false → Refused setup (.access (.write name v))
  | inconvertible {name : String} {v : ParamValue} {r : Register} {e : DomainError} : Targets setup name r →
      ¬ IsPulse r v → setup.conversions.inverse r.name v.toReal = .error e → Refused setup (.access (.write name v))
  | tooWide {name : String} {v : ParamValue} {r : Register} {raw : UInt32} : Targets setup name r →
      ¬ IsPulse r v → setup.conversions.inverse r.name v.toReal = .ok raw → ¬ raw ≤ r.width.maxValue →
      Refused setup (.access (.write name v))

section Refused

open Request

lemma Refused.bus_eq (h : o.Refused setup) (s : Station SimBoard) : (o.apply setup s).2.bus = s.bus := by
  have hread : ∀ {name}, readAccesses? setup name = none →
      (Operation.apply setup (.access (.read name)) s).2.bus = s.bus := by
    intro name ha
    have hb : _ = (Request.readParameter setup name).served s.bus := bus_readParameter s
    refine hb.trans ?_
    rw [served, accesses?, ha, Option.elim_none]
  have hwrite : ∀ {name v}, writeAccesses? setup name v = none ∨ writeAccesses? setup name v = some [] →
      (Operation.apply setup (.access (.write name v)) s).2.bus = s.bus := by
    intro name v ha
    have hb : _ = (Request.writeParameter setup name v).served s.bus := bus_writeParameter s
    refine hb.trans ?_
    obtain ha | ha := ha <;> rw [served, accesses?, ha] <;> rfl
  cases h with
  | unread _ _ hf => exact hread (by rw [readAccesses?, hf, Option.map_none, ite_self])
  | unknown _ hf => exact hwrite (.inl (by rw [writeAccesses?, hf, Option.bind_none, ite_self]))
  | derived hc => exact hwrite (.inl (by rw [writeAccesses?, if_pos (.inr hc)]))
  | readOnly hf hw =>
    refine hwrite (.inl ?_)
    rw [writeAccesses?, hf, Option.bind_some, hw, Bool.not_false, if_pos rfl, ite_self]
  | inconvertible ht hi hv =>
    have hi : ¬ (_ = Register.manualClear ∧ _ = _) := hi
    exact hwrite (.inl (by rw [writeAccesses?_of_targets ht, if_neg hi, hv]))
  | tooWide ht hi hv hw =>
    exact hwrite (.inr (by rw [writeAccesses?_of_plain ht hi hv, BusAccess.checkedWrite, if_neg hw]))

end Refused

def event (setup : Setup) (o : Operation) (s : Station SimBoard) : Event :=
  ⟨s, o, (o.apply setup s).1, (o.apply setup s).2⟩

lemma reaches_of_spent (h : Spent s (o.apply setup s).2) : (o.event setup s).reaches = true := by
  obtain ⟨hs, hb⟩ := h.bus
  simp [Event.reaches, event, hs.1, hb, hit, FaultSwitch.counted]

lemma Unhit.reaches (h : Unhit setup o s t) (hp : 0 < s.bus.faults.pending) :
    (o.event setup s).reaches = false := by
  rw [Event.reaches, event]
  cases ho : s.bus.faults.offline with
  | true => rfl
  | false => simp [h.operations ⟨ho, hp⟩]

end Operation

lemma Station.Spent.pending {s t : Station SimBoard} (h : Spent s t) :
    t.bus.faults.pending + 1 = s.bus.faults.pending := by
  obtain ⟨hs, hb⟩ := h.bus
  rw [hb]
  exact Nat.sub_add_cancel hs.2

lemma Station.Spent.spares {s t spare : Station SimBoard} (h : Spent s t) (hs : Mirrored Spares s spare) :
    Mirrored Spares t spare where
  bus := by
    obtain ⟨_, hb⟩ := h.bus
    rw [hb]
    exact ⟨hs.bus.window, hs.bus.offline, hs.bus.clear⟩
  cache := h.cache.symm.trans hs.cache
  store := h.store.symm.trans hs.store
  listeners := h.listeners.symm.trans hs.listeners
  metrics := h.metrics.symm.trans hs.metrics
  buffers := h.buffers.symm.trans hs.buffers

section Run

variable {setup : Setup} {s t : Station SimBoard} {operations : List Operation}

lemma history_cons (setup : Setup) (o : Operation) (os : List Operation) (s : Station SimBoard) :
    history setup (o :: os) s = o.event setup s :: history setup os (o.apply setup s).2 := rfl

lemma filter_isInjected (ho : ∀ o ∈ operations, o.IsSingle) (h : Mirrored Spares s t) :
    (history setup operations s).filter (·.isInjected) =
      ((history setup operations s).filter (·.reaches)).take s.bus.faults.pending := by
  induction operations generalizing s t with
  | nil => exact List.take_nil.symm
  | cons o os ih =>
    have hos : ∀ o ∈ os, o.IsSingle := fun o' ho' => ho o' (List.mem_cons_of_mem o ho')
    rw [history_cons]
    obtain ⟨hi, hs⟩ | hu := Operation.apply_of_single setup (ho o List.mem_cons_self) h
    · have hi : (o.event setup s).isInjected = true := hi
      rw [List.filter_cons_of_pos hi, List.filter_cons_of_pos (Operation.reaches_of_spent hs), ← hs.pending,
        List.take_succ_cons, ih hos (hs.spares h)]
    · have hn : (o.event setup s).isInjected = false := hu.notInjected
      have he := ih hos hu.spares
      rw [hu.pending] at he
      rw [List.filter_cons_of_neg (Bool.eq_false_iff.mp hn), he]
      obtain hp | hp := Nat.eq_zero_or_pos s.bus.faults.pending
      · rw [hp, List.take_zero, List.take_zero]
      · rw [List.filter_cons_of_neg (Bool.eq_false_iff.mp (hu.reaches hp))]

lemma repeats_history (ho : ∀ o ∈ operations, o.IsSingle) (h : Mirrored Spares s t) :
    List.Forall₂ Event.Repeats ((history setup operations s).filter (!·.isInjected))
      (history setup (((history setup operations s).filter (!·.isInjected)).map (·.operation)) t) := by
  induction operations generalizing s t with
  | nil => exact .nil
  | cons o os ih =>
    have hos : ∀ o ∈ os, o.IsSingle := fun o' ho' => ho o' (List.mem_cons_of_mem o ho')
    rw [history_cons]
    obtain ⟨hi, hs⟩ | hu := Operation.apply_of_single setup (ho o List.mem_cons_self) h
    · have hi : (o.event setup s).isInjected = true := hi
      simp only [List.filter_cons, hi, Bool.not_true, Bool.false_eq_true, if_false]
      exact ih hos (hs.spares h)
    · have hn : (o.event setup s).isInjected = false := hu.notInjected
      simp only [List.filter_cons, hn, Bool.not_false, if_true, List.map_cons]
      exact .cons ⟨rfl, hu.outcome, h, hu.spares⟩ (ih hos hu.spares)

lemma operation_mem_of_mem_history {e : Event} (he : e ∈ history setup operations s) : e.operation ∈ operations := by
  induction operations generalizing s with
  | nil => cases he
  | cons o os ih =>
    rw [history_cons, List.mem_cons] at he
    rcases he with rfl | he
    · exact List.mem_cons_self
    · exact List.mem_cons_of_mem o (ih he)

lemma spares_failNext (s : Station SimBoard) (n : Nat) :
    Mirrored Spares (s.changeBoard (·.failNext n)) (s.changeBoard (·.failNext 0)) :=
  ⟨⟨rfl, rfl, rfl⟩, rfl, rfl, rfl, rfl, rfl⟩

lemma mem_history_of_single (ho : ∀ o ∈ operations, o.IsSingle) {e : Event} (he : e ∈ history setup operations s) :
    e.isInjected = true ∧ Spent e.before e.after ∨
      e.isInjected = false ∧ e.after.bus.faults.pending = e.before.bus.faults.pending := by
  have hs := spares_failNext e.before e.before.bus.faults.pending
  have h := Operation.apply_of_single setup (ho _ (operation_mem_of_mem_history he)) hs
  have ha := apply_of_mem_history he
  have hb : e.before.changeBoard (·.failNext e.before.bus.faults.pending) = e.before := rfl
  rw [hb, ha] at h
  obtain h | h := h
  · exact .inl h
  · have hn := h.notInjected
    have hp := h.pending
    rw [ha] at hn hp
    exact .inr ⟨hn, hp⟩

end Run

/-- Of the operations of a station, injected failures hit the first that reach the board while it is online,
one each, and change nothing else. What is refused before it reaches the board, and what is made offline,
uses up no failure, and all operations that were not hit end as they do without those that were. -/
theorem injected_failures_of_history (setup : Setup) (n : Nat) (operations : List Operation) (s : Station SimBoard)
    (ho : ∀ o ∈ operations, o.IsSingle) :
    let events := history setup operations (s.changeBoard (·.failNext n))
    events.filter (·.isInjected) = (events.filter (·.reaches)).take n ∧
    (∀ e ∈ events, e.isInjected = true → Spent e.before e.after) ∧
    (∀ e ∈ events, e.isInjected = false ∨ e.before.bus.faults.offline = true →
      e.after.bus.faults.pending = e.before.bus.faults.pending) ∧
    (∀ e ∈ events, e.operation.Refused setup → e.after.bus = e.before.bus) ∧
    List.Forall₂ Event.Repeats (events.filter (!·.isInjected))
      (history setup ((events.filter (!·.isInjected)).map (·.operation)) (s.changeBoard (·.failNext 0))) := by
  intro events
  have hs := spares_failNext s n
  refine ⟨filter_isInjected ho hs, fun e he hi => ?_, fun e he hi => ?_, fun e he hr => ?_, repeats_history ho hs⟩
  · obtain ⟨_, h⟩ | ⟨h, _⟩ := mem_history_of_single ho he
    · exact h
    · exact absurd (hi.symm.trans h) Bool.noConfusion
  · obtain ⟨hj, h⟩ | ⟨_, h⟩ := mem_history_of_single ho he
    · obtain hi | hi := hi
      · exact absurd (hj.symm.trans hi) Bool.noConfusion
      · exact absurd (hi.symm.trans h.bus.1.1) Bool.noConfusion
    · exact h
  · have ha := apply_of_mem_history he
    have hb := hr.bus_eq e.before
    rwa [ha] at hb

theorem injected_failures_pulses :
    let pulses : List Operation := [.access (.write Register.manualClear (.int 1)),
      .access (.write Register.manualClear (.int 1))]
    let events := history {} pulses ((Station.ofSize 588).changeBoard (·.failNext 1))
    events.filter (·.isInjected) = (events.filter (·.reaches)).take 1 ∧
      (events.filter (·.isInjected)).length = 1 ∧ (events.filter (·.reaches)).length = 2 ∧
      ∀ e ∈ events, e.isInjected = true → Spent e.before e.after := by
  intro pulses events
  have ho : ∀ o ∈ pulses, o.IsSingle := by simp [pulses, Operation.IsSingle]
  obtain ⟨hi, hs, _⟩ := injected_failures_of_history {} 1 pulses (Station.ofSize 588) ho
  exact ⟨hi, by decide +kernel, by decide +kernel, hs⟩

end RfBoard
