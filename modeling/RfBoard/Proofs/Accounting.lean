import RfBoard.Bench.Run
import RfBoard.Proofs.ReadyWord

/-!
The books of an acquisition over whole runs, whatever happens outside between its rounds.
-/

namespace RfBoard

namespace Listener

def hearAll (l : Listener) (notices : List Notice) : Listener := notices.foldl hear l

lemma hearAll_append (l : Listener) (ns ms : List Notice) : l.hearAll (ns ++ ms) = (l.hearAll ns).hearAll ms :=
  List.foldl_append

lemma hearAll_journal (ns ms : List Notice) : (journal ns).hearAll ms = journal (ns ++ ms) := by
  induction ms generalizing ns with
  | nil =>
    rw [List.append_nil]
    rfl
  | cons m ms ih =>
    rw [List.append_cons]
    exact ih (ns ++ [m])

end Listener

namespace Listeners

lemma getElem?_notify (l : Listeners) (notice : Notice) (i : Nat) :
    (l.notify notice).all[i]? = l.all[i]?.map ((·.hear notice)^[l.attached.count i]) := by
  obtain ⟨all, attached⟩ := l
  induction attached generalizing all with
  | nil => simp [notify]
  | cons j attached ih =>
    refine (ih (all.modify j (·.hear notice))).trans ?_
    simp only [Array.getElem?_modify, List.count_cons, beq_iff_eq]
    by_cases hj : j = i
    · subst hj
      simp only [if_true, Option.map_map]
      rfl
    · simp only [if_neg hj, Nat.add_zero]

lemma getElem?_notify_of_attached {l : Listeners} {i : Nat} (notice : Notice) (h : l.attached.count i = 1) :
    (l.notify notice).all[i]? = l.all[i]?.map (·.hearAll [notice]) := by
  rw [getElem?_notify, h]
  rfl

end Listeners

structure Round where
  outcome : Except StationError CycleOutcome
  stages : List Phase
  frame : Frame

namespace Round

def frame? (r : Round) : Option Frame :=
  match r.outcome with
  | .ok (.published _ _) => some r.frame
  | _ => none

def error? (r : Round) : Option StationError :=
  match r.outcome with
  | .error e => some e
  | _ => none

def isSkipped (r : Round) : Bool :=
  match r.outcome with
  | .ok .notReady => true
  | _ => false

def notice? (r : Round) : Option Notice :=
  match r.outcome with
  | .ok (.published _ _) => some (.published r.frame)
  | .ok .notReady => none
  | .error e => some (.failed e)

def frames (rs : List Round) : List Frame := rs.filterMap frame?

def errors (rs : List Round) : List StationError := rs.filterMap error?

def notices (rs : List Round) : List Notice := rs.filterMap notice?

variable {rs : List Round} {r : Round}

lemma filterMap_concat {α : Type} (f : Round → Option α) : (rs ++ [r]).filterMap f = rs.filterMap f ++ (f r).toList := by
  rw [List.filterMap_append, List.filterMap_cons]
  cases f r <;> rfl

lemma frames_concat : frames (rs ++ [r]) = frames rs ++ r.frame?.toList := filterMap_concat frame?

lemma errors_concat : errors (rs ++ [r]) = errors rs ++ r.error?.toList := filterMap_concat error?

lemma notices_concat : notices (rs ++ [r]) = notices rs ++ r.notice?.toList := filterMap_concat notice?

lemma length_eq_sum (rs : List Round) :
    (frames rs).length + (errors rs).length + rs.countP isSkipped = rs.length := by
  induction rs with
  | nil => rfl
  | cons r rs ih =>
    obtain ⟨outcome, stages, frame⟩ := r
    simp only [frames, errors] at ih
    rcases outcome with e | ⟨cycle, faults⟩ | _ <;>
      simp only [frames, errors, List.filterMap_cons, List.countP_cons, List.length_cons, frame?, error?, isSkipped,
        Bool.false_eq_true, if_true, if_false] <;> omega

def allStages : List Phase := [.fetching, .converting, .publishing]

structure Regular (r : Round) : Prop where
  stages_ne_nil : r.stages ≠ []
  stages_prefix : r.stages <+: allStages
  stages_eq_iff : r.stages = allStages ↔ ∃ cycle faults, r.outcome = .ok (.published cycle faults)
  outcome : ∀ cycle faults, r.outcome = .ok (.published cycle faults) →
    cycle = r.frame.cycle ∧ faults = r.frame.totalFaults

end Round

namespace Station

open Round

section Exit

variable {σ : Type} [Transport σ] {plan : Plan} {s s' : Station σ} {r : Round} {bus : σ}

def round (plan : Plan) (cal : Calibration) (s : Station σ) : Round × Station σ :=
  let (outcome, after) := iterate plan cal s
  (⟨outcome, (perform (acquire plan cal) s).2.trail.reverse, after.store.frame⟩, after)

omit [Transport σ] in
inductive RoundExit (s : Station σ) : Round → Station σ → Prop
  | published {frame : Frame} {bus : σ} {buffers : Buffers} : frame.cycle = s.store.frame.cycle + 1 →
      RoundExit s ⟨.ok (.published frame.cycle frame.totalFaults), allStages, frame⟩
        { s with
          bus, buffers, trail := []
          store := (s.store.publish frame).1
          listeners := s.listeners.notify (.published frame)
          metrics := { s.metrics with
            ok := s.metrics.ok + 1
            domainFaults := s.metrics.domainFaults + frame.totalFaults.toUInt64 } }
  | skipped {bus : σ} :
      RoundExit s ⟨.ok .notReady, [.fetching], s.store.frame⟩
        { s with bus, trail := [], metrics := { s.metrics with skipped := s.metrics.skipped + 1 } }
  | failed {e : StationError} {bus : σ} {buffers : Buffers} :
      RoundExit s ⟨.error e, [.fetching], s.store.frame⟩
        { s with
          bus, buffers, trail := []
          listeners := s.listeners.notify (.failed e)
          metrics := { s.metrics with failed := s.metrics.failed + 1 } }

lemma round_exit (plan : Plan) (cal : Calibration) (h : s.trail = []) :
    RoundExit s (s.round plan cal).1 (s.round plan cal).2 := by
  have hx := acquire_exit plan cal s
  rw [round, iterate, perform]
  generalize acquire plan cal s = res at hx
  obtain ⟨bus, cache, store, listeners, metrics, buffers, trail⟩ := s
  obtain rfl : trail = [] := h
  cases hx with
  | unread _ _ => exact .failed
  | notReady _ _ => exact .skipped
  | uncleared _ _ _ _ => exact .failed
  | unfetched _ _ => exact .failed
  | published _ _ _ => exact .published rfl

lemma round_skipped (cal : Calibration) (h : plan.handshake = true)
    (hr : Transport.readWord .u32 readyOffset s.bus = .ok 0 bus) :
    ∃ r s', s.round plan cal = (r, s') ∧ r.outcome = .ok .notReady ∧ s'.bus = bus := by
  rw [round, iterate, perform, acquire_of_zero h hr]
  exact ⟨_, _, rfl, rfl, rfl⟩

lemma round_unread (cal : Calibration) {e : TransportError} (h : plan.handshake = true)
    (hr : Transport.readWord .u32 readyOffset s.bus = .error e bus) :
    ∃ r s', s.round plan cal = (r, s') ∧ r.outcome = .error (.transport e) ∧ s'.bus = bus := by
  rw [round, iterate, perform, acquire_unread h hr]
  exact ⟨_, _, rfl, rfl, rfl⟩

lemma round_published (cal : Calibration) (h : Cleared plan s.bus bus)
    (ho : (Transport.readBulk plan.waveformOffset s.buffers.bytes bus).outcome = .ok ()) :
    ∃ r s' cycle faults, s.round plan cal = (r, s') ∧ r.outcome = .ok (.published cycle faults) := by
  obtain ⟨raw, _, ha⟩ := acquire_published cal h ho
  rw [round, iterate, perform, ha]
  exact ⟨_, _, _, _, rfl, rfl⟩

end Exit

section Balance

variable {σ : Type} {kept : Set Nat} {start s s' : Station σ} {rs : List Round} {r : Round}

lemma RoundExit.regular (h : RoundExit s r s') : r.Regular := by
  cases h with
  | published _ =>
    refine ⟨by simp [allStages], List.prefix_refl _, by simp, ?_⟩
    rintro cycle faults h
    injection h with h
    injection h with hc hf
    exact ⟨hc.symm, hf.symm⟩
  | skipped => constructor <;> simp [allStages]
  | failed => constructor <;> simp [allStages]

/-- What may happen while the acquisition rests: anything, as long as nobody else publishes, counts cycles, or
touches the kept listeners. -/
structure Outside (kept : Set Nat) (s s' : Station σ) : Prop where
  trail : s'.trail = s.trail
  frame : s'.store.frame = s.store.frame
  ok : s'.metrics.ok = s.metrics.ok
  failed : s'.metrics.failed = s.metrics.failed
  skipped : s'.metrics.skipped = s.metrics.skipped
  domainFaults : s'.metrics.domainFaults = s.metrics.domainFaults
  attached : ∀ i ∈ kept, s'.listeners.attached.count i = s.listeners.attached.count i
  listener : ∀ i ∈ kept, s'.listeners.all[i]? = s.listeners.all[i]?

structure Fresh (kept : Set Nat) (s : Station σ) : Prop where
  trail : s.trail = []
  cycle : s.store.frame.cycle = 0
  metrics : s.metrics = {}
  attached : ∀ i ∈ kept, s.listeners.attached.count i = 1

structure Balanced (kept : Set Nat) (start : Station σ) (rs : List Round) (s : Station σ) : Prop where
  trail : s.trail = []
  ok : s.metrics.ok = UInt64.ofNat (frames rs).length
  failed : s.metrics.failed = UInt64.ofNat (errors rs).length
  skipped : s.metrics.skipped = UInt64.ofNat (rs.countP isSkipped)
  domainFaults : s.metrics.domainFaults = UInt64.ofNat ((frames rs).map (·.totalFaults.toNat)).sum
  cycle : s.store.frame.cycle = s.metrics.ok
  numbers : (frames rs).map (·.cycle) = (List.range' 1 (frames rs).length).map UInt64.ofNat
  attached : ∀ i ∈ kept, s.listeners.attached.count i = 1
  heard : ∀ i ∈ kept, s.listeners.all[i]? = start.listeners.all[i]?.map (·.hearAll (notices rs))
  regular : ∀ r ∈ rs, r.Regular

lemma Fresh.balanced (h : Fresh kept start) : Balanced kept start [] start where
  trail := h.trail
  ok := by rw [h.metrics]; rfl
  failed := by rw [h.metrics]; rfl
  skipped := by rw [h.metrics]; rfl
  domainFaults := by rw [h.metrics]; rfl
  cycle := by rw [h.cycle, h.metrics]
  numbers := rfl
  attached := h.attached
  heard i _ := by cases start.listeners.all[i]? <;> rfl
  regular _ hr := nomatch hr

lemma Balanced.outside (h : Balanced kept start rs s) (ho : Outside kept s s') : Balanced kept start rs s' where
  trail := ho.trail.trans h.trail
  ok := ho.ok.trans h.ok
  failed := ho.failed.trans h.failed
  skipped := ho.skipped.trans h.skipped
  domainFaults := ho.domainFaults.trans h.domainFaults
  cycle := by rw [ho.frame, ho.ok, h.cycle]
  numbers := h.numbers
  attached i hi := (ho.attached i hi).trans (h.attached i hi)
  heard i hi := (ho.listener i hi).trans (h.heard i hi)
  regular := h.regular

lemma ofNat_succ (n : Nat) : UInt64.ofNat (n + 1) = UInt64.ofNat n + 1 := UInt64.ofNat_add n 1

lemma Balanced.hear (h : Balanced kept start rs s) (notice : Notice) {i : Nat} (hi : i ∈ kept) :
    (s.listeners.notify notice).all[i]? = start.listeners.all[i]?.map (·.hearAll (notices rs ++ [notice])) := by
  rw [Listeners.getElem?_notify_of_attached notice (h.attached i hi), h.heard i hi, Option.map_map]
  simp only [Function.comp_def, Listener.hearAll_append]

lemma Balanced.regular_concat (h : Balanced kept start rs s) (hx : RoundExit s r s') : ∀ r' ∈ rs ++ [r], r'.Regular := by
  intro r' hr
  rcases List.mem_append.mp hr with hr | hr
  · exact h.regular r' hr
  · rw [List.mem_singleton.mp hr]
    exact hx.regular

lemma Balanced.round (h : Balanced kept start rs s) (hx : RoundExit s r s') : Balanced kept start (rs ++ [r]) s' := by
  have hr := h.regular_concat hx
  cases hx with
  | @published frame bus buffers hc =>
    have hn : frame.cycle = UInt64.ofNat ((frames rs).length + 1) := by rw [hc, h.cycle, h.ok, ofNat_succ]
    refine ⟨rfl, ?_, ?_, ?_, ?_, ?_, ?_, h.attached, ?_, hr⟩
    · rw [frames_concat, List.length_append, h.ok]
      exact (ofNat_succ _).symm
    · simpa [errors_concat, error?] using h.failed
    · simpa [isSkipped] using h.skipped
    · rw [frames_concat, List.map_append, List.sum_append, UInt64.ofNat_add, ← h.domainFaults]
      simp [frame?]
    · change frame.cycle = s.metrics.ok + 1
      rw [hc, h.cycle]
    · rw [frames_concat]
      change ((frames rs) ++ [frame]).map (·.cycle) = (List.range' 1 (frames rs ++ [frame]).length).map UInt64.ofNat
      rw [List.map_append, h.numbers, List.length_append, List.length_singleton, List.range'_1_concat, List.map_append,
        List.map_singleton, List.map_singleton, hn, Nat.add_comm 1]
    · intro i hi
      rw [notices_concat]
      exact h.hear _ hi
  | skipped =>
    refine ⟨rfl, ?_, ?_, ?_, ?_, h.cycle, ?_, h.attached, ?_, hr⟩
    · simpa [frames_concat, frame?] using h.ok
    · simpa [errors_concat, error?] using h.failed
    · rw [List.countP_append, h.skipped]
      exact (ofNat_succ _).symm
    · simpa [frames_concat, frame?] using h.domainFaults
    · simpa [frames_concat, frame?] using h.numbers
    · intro i hi
      simpa [notices_concat, notice?] using h.heard i hi
  | failed =>
    refine ⟨rfl, ?_, ?_, ?_, ?_, h.cycle, ?_, h.attached, ?_, hr⟩
    · simpa [frames_concat, frame?] using h.ok
    · rw [errors_concat, List.length_append, h.failed]
      exact (ofNat_succ _).symm
    · simpa [isSkipped] using h.skipped
    · simpa [frames_concat, frame?] using h.domainFaults
    · simpa [frames_concat, frame?] using h.numbers
    · intro i hi
      rw [notices_concat]
      exact h.hear _ hi

lemma Balanced.total (h : Balanced kept start rs s) :
    s.metrics.ok + s.metrics.failed + s.metrics.skipped = UInt64.ofNat rs.length := by
  rw [h.ok, h.failed, h.skipped, ← length_eq_sum rs, UInt64.ofNat_add, UInt64.ofNat_add]

structure Exact (rs : List Round) (s : Station σ) : Prop where
  total : s.metrics.ok.toNat + s.metrics.failed.toNat + s.metrics.skipped.toNat = rs.length
  numbers : (frames rs).map (·.cycle.toNat) = List.range' 1 s.metrics.ok.toNat
  domainFaults : ((frames rs).map (·.totalFaults.toNat)).sum < 2 ^ 64 →
    s.metrics.domainFaults.toNat = ((frames rs).map (·.totalFaults.toNat)).sum

lemma toNat_ofNat {n : Nat} (h : n < 2 ^ 64) : (UInt64.ofNat n).toNat = n := UInt64.toNat_ofNat_of_lt' h

lemma Balanced.exact (h : Balanced kept start rs s) (hl : rs.length < 2 ^ 64) : Exact rs s := by
  have ht := length_eq_sum rs
  have hok : s.metrics.ok.toNat = (frames rs).length := by rw [h.ok, toNat_ofNat (by omega)]
  have hfailed : s.metrics.failed.toNat = (errors rs).length := by rw [h.failed, toNat_ofNat (by omega)]
  have hskipped : s.metrics.skipped.toNat = rs.countP isSkipped := by rw [h.skipped, toNat_ofNat (by omega)]
  refine ⟨by omega, ?_, fun hs => by rw [h.domainFaults, toNat_ofNat hs]⟩
  have hn : (frames rs).map (·.cycle.toNat) = ((frames rs).map (·.cycle)).map UInt64.toNat := by
    rw [List.map_map]
    rfl
  rw [hn, h.numbers, hok, List.map_map]
  -- none of the numbers is cut
  apply (List.map_congr_left ?_).trans (List.map_id _)
  intro n hm
  obtain ⟨_, hu⟩ := List.mem_range'_1.mp hm
  exact toNat_ofNat (by omega)

end Balance

end Station

namespace Run

open Station

def rounds (plan : Plan) (cal : Calibration) :
    (fuel left : Nat) → List (ScriptedBoard → ScriptedBoard) → Station ScriptedBoard → List Round
  | 0, _, _, _ => []
  | fuel + 1, left, actions, s =>
    if s.bus.running then
      let (r, s) := s.round plan cal
      if isEvent r.outcome then
        let s := match actions with
          | [] => s
          | action :: _ => onBoard action s
        if left ≤ 1 then [r] else r :: rounds plan cal fuel (left - 1) actions.tail s
      else r :: rounds plan cal fuel left actions s
    else []

lemma cycles_succ (plan : Plan) (cal : Calibration) (fuel left : Nat) (actions : List (ScriptedBoard → ScriptedBoard))
    (s : Station ScriptedBoard) : cycles plan cal (fuel + 1) left actions s =
      if s.bus.running then
        let (r, s) := s.round plan cal
        if isEvent r.outcome then
          let s := match actions with
            | [] => s
            | action :: _ => onBoard action s
          if left ≤ 1 then onBoard ScriptedBoard.stop s else cycles plan cal fuel (left - 1) actions.tail s
        else cycles plan cal fuel left actions s
      else s := rfl

end Run

namespace Station

variable {σ : Type} [Transport σ] {plan : Plan} {cal : Calibration} {kept : Set Nat} {start s : Station σ}
  {rs : List Round}

inductive Rounds (plan : Plan) (cal : Calibration) (kept : Set Nat) (start : Station σ) :
    List Round → Station σ → Prop
  | start : Rounds plan cal kept start [] start
  | outside {rs : List Round} {s s' : Station σ} : Rounds plan cal kept start rs s → Outside kept s s' →
      Rounds plan cal kept start rs s'
  | round {rs : List Round} {s : Station σ} : Rounds plan cal kept start rs s →
      Rounds plan cal kept start (rs ++ [(s.round plan cal).1]) (s.round plan cal).2

lemma Rounds.balanced (hf : Fresh kept start) (h : Rounds plan cal kept start rs s) : Balanced kept start rs s := by
  induction h with
  | start => exact hf.balanced
  | outside _ ho ih => exact ih.outside ho
  | round _ ih => exact ih.round (round_exit plan cal ih.trail)

lemma Rounds.onBoard {start s : Station ScriptedBoard} (f : ScriptedBoard → ScriptedBoard)
    (h : Rounds plan cal kept start rs s) : Rounds plan cal kept start rs (Run.onBoard f s) :=
  h.outside ⟨rfl, rfl, rfl, rfl, rfl, rfl, fun _ _ => rfl, fun _ _ => rfl⟩

lemma Rounds.cycles {start s : Station ScriptedBoard} {actions : List (ScriptedBoard → ScriptedBoard)} {fuel left : Nat}
    (h : Rounds plan cal kept start rs s) :
    Rounds plan cal kept start (rs ++ Run.rounds plan cal fuel left actions s)
      (Run.cycles plan cal fuel left actions s) := by
  induction fuel generalizing left actions rs s with
  | zero => rwa [Run.rounds, List.append_nil]
  | succ fuel ih =>
    have hr : Rounds plan cal kept start (rs ++ [(s.round plan cal).1]) (s.round plan cal).2 := h.round
    have hd {left actions s'} (h' : Rounds plan cal kept start (rs ++ [(s.round plan cal).1]) s') :
        Rounds plan cal kept start (rs ++ (s.round plan cal).1 :: Run.rounds plan cal fuel left actions s')
          (Run.cycles plan cal fuel left actions s') := by
      rw [List.append_cons]
      exact ih h'
    have hend {s'} (h' : Rounds plan cal kept start (rs ++ [(s.round plan cal).1]) s') :
        Rounds plan cal kept start
          (rs ++ if left ≤ 1 then [(s.round plan cal).1]
            else (s.round plan cal).1 :: Run.rounds plan cal fuel (left - 1) actions.tail s')
          (if left ≤ 1 then Run.onBoard ScriptedBoard.stop s'
            else Run.cycles plan cal fuel (left - 1) actions.tail s') := by
      split
      · exact h'.onBoard _
      · exact hd h'
    rw [Run.cycles_succ, Run.rounds]
    dsimp only
    split
    · split
      · cases actions with
        | nil => exact hend hr
        | cons action _ => exact hend (hr.onBoard action)
      · exact hd hr
    · rwa [List.append_nil]

lemma Rounds.of_run (plan : Plan) (cal : Calibration) (kept : Set Nat) (fuel left : Nat)
    (actions : List (ScriptedBoard → ScriptedBoard)) (s : Station ScriptedBoard) :
    Rounds plan cal kept s (Run.rounds plan cal fuel left actions s) (Run.cycles plan cal fuel left actions s) :=
  Rounds.start.cycles

end Station

open Station Round

/-- After each round of an acquisition that alone publishes and counts, the station rests, and its books
balance. -/
theorem rounds_balance {σ : Type} [Transport σ] (plan : Plan) (cal : Calibration) (kept : Set Nat)
    (start s : Station σ) (rs : List Round) (hf : Fresh kept start) (h : Rounds plan cal kept start rs s) :
    s.phase = .idle ∧ Balanced kept start rs s ∧
      s.metrics.ok + s.metrics.failed + s.metrics.skipped = UInt64.ofNat rs.length ∧
      (∀ i ∈ kept, ∀ notices, start.listeners.all[i]? = some (.journal notices) →
        s.listeners.all[i]? = some (.journal (notices ++ Round.notices rs))) ∧
      (rs.length < 2 ^ 64 → Exact rs s) := by
  have hb := h.balanced hf
  refine ⟨by rw [phase, hb.trail]; rfl, hb, hb.total, ?_, hb.exact⟩
  intro i hi notices hj
  rw [hb.heard i hi, hj, Option.map_some, Listener.hearAll_journal]

def Station.scripted (board : SimBoard) : Station ScriptedBoard where
  bus := { board, failAfter := some 1, ready := some [0, 1, 1] }
  listeners := Listeners.attach {} (.journal [])

lemma Station.fresh_scripted (board : SimBoard) : Fresh {0} (scripted board) where
  trail := rfl
  cycle := rfl
  metrics := rfl
  attached i hi := by
    rw [Set.mem_singleton_iff.mp hi]
    rfl

lemma Station.rounds_scripted (plan : Plan) (cal : Calibration) {board : SimBoard} {v : UInt32}
    (hh : plan.handshake = true) (hr : readyOffset < plan.waveformOffset)
    (hf : plan.waveformOffset.toNat + 114688 ≤ SimBoard.windowSize) (h : SimBoard.Holding v board) :
    ∃ skipped failed published cycle faults,
      Run.rounds plan cal 4 2 [] (scripted board) = [skipped, failed, published] ∧
      skipped.outcome = .ok .notReady ∧ failed.outcome = .error (.transport (.device .scripted)) ∧
      published.outcome = .ok (.published cycle faults) := by
  obtain ⟨b₁, hr₁, hb₁⟩ : ∃ b, Transport.readWord .u32 readyOffset (scripted board).bus =
      .ok 0 (⟨b, some 0, some [1, 1], true⟩ : ScriptedBoard) ∧ SimBoard.Holding 0 b :=
    ScriptedBoard.readWord_scripted h (by decide) 0
  obtain ⟨skipped, s₁, h₁, hskip, hs₁⟩ := round_skipped cal hh hr₁
  obtain ⟨b₂, hr₂, hb₂⟩ : ∃ b, Transport.readWord .u32 readyOffset s₁.bus =
      .error (.device .scripted) (⟨b, none, some [1], true⟩ : ScriptedBoard) ∧ SimBoard.Holding 1 b :=
    hs₁ ▸ ScriptedBoard.readWord_refused hb₁ 1
  obtain ⟨failed, s₂, h₂, hfail, hs₂⟩ := round_unread cal hh hr₂
  obtain ⟨b₃, hr₃, hb₃⟩ : ∃ b, Transport.readWord .u32 readyOffset s₂.bus =
      .ok 1 (⟨b, none, some [], true⟩ : ScriptedBoard) ∧ SimBoard.Holding 1 b :=
    hs₂ ▸ ScriptedBoard.readWord_scripted (n := none) hb₂ nofun 1
  obtain ⟨b₄, hw, hb₄⟩ : ∃ b, Transport.writeWord .u32 readyOffset 0 (⟨b₃, none, some [], true⟩ : ScriptedBoard) =
      .ok () ⟨b, none, some [], true⟩ ∧ SimBoard.Holding 0 b := ScriptedBoard.clear_scripted hb₃
  have hsize := s₂.buffers.size_bytes
  have hbulk : (Transport.readBulk plan.waveformOffset s₂.buffers.bytes
      (⟨b₄, none, some [], true⟩ : ScriptedBoard)).outcome = .ok () :=
    ScriptedBoard.readBulk_scripted hb₄ (by omega) hr (by omega)
  obtain ⟨published, s₃, cycle, faults, h₃, hpub⟩ := round_published cal (.cleared hh hr₃ (by decide) hw) hbulk
  refine ⟨skipped, failed, published, cycle, faults, ?_, hskip, hfail, hpub⟩
  have hrun : (scripted board).bus.running = true := rfl
  have hrun₁ : s₁.bus.running = true := by rw [hs₁]
  have hrun₂ : s₂.bus.running = true := by rw [hs₂]
  simp [Run.rounds, h₁, h₂, h₃, hrun, hrun₁, hrun₂, hskip, hfail, hpub, Run.isEvent]

theorem rounds_balance_scripted : ∃ skipped failed published s,
    Run.rounds { handshake := true } .standard 4 2 [] (scripted (SimBoard.ofSize SimBoard.windowSize)) =
        [skipped, failed, published] ∧
      Run.cycles { handshake := true } .standard 4 2 [] (scripted (SimBoard.ofSize SimBoard.windowSize)) = s ∧
      skipped.outcome = .ok .notReady ∧ failed.outcome = .error (.transport (.device .scripted)) ∧
      s.phase = .idle ∧ s.metrics.ok = 1 ∧ s.metrics.failed = 1 ∧ s.metrics.skipped = 1 ∧
      published.frame.cycle = 1 ∧
      s.listeners.all[0]? = some (.journal [.failed (.transport (.device .scripted)), .published published.frame]) := by
  obtain ⟨skipped, failed, published, cycle, faults, hr, hskip, hfail, hpub⟩ :=
    rounds_scripted { handshake := true } .standard rfl (by decide) (by decide) SimBoard.holding_ofSize
  have hc := Rounds.of_run { handshake := true } .standard {0} 4 2 [] (scripted (SimBoard.ofSize SimBoard.windowSize))
  rw [hr] at hc
  obtain ⟨hp, hb, _, hj, _⟩ := rounds_balance { handshake := true } .standard {0} _ _ _ (fresh_scripted _) hc
  have hn : notices [skipped, failed, published] =
      [.failed (.transport (.device .scripted)), .published published.frame] := by
    simp [notices, notice?, hskip, hfail, hpub]
  refine ⟨skipped, failed, published, _, hr, rfl, hskip, hfail, hp, ?_, ?_, ?_, ?_, ?_⟩
  · simp [hb.ok, frames, frame?, hskip, hfail, hpub]
  · simp [hb.failed, errors, error?, hskip, hfail, hpub]
  · simp [hb.skipped, isSkipped, hskip, hfail, hpub]
  · simpa [frames, frame?, hskip, hfail, hpub] using hb.numbers
  · rw [hj 0 rfl [] rfl, hn]
    rfl

end RfBoard
