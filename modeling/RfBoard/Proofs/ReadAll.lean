import RfBoard.Proofs.InjectedFailures
import RfBoard.Proofs.WritableBytes

/-!
Reading all parameters of an online board. No read disturbs another.
-/

namespace RfBoard

lemma RegisterMap.nodup_names_standard : (standard.map Register.name).Nodup := by decide +kernel

namespace Station

def reading (setup : Setup) (w : Window) (r : Register) : Except StationError ParamValue :=
  (shown setup r (w.word r.width r.offset)).mapError .domain

structure InReach (setup : Setup) (w : Window) (r : Register) : Prop extends Names setup r.name r where
  notProbed : probedChannel? r.name = none
  fits : w.Fits r.offset r.width.bytes

structure Reads (setup : Setup) (r : Register) (s : Station SimBoard) (x : Except StationError ParamValue)
    (t : Station SimBoard) : Prop where
  result : x = if 0 < s.bus.faults.pending then .error (.transport (.device .injected))
    else reading setup s.bus.window r
  window : t.bus.window = s.bus.window
  online : t.bus.faults.offline = false
  pending : t.bus.faults.pending = s.bus.faults.pending - 1
  remembered : ∀ v, x = .ok v → t.cached r.name = some v
  others : ∀ name, (∀ v, name = r.name → x ≠ .ok v) → t.cached name = s.cached name

section Read

variable {setup : Setup} {s : Station SimBoard} {r : Register}

lemma InReach.readParameter_eq (h : InReach setup s.bus.window r) :
    readParameter setup r.name s = readRegister setup r s := by
  simp only [readParameter, if_neg h.notProbe, h.notProbed, register, h.found, pure_bind]

lemma InReach.reads (h : InReach setup s.bus.window r) (ho : s.bus.faults.offline = false) :
    Reads setup r s (perform (readParameter setup r.name) s).1 (perform (readParameter setup r.name) s).2 := by
  have he := (h.readParameter_eq).trans (readRegister_eq setup s)
  by_cases hp : 0 < s.bus.faults.pending
  · have hs : s.bus.Struck := ⟨ho, hp⟩
    have hr : Transport.read r.width r.offset s.bus = .error (.device .injected) s.bus.hit := hs.readWord_eq
    simp only [hr] at he
    rw [perform, he]
    refine ⟨(if_pos hp).symm, rfl, ho, rfl, ?_, fun _ _ => rfl⟩
    intro v h
    cases h
  · have hs : s.bus.faults.Passes := ⟨ho, by omega⟩
    have hr : Transport.read r.width r.offset s.bus = .ok _ s.bus.counted := SimBoard.readWord_of_passes hs h.fits
    simp only [hr] at he
    have hz : s.bus.faults.pending = s.bus.faults.pending - 1 := by omega
    cases hv : shown setup r (s.bus.window.word r.width r.offset) with
    | error e =>
      have hx : reading setup s.bus.window r = .error (.domain e) := by
        rw [reading, hv]
        rfl
      simp only [hv] at he
      rw [perform, he]
      refine ⟨((if_neg hp).trans hx).symm, rfl, ho, hz, ?_, fun _ _ => rfl⟩
      intro v h
      cases h
    | ok v =>
      have hx : reading setup s.bus.window r = .ok v := by
        rw [reading, hv]
        rfl
      simp only [hv] at he
      rw [perform, he]
      refine ⟨((if_neg hp).trans hx).symm, rfl, ho, hz, ?_, ?_⟩
      · rintro _ ⟨⟩
        rw [cached, NameTable.find_insert, if_pos rfl]
      · intro name hn
        rw [cached, NameTable.find_insert, if_neg fun hr => hn v hr rfl]
        rfl

end Read

section ReadEach

variable {setup : Setup} {s : Station SimBoard} {rs : List Register}

lemma names_readEach (setup : Setup) (rs : List Register) (s : Station SimBoard) :
    (readEach setup rs s).1.map Prod.fst = rs.map Register.name := by
  induction rs generalizing s with
  | nil => rfl
  | cons r rs ih => exact congrArg (r.name :: ·) (ih _)

lemma length_readEach (setup : Setup) (rs : List Register) (s : Station SimBoard) :
    (readEach setup rs s).1.length = rs.length := by
  have hn := congrArg List.length (names_readEach setup rs s)
  rwa [List.length_map, List.length_map] at hn

lemma getElem?_readEach (hr : ∀ r ∈ rs, InReach setup s.bus.window r) (ho : s.bus.faults.offline = false) (i : Nat) :
    (readEach setup rs s).1[i]? = rs[i]?.map fun r => (r.name,
      if i < s.bus.faults.pending then .error (.transport (.device .injected)) else reading setup s.bus.window r) := by
  induction rs generalizing s i with
  | nil => rfl
  | cons r rs ih =>
    obtain ⟨hr, hrs⟩ := List.forall_mem_cons.mp hr
    have h := hr.reads ho
    cases i with
    | zero => exact congrArg (fun x => some (r.name, x)) h.result
    | succ i =>
      rw [← h.window] at hrs
      have hi := ih hrs h.online i
      rw [h.window, h.pending] at hi
      have hc : i < s.bus.faults.pending - 1 ↔ i + 1 < s.bus.faults.pending := by omega
      simp only [hc] at hi
      exact hi

lemma readEach_board (hr : ∀ r ∈ rs, InReach setup s.bus.window r) (ho : s.bus.faults.offline = false) :
    (readEach setup rs s).2.bus.window = s.bus.window ∧
      (readEach setup rs s).2.bus.faults.pending = s.bus.faults.pending - rs.length := by
  induction rs generalizing s with
  | nil => exact ⟨rfl, rfl⟩
  | cons r rs ih =>
    obtain ⟨hr, hrs⟩ := List.forall_mem_cons.mp hr
    have h := hr.reads ho
    rw [← h.window] at hrs
    obtain ⟨hw, hp⟩ := ih hrs h.online
    rw [h.window] at hw
    rw [h.pending, Nat.sub_sub, Nat.add_comm 1] at hp
    exact ⟨hw, hp⟩

lemma cached_readEach (hn : (rs.map Register.name).Nodup) (hr : ∀ r ∈ rs, InReach setup s.bus.window r)
    (ho : s.bus.faults.offline = false) (name : String) :
    (∀ v, (name, .ok v) ∈ (readEach setup rs s).1 → (readEach setup rs s).2.cached name = some v) ∧
      ((∀ v, (name, .ok v) ∉ (readEach setup rs s).1) → (readEach setup rs s).2.cached name = s.cached name) := by
  induction rs generalizing s with
  | nil => exact ⟨fun v hv => absurd hv List.not_mem_nil, fun _ => rfl⟩
  | cons r rs ih =>
    obtain ⟨hr, hrs⟩ := List.forall_mem_cons.mp hr
    obtain ⟨hnr, hnrs⟩ := List.nodup_cons.mp hn
    have h := hr.reads ho
    rw [← h.window] at hrs
    obtain ⟨hkeeps, hleaves⟩ := ih hnrs hrs h.online
    rw [readEach]
    constructor
    · intro v hv
      obtain he | hv := List.mem_cons.mp hv
      · obtain ⟨rfl, hx⟩ := Prod.mk.inj he
        -- later reads have other names
        refine (hleaves fun w hw => hnr ?_).trans (h.remembered v hx.symm)
        rw [← names_readEach]
        exact List.mem_map_of_mem hw
      · exact hkeeps v hv
    · intro hv
      refine (hleaves fun w hw => hv w (List.mem_cons_of_mem _ hw)).trans (h.others name ?_)
      rintro w rfl hx
      exact hv w (List.mem_cons.mpr (.inl (Prod.ext rfl hx.symm)))

end ReadEach

section Standard

variable {cal : Calibration} {w : Window} {r : Register}

lemma inReach_standard (hz : 588 ≤ w.bytes.size) (hr : r ∈ RegisterMap.standard) : InReach (.standard cal) w r where
  toNames := .of_standard rfl hr
  notProbed := (RegisterMap.standard_notTelemetry r hr).2
  fits := by
    obtain ⟨hw, ho⟩ := RegisterMap.standard_layout r hr
    rw [hw]
    exact ho.trans hz

end Standard

/-- Reading all parameters of an online board gives each of the 91 its own entry, in the order of the map. The first
of them meet the failures that are left, one each; the others are what a read of that name alone gives, the value of
the word or the reason why it has none. The values read are remembered, and nothing else has changed. -/
theorem readAll_complete (cal : Calibration) (s : Station SimBoard) (hz : 588 ≤ s.bus.window.bytes.size)
    (ho : s.bus.faults.offline = false) :
    let hits := min s.bus.faults.pending 91
    let results := (readAll (.standard cal) s).1
    let t := (readAll (.standard cal) s).2
    results.map Prod.fst = RegisterMap.standard.map Register.name ∧ results.length = 91 ∧
      (∀ i < hits, (results[i]?).map Prod.snd = some (.error (.transport (.device .injected)))) ∧
      (∀ i r, hits ≤ i → RegisterMap.standard[i]? = some r →
        results[i]? = some (r.name, (shown (.standard cal) r (s.bus.window.word r.width r.offset)).mapError .domain) ∧
          ∀ u : Station SimBoard, u.bus.window = s.bus.window → u.bus.faults.Passes →
            results[i]? = some (r.name, (perform (readParameter (.standard cal) r.name) u).1)) ∧
      t.bus.faults.pending = s.bus.faults.pending - hits ∧
      (∀ name v, (name, .ok v) ∈ results → t.cached name = some v) ∧
      (∀ name, (∀ v, (name, .ok v) ∉ results) → t.cached name = s.cached name) ∧
      t.bus.window = s.bus.window := by
  have hlength : RegisterMap.standard.length = 91 := rfl
  have hnodup := RegisterMap.nodup_names_standard
  have hr : ∀ r ∈ RegisterMap.standard, InReach (.standard cal) s.bus.window r := fun r => inReach_standard hz
  have heq : readAll (.standard cal) s = readEach (.standard cal) RegisterMap.standard s := rfl
  rw [heq]
  -- from here on the map matters no more
  generalize RegisterMap.standard = m at hlength hnodup hr ⊢
  intro hits results t
  have hentry := getElem?_readEach hr ho
  have hcached := cached_readEach hnodup hr ho
  obtain ⟨hwindow, hpending⟩ := readEach_board hr ho
  refine ⟨names_readEach _ _ s, (length_readEach _ _ s).trans hlength, ?_, ?_, ?_, fun name => (hcached name).1,
    fun name => (hcached name).2, hwindow⟩
  · intro i hi
    obtain ⟨hp, hl⟩ := lt_min_iff.mp hi
    rw [hentry, List.getElem?_eq_getElem (hlength ▸ hl), Option.map_some, Option.map_some, if_pos hp]
  · intro i r hi hm
    obtain ⟨hl, -⟩ := List.getElem?_eq_some_iff.mp hm
    have hp : ¬ i < s.bus.faults.pending := by omega
    have hx : results[i]? = some (r.name, reading (.standard cal) s.bus.window r) := by
      rw [hentry, hm, Option.map_some, if_neg hp]
    refine ⟨hx, fun u hu hpass => ?_⟩
    have h : InReach (.standard cal) u.bus.window r := hu ▸ hr r (List.mem_of_getElem? hm)
    have hu' := (h.reads hpass.1).result
    rw [hpass.2, if_neg (Nat.lt_irrefl 0), hu] at hu'
    rw [hx, hu']
  · have hsub : s.bus.faults.pending - 91 = s.bus.faults.pending - min s.bus.faults.pending 91 := by omega
    rw [hpending, hlength, hsub]

theorem readAll_complete_struck :
    let s := (ofSize 588).changeBoard (·.failNext 2)
    let results := (readAll (.standard .standard) s).1
    (588 ≤ s.bus.window.bytes.size ∧ s.bus.faults.offline = false) ∧ results.length = 91 ∧
      (results[1]?).map Prod.snd = some (.error (.transport (.device .injected))) ∧
      (results[2]?).map (fun x => (x.1, x.2.isOk)) = some ("RF_PW_CW", true) ∧
      (readAll (.standard .standard) s).2.bus.faults.pending = 0 := by
  intro s results
  have hz : 588 ≤ s.bus.window.bytes.size := by decide +kernel
  obtain ⟨-, hl, hi, ha, hp, -⟩ := readAll_complete .standard s hz rfl
  obtain ⟨hx, -⟩ := ha 2 (.settingInt "RF_PW_CW" 8) (by decide) rfl
  have hok : ((shown (.standard .standard) (.settingInt "RF_PW_CW" 8)
      (s.bus.window.word .u32 8)).mapError StationError.domain).isOk = true := by decide +kernel
  refine ⟨⟨hz, rfl⟩, hl, hi 1 (by decide), ?_, hp⟩
  rw [hx, Option.map_some]
  exact congrArg (fun b => some ("RF_PW_CW", b)) hok

end Station

end RfBoard
