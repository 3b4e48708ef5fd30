import RfBoard.Proofs.Recorder
import RfBoard.Proofs.WordConversion

/-!
The manual clear register over runs. Whether a write is a pulse is told by the integer part of its value, and
its word by the nearest integer.
-/

namespace RfBoard

def Released (offset : UInt32) (ws : List Write) : Prop :=
  ∀ (i : Nat) (w : Write), ws[i]? = some w → w.offset = offset → w.value = 1 →
    ∃ w' : Write, ws[i + 1]? = some w' ∧ w'.offset = offset ∧ w'.value = 0

section Released

variable {offset : UInt32} {vs ws : List Write} {w w' : Write}

lemma released_nil : Released offset [] := fun _ _ h => nomatch h

lemma Released.append (h : Released offset vs) (h' : Released offset ws) : Released offset (vs ++ ws) := by
  intro i w hi ho hv
  rcases Nat.lt_or_ge i vs.length with hl | hl
  · rw [List.getElem?_append_left hl] at hi
    obtain ⟨w', hw', hc⟩ := h i w hi ho hv
    obtain ⟨hl', _⟩ := List.getElem?_eq_some_iff.mp hw'
    exact ⟨w', by rwa [List.getElem?_append_left hl'], hc⟩
  · rw [List.getElem?_append_right hl] at hi
    obtain ⟨w', hw', hc⟩ := h' _ w hi ho hv
    refine ⟨w', ?_, hc⟩
    rwa [List.getElem?_append_right (by omega), Nat.sub_add_comm hl]

lemma released_single : Released offset [w] ↔ (w.offset = offset → w.value ≠ 1) := by
  constructor
  · intro h ho hv
    obtain ⟨w', hw', _⟩ := h 0 w List.getElem?_cons_zero ho hv
    rw [List.getElem?_cons_succ, List.getElem?_nil] at hw'
    exact nomatch hw'
  · intro h i v hi ho hv
    obtain ⟨hl, rfl⟩ := List.getElem?_eq_some_iff.mp hi
    obtain rfl : i = 0 := by simpa using hl
    exact absurd hv (h ho)

lemma released_pulse (h : w'.offset = offset) (h₀ : w'.value = 0) : Released offset [w, w'] := by
  intro i v hi ho hv
  obtain ⟨hl, rfl⟩ := List.getElem?_eq_some_iff.mp hi
  match i, hl with
  | 0, _ => exact ⟨w', rfl, h, h₀⟩
  | 1, _ =>
    rw [List.getElem_cons_succ, List.getElem_cons_zero, h₀] at hv
    exact absurd hv (by decide)

end Released

lemma RegisterMap.standard_offset : ∀ r ∈ standard,
    (r.name = Register.manualClear → r.offset = 236) ∧
      (r.name ≠ Register.manualClear → r.offset.toNat + 4 ≤ 236 ∨ 240 ≤ r.offset.toNat) := by decide

namespace Recorder

structure Quiet (bus : Recorder SimBoard) : Prop extends Open bus where
  released : Released 236 bus.writes
  low : bus.word 236 ≠ 1

variable {bus after : Recorder SimBoard} {offset value : UInt32}

lemma Quiet.onlyReads (h : Quiet bus) (hr : OnlyReads bus after) : Quiet after where
  toOpen := hr.open h.toOpen
  released := by
    rw [hr.writes]
    exact h.released
  low := by
    rw [hr.word_eq]
    exact h.low

lemma Quiet.wrote_elsewhere (h : Quiet bus) (ho : offset.toNat + 4 ≤ 236 ∨ 240 ≤ offset.toNat) :
    Quiet (bus.wrote offset value) where
  toOpen := h.toOpen.wrote offset value
  released := h.released.append (released_single.mpr fun he => by
    obtain rfl : offset = 236 := he
    exact absurd ho (by decide))
  low := by
    have hd : offset.toNat + 4 ≤ (236 : UInt32).toNat ∨ (236 : UInt32).toNat + 4 ≤ offset.toNat := ho
    rw [word_wrote_of_disjoint hd]
    exact h.low

lemma Quiet.wrote_low (h : Quiet bus) (hv : value ≠ 1) : Quiet (bus.wrote 236 value) where
  toOpen := h.toOpen.wrote 236 value
  released := h.released.append (released_single.mpr fun _ => hv)
  low := by
    rw [word_wrote h.toOpen (by decide)]
    exact hv

lemma Quiet.wrote_pulse (h : Quiet bus) : Quiet ((bus.wrote 236 1).wrote 236 0) where
  toOpen := (h.toOpen.wrote 236 1).wrote 236 0
  released := by
    have hw : ((bus.wrote 236 1).wrote 236 0).writes = bus.writes ++ [⟨236, .u32, 1⟩, ⟨236, .u32, 0⟩] :=
      List.append_assoc ..
    rw [hw]
    exact h.released.append (released_pulse rfl rfl)
  low := by
    rw [word_wrote (h.toOpen.wrote 236 1) (by decide)]
    decide

end Recorder

def ParamValue.Agrees (v : ParamValue) : Prop := Number.nearest v.toReal = 1 → v.toInt64 = 1

lemma ParamValue.agrees_int (n : Int64) : (ParamValue.int n).Agrees := by
  intro h
  have hn : n.toInt.natAbs < 2 ^ 64 := by
    have hl := n.le_toInt
    have hu := n.toInt_lt
    omega
  have h₁ : n.toInt = (1 : Int64).toInt := by
    change Number.nearest (Float.ofInt n.toInt) = 1 at h
    change n.toInt = 1
    rcases Double.nearest_ofInt n.toInt hn with ⟨_, hx⟩ | ⟨_, hx⟩ | ⟨_, hx⟩ <;> omega
  exact Int64.toInt_inj.mp h₁

namespace Station

open Recorder

variable {cal : Calibration} {name : String} {v : ParamValue} {s : Station (Recorder SimBoard)} {r : Register}

lemma inverse_manualClear {x : Float} :
    (ConversionTable.standard cal).inverse Register.manualClear x = .ok 1 ↔ Number.nearest x = 1 :=
  Conversion.inverse_identity_eq_one

lemma Names.offset (h : Names (.standard cal) name r) :
    (r.name = Register.manualClear → r.offset = 236) ∧
      (r.name ≠ Register.manualClear → r.offset.toNat + 4 ≤ 236 ∨ 240 ≤ r.offset.toNat) :=
  RegisterMap.standard_offset r (List.mem_of_find?_eq_some h.found)

lemma writeParameter_quiet (cal : Calibration) (h : Quiet s.bus) (hv : name = Register.manualClear → v.Agrees) :
    Quiet (perform (writeParameter (.standard cal) name v) s).2.bus := by
  rcases writeParameter_bus cal name v h.toOpen with hb | ⟨r, raw, ht, hi, hr, hb⟩ | ⟨r, ht, hi, hb⟩
  · rw [hb]
    exact h
  · obtain ⟨hc, ho⟩ := ht.toNames.offset
    rw [hb]
    by_cases hn : r.name = Register.manualClear
    · rw [hc hn]
      apply h.wrote_low
      -- a word of 1 makes the write a pulse
      rintro rfl
      rw [hn] at hr
      exact hi ⟨hn, hv (ht.name_eq.symm.trans hn) (inverse_manualClear.mp hr)⟩
    · exact h.wrote_elsewhere (ho hn)
  · rw [hb, ht.toNames.offset.1 hi.1]
    exact h.wrote_pulse

lemma writeParameter_open (cal : Calibration) (name : String) (v : ParamValue) (h : Open s.bus) :
    Open (perform (writeParameter (.standard cal) name v) s).2.bus := by
  rcases writeParameter_bus cal name v h with hb | ⟨_, _, _, _, _, hb⟩ | ⟨_, _, _, hb⟩ <;> rw [hb]
  · exact h
  · exact h.wrote ..
  · exact (h.wrote ..).wrote ..

end Station

namespace ParameterAccess

open Recorder

variable {cal : Calibration} {s : Station (Recorder SimBoard)} {a : ParameterAccess} {accesses : List ParameterAccess}

lemma apply_open (cal : Calibration) (a : ParameterAccess) (h : Open s.bus) :
    Open (a.apply (.standard cal) s).2.bus := by
  cases a with
  | read name => exact (Station.readParameter_onlyReads cal name h).open h
  | write name v => exact Station.writeParameter_open cal name v h
  | readAll =>
    rw [apply, Prod.map_snd, id_eq]
    exact (Station.readAll_onlyReads cal h).open h

def Agrees (a : ParameterAccess) : Prop := ∀ v, a = .write Register.manualClear v → v.Agrees

lemma apply_quiet (cal : Calibration) (h : Quiet s.bus) (ha : a.Agrees) :
    Quiet (a.apply (.standard cal) s).2.bus := by
  cases a with
  | read name => exact h.onlyReads (Station.readParameter_onlyReads cal name h.toOpen)
  | write name v =>
    apply Station.writeParameter_quiet cal h
    rintro rfl
    exact ha v rfl
  | readAll =>
    rw [apply, Prod.map_snd, id_eq]
    exact h.onlyReads (Station.readAll_onlyReads cal h.toOpen)

lemma run_open (cal : Calibration) (accesses : List ParameterAccess) (h : Open s.bus) :
    Open (run (.standard cal) accesses s).bus := by
  induction accesses generalizing s with
  | nil => exact h
  | cons a as ih => exact ih (apply_open cal a h)

lemma run_quiet (cal : Calibration) (h : Quiet s.bus) (ha : ∀ a ∈ accesses, a.Agrees) :
    Quiet (run (.standard cal) accesses s).bus := by
  induction accesses generalizing s with
  | nil => exact h
  | cons a as ih =>
    have hs := apply_quiet cal h (ha a List.mem_cons_self)
    exact ih hs fun b hb => ha b (List.mem_cons_of_mem a hb)

lemma apply_disagreeing (cal : Calibration) {v : ParamValue} (h : Open s.bus)
    (hn : Number.nearest v.toReal = 1) (ht : v.toInt64 ≠ 1) :
    ((write Register.manualClear v).apply (.standard cal) s).2.bus = s.bus.wrote 236 1 := by
  have hr : Station.Targets (.standard cal) Register.manualClear (.settingInt Register.manualClear 236) :=
    { notProbe := by decide, found := rfl, notDerived := by decide, writable := rfl }
  exact Station.writeParameter_plain_bus hr (fun hi => ht hi.2) (Station.inverse_manualClear.mpr hn) h

lemma run_singleton (setup : Setup) : run setup [a] s = (a.apply setup s).2 := rfl

lemma run_take (setup : Setup) (as bs : List ParameterAccess) :
    run setup ((as ++ a :: bs).take (as.length + 1)) s = (a.apply setup (run setup as s)).2 := by
  have ht : (as ++ a :: bs).take (as.length + 1) = as ++ [a] := by
    rw [List.take_length_add_append, List.take_succ_cons, List.take_zero]
  rw [ht, run_append, run_singleton]

lemma exists_word_eq_one (cal : Calibration) {v : ParamValue} (h : Open s.bus)
    (hm : write Register.manualClear v ∈ accesses) (hn : Number.nearest v.toReal = 1) (ht : v.toInt64 ≠ 1) :
    ∃ n, (run (.standard cal) (accesses.take n) s).bus.word 236 = 1 := by
  obtain ⟨as, bs, rfl⟩ := List.append_of_mem hm
  have hs := run_open cal as h
  refine ⟨as.length + 1, ?_⟩
  rw [run_take, apply_disagreeing cal hs hn ht, word_wrote hs (by decide)]

/-- In a run on an open board the manual clear register is let go of at once whenever it is set, and never found
set after an access, just if no real number is written to it that rounds to 1 and has another integer part. -/
theorem run_releases_iff (cal : Calibration) (accesses : List ParameterAccess) (s : Station (Recorder SimBoard))
    (h : Open s.bus) (hw : s.bus.writes = []) (h₀ : s.bus.word 236 = 0) :
    (Released 236 (run (.standard cal) accesses s).bus.writes ∧
      ∀ n, (run (.standard cal) (accesses.take n) s).bus.word 236 ≠ 1) ↔
    ∀ x, write Register.manualClear (.real x) ∈ accesses → Number.nearest x = 1 → Number.truncate x = 1 := by
  constructor
  · rintro ⟨_, hl⟩ x hm hn
    by_contra ht
    obtain ⟨n, hx⟩ := exists_word_eq_one cal h hm hn ht
    exact hl n hx
  · intro hx
    have hq : Quiet s.bus := ⟨h, by rw [hw]; exact released_nil, by rw [h₀]; decide⟩
    have ha : ∀ a ∈ accesses, a.Agrees := by
      rintro a hm v rfl
      cases v with
      | int n => exact ParamValue.agrees_int n
      | real x => exact hx x hm
    refine ⟨(run_quiet cal hq ha).released, fun n => ?_⟩
    exact (run_quiet cal hq fun a hm => ha a (List.mem_of_mem_take hm)).low

def unwritten : Station (Recorder SimBoard) := { bus := ⟨.ofSize 588, []⟩ }

lemma unwritten_open : Open unwritten.bus := ⟨⟨rfl, rfl⟩, by decide +kernel⟩

lemma unwritten_word : unwritten.bus.word 236 = 0 := by decide +kernel

theorem run_releases_pulses :
    Open unwritten.bus ∧ unwritten.bus.writes = [] ∧ unwritten.bus.word 236 = 0 ∧
      Released 236 (run (.standard .standard) [write Register.manualClear (.real 1.2), readAll] unwritten).bus.writes ∧
      ∀ n, (run (.standard .standard) ([write Register.manualClear (.real 1.2), readAll].take n)
        unwritten).bus.word 236 ≠ 1 := by
  refine ⟨unwritten_open, rfl, unwritten_word, ?_⟩
  apply (run_releases_iff .standard _ unwritten unwritten_open rfl unwritten_word).mpr
  intro x hm _
  simp only [List.mem_cons, write.injEq, ParamValue.real.injEq, reduceCtorEq, List.not_mem_nil, or_false, true_and] at hm
  rw [hm]
  decide +kernel

theorem run_not_releases : Open unwritten.bus ∧ unwritten.bus.writes = [] ∧ unwritten.bus.word 236 = 0 ∧ ∃ x,
    (run (.standard .standard) [write Register.manualClear (.real x)] unwritten).bus.word 236 = 1 ∧
      ¬ Released 236 (run (.standard .standard) [write Register.manualClear (.real x)] unwritten).bus.writes := by
  have hn : Number.nearest (ParamValue.real 0.7).toReal = 1 := by decide +kernel
  have ht : (ParamValue.real 0.7).toInt64 ≠ 1 := by decide +kernel
  have hb := apply_disagreeing .standard unwritten_open hn ht
  have hw : (unwritten.bus.wrote 236 1).writes = [⟨236, .u32, 1⟩] := rfl
  refine ⟨unwritten_open, rfl, unwritten_word, 0.7, ?_, ?_⟩
  · rw [run_singleton, hb, word_wrote unwritten_open (by decide)]
  · rw [run_singleton, hb, hw, released_single]
    exact fun h => h rfl rfl

end ParameterAccess

end RfBoard
