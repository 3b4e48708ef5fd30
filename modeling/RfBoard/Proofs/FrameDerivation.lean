import RfBoard.Waveform.Derive
import Mathlib

namespace RfBoard

namespace Frame

lemma place_eq_iff {c d : Fin 23} {i j : Fin 4096} : place c i = place d j ↔ c = d ∧ i = j := by
  simp only [place, Fin.ext_iff]
  omega

lemma place_div_mod (k : Fin 94208) :
    place ⟨k / 4096, by omega⟩ ⟨k % 4096, Nat.mod_lt _ (by decide)⟩ = k := by
  simp only [place, Fin.ext_iff]
  omega

lemma toList_ratioFaults (a b : UInt32) : (ratioFaults a b).toList =
    [0, 0, 0, 0, 0, 0, 0, 0, 0, 0, a, 0, 0, 0, 0, 0, 0, b, 0, 0, 0, 0, 0] := rfl

end Frame

def DerivedChannel.mark : DerivedChannel → DerivedPoint → Bool
  | .vswr1 => (·.undefined1)
  | .vswr2 => (·.undefined2)
  | _ => fun _ => false

namespace DerivedPart

variable {samples : Vector Float 94208} {values : Vector Float 23} {i j : Fin 4096} {c : Fin 23}

lemma fold_set {n : Nat} (hn : n ≤ 23) :
    (Nat.fold n (fun c h samples => samples.set (Frame.place ⟨c, h.trans_le hn⟩ i) values[c]) samples)[Frame.place c j] =
      if c < n ∧ j = i then values[c] else samples[Frame.place c j] := by
  induction n with
  | zero => simp
  | succ n ih =>
    rw [Nat.fold_succ, Fin.getElem_fin, Vector.getElem_set]
    by_cases h : Frame.place ⟨n, hn⟩ i = Frame.place c j
    · obtain ⟨rfl, rfl⟩ := Frame.place_eq_iff.mp h
      simp
    · have hv : (Frame.place ⟨n, hn⟩ i).val ≠ (Frame.place c j).val := fun hh => h (Fin.ext hh)
      rw [if_neg hv]
      refine (ih (by omega)).trans ?_
      have hc : (c.val < n ∧ j = i) ↔ (c.val < n + 1 ∧ j = i) := by
        refine and_congr_left fun hj => ?_
        have hcn : c.val ≠ n := fun hcn => h (Frame.place_eq_iff.mpr ⟨Fin.ext hcn.symm, hj.symm⟩)
        omega
      simp only [hc]

lemma getElem_setPoint :
    (setPoint samples i values)[Frame.place c j] = if j = i then values[c] else samples[Frame.place c j] := by
  rw [setPoint]
  refine (fold_set le_rfl).trans ?_
  simp only [c.isLt, true_and]

lemma toNat_count {x : UInt32} {n : Nat} {b : Bool} (hx : x.toNat = n) (hn : n < 4096) :
    (count x b).toNat = n + if b then 1 else 0 := by
  cases b with
  | false => simpa [count] using hx
  | true =>
    simp only [count, if_true, UInt32.toNat_add, hx]
    exact Nat.mod_eq_of_lt (by change n + 1 < _; omega)

end DerivedPart

namespace RawWaveform

variable [Elementary] (raw : RawWaveform) (cal : Calibration)

def pointAt (i : Fin 4096) : DerivedPoint := DerivedPoint.ofSamples cal fun c => Number.ofSample (raw.sample c i)

def marked (mark : DerivedPoint → Bool) (n : Nat) : Nat :=
  Nat.count (fun k => ∃ h : k < 4096, mark (raw.pointAt cal ⟨k, h⟩) = true) n

lemma marked_succ (mark : DerivedPoint → Bool) (i : Fin 4096) :
    raw.marked cal mark (i + 1) = raw.marked cal mark i + if mark (raw.pointAt cal i) then 1 else 0 := by
  rw [marked, Nat.count_succ, marked]
  congr 1
  simp only [i.isLt, exists_true_left]

lemma marked_le (mark : DerivedPoint → Bool) (n : Nat) : raw.marked cal mark n ≤ n := Nat.count_le _

lemma marked_unmarked (n : Nat) : raw.marked cal (fun _ => false) n = 0 := by simp [marked, Nat.count]

lemma marked_eq_countP (mark : DerivedPoint → Bool) :
    raw.marked cal mark 4096 = (List.finRange 4096).countP fun i => mark (raw.pointAt cal i) := by
  rw [marked, Nat.count, ← List.map_coe_finRange_eq_range, List.countP_map]
  refine List.countP_congr fun i _ => ?_
  simp

lemma fold_step {n : Nat} (hn : n ≤ 4096) (samples : Vector Float 94208) (c : Fin 23) (j : Fin 4096) :
    let part := Nat.fold n (fun i h part => DerivedPart.step cal raw ⟨i, h.trans_le hn⟩ part) ⟨samples, 0, 0⟩
    part.samples[Frame.place c j] =
        (if j < n then (raw.pointAt cal j).values[c] else samples[Frame.place c j]) ∧
      part.faults1.toNat = raw.marked cal (·.undefined1) n ∧
      part.faults2.toNat = raw.marked cal (·.undefined2) n := by
  dsimp only
  induction n with
  | zero => simp [marked]
  | succ n ih =>
    obtain ⟨hs, h₁, h₂⟩ := ih (by omega)
    have hm₁ := raw.marked_succ cal (·.undefined1) ⟨n, hn⟩
    have hm₂ := raw.marked_succ cal (·.undefined2) ⟨n, hn⟩
    rw [Nat.fold_succ, DerivedPart.step]
    refine ⟨?_, ?_, ?_⟩
    · refine DerivedPart.getElem_setPoint.trans ?_
      by_cases hj : j = ⟨n, hn⟩
      · subst hj
        rw [if_pos rfl, if_pos (Nat.lt_succ_self n)]
        rfl
      · have hjn : j.val ≠ n := fun hjn => hj (Fin.ext hjn)
        rw [if_neg hj, hs]
        simp only [show (j.val < n) ↔ (j.val < n + 1) by omega]
    · exact (DerivedPart.toNat_count h₁ ((raw.marked_le cal _ n).trans_lt hn)).trans hm₁.symm
    · exact (DerivedPart.toNat_count h₂ ((raw.marked_le cal _ n).trans_lt hn)).trans hm₂.symm

def derivedSamples : Vector Float 94208 :=
  Vector.ofFn fun k => (raw.pointAt cal ⟨k.val % 4096, Nat.mod_lt _ (by decide)⟩).values.get ⟨k.val / 4096, by omega⟩

def derivedFaults : Vector UInt32 23 :=
  Frame.ratioFaults (UInt32.ofNat (raw.marked cal (·.undefined1) 4096)) (UInt32.ofNat (raw.marked cal (·.undefined2) 4096))

theorem derive_eq (f : Frame) : raw.derive cal f = ⟨f.cycle, raw.derivedSamples cal, raw.derivedFaults cal⟩ := by
  obtain ⟨cycle, samples, faults⟩ := f
  have hh := raw.fold_step cal le_rfl samples
  dsimp only at hh
  obtain ⟨-, h₁, h₂⟩ := hh 0 0
  rw [derive]
  refine Frame.mk.injEq .. |>.mpr ⟨rfl, ?_, ?_⟩
  · apply Vector.ext
    intro k hk
    have hp : (Frame.place ⟨k / 4096, by omega⟩ ⟨k % 4096, Nat.mod_lt _ (by decide)⟩).val = k :=
      congrArg Fin.val (Frame.place_div_mod ⟨k, hk⟩)
    have hs := (hh ⟨k / 4096, by omega⟩ ⟨k % 4096, Nat.mod_lt _ (by decide)⟩).1
    rw [if_pos (Nat.mod_lt _ (by decide))] at hs
    simp only [Fin.getElem_fin, hp] at hs
    refine hs.trans ?_
    simp only [derivedSamples, Vector.getElem_ofFn]
    rfl
  · rw [derivedFaults, ← h₁, ← h₂]
    simp only [UInt32.ofNat_toNat]

lemma sample_derive (f : Frame) (c : DerivedChannel) (i : Fin 4096) :
    (raw.derive cal f).sample c i = (raw.pointAt cal i).values.get c.index := by
  obtain ⟨hc, hi⟩ := Frame.place_eq_iff.mp (Frame.place_div_mod (Frame.place c.index i))
  rw [derive_eq, Frame.sample, derivedSamples, Fin.getElem_fin, Vector.getElem_ofFn, hc, hi]

lemma toNat_ofNat_marked (mark : DerivedPoint → Bool) :
    (UInt32.ofNat (raw.marked cal mark 4096)).toNat = raw.marked cal mark 4096 := by
  rw [UInt32.toNat_ofNat', Nat.mod_eq_of_lt ((raw.marked_le cal mark 4096).trans_lt (by decide))]

lemma faultsOf_derive (f : Frame) (c : DerivedChannel) :
    ((raw.derive cal f).faultsOf c).toNat = raw.marked cal c.mark 4096 := by
  rw [derive_eq]
  cases c with
  | vswr1 => exact raw.toNat_ofNat_marked cal _
  | vswr2 => exact raw.toNat_ofNat_marked cal _
  | _ => exact (raw.marked_unmarked cal 4096).symm

theorem derive_withCycle (f g : Frame) (n : UInt64) :
    { raw.derive cal f with cycle := n } = { raw.derive cal g with cycle := n } := by
  rw [derive_eq, derive_eq]

theorem toNat_totalFaults_derive (f : Frame) :
    (raw.derive cal f).totalFaults.toNat = ((raw.derive cal f).faults.toList.map UInt32.toNat).sum := by
  have h₁ := raw.marked_le cal (·.undefined1) 4096
  have h₂ := raw.marked_le cal (·.undefined2) 4096
  rw [derive_eq, Frame.totalFaults, derivedFaults, Frame.toList_ratioFaults]
  simp only [List.foldl_cons, List.foldl_nil, UInt32.add_zero, UInt32.zero_add, UInt32.toNat_add, toNat_ofNat_marked]
  simp only [List.map_cons, List.map_nil, List.sum_cons, List.sum_nil, UInt32.toNat_zero, toNat_ofNat_marked]
  omega

end RawWaveform

end RfBoard
