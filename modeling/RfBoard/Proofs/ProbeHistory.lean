import RfBoard.Station.Parameters
import Mathlib

/-!
The probe over runs of a telemetry store.
-/

namespace RfBoard

inductive StoreOperation where
  | publish (frame : Frame)
  | setProbeIndex (index : Int64)

namespace StoreOperation

def apply : StoreOperation → TelemetryStore → TelemetryStore
  | publish frame, s => (s.publish frame).1
  | setProbeIndex index, s => s.setProbeIndex index

def run (operations : List StoreOperation) (s : TelemetryStore) : TelemetryStore :=
  operations.foldl (fun s o => o.apply s) s

def store (index : Int64) (operations : List StoreOperation) : TelemetryStore := run operations { probeIndex := index }

def published : Int64 → List StoreOperation → List (Int64 × Frame)
  | _, [] => []
  | index, publish frame :: os => (index, frame) :: published index os
  | _, setProbeIndex index :: os => published index os

def inWaveform (index : Int64) : Bool := 0 ≤ index.toInt ∧ index.toInt ≤ 4095

def projected (ps : List (Int64 × Frame)) : List (Int64 × Frame) := ps.filter fun p => inWaveform p.1

end StoreOperation

structure Probe.Shows (p : Probe) (index : Int64) (frame : Frame) : Prop where
  index : (p.index : Int) = index.toInt
  cycle : p.cycle = frame.cycle
  value : ∀ c, ∃ h : p.index < 4096, p.value c = frame.sample c ⟨p.index, h⟩

namespace TelemetryStore

open StoreOperation

variable {frame : Frame} {index : Int64} {s : TelemetryStore} {os : List StoreOperation}

lemma inWaveform_iff : inWaveform index = true ↔ ¬ index < 0 ∧ index.toInt.toNat < 4096 := by
  have h₀ : (0 : Int64).toInt = 0 := rfl
  rw [inWaveform, decide_eq_true_eq, Int64.lt_iff_toInt_lt, h₀]
  omega

lemma projection_of_inWaveform (frame : Frame) (h : inWaveform index = true) :
    ∃ p, projection frame index = some p ∧ p.Shows index frame := by
  obtain ⟨h₀, h₁⟩ := inWaveform_iff.mp h
  rw [projection, if_neg h₀, Frame.project, dif_pos h₁]
  refine ⟨_, rfl, ?_, rfl, ?_⟩
  · rw [Int64.lt_iff_toInt_lt] at h₀
    exact Int.toNat_of_nonneg (not_lt.mp h₀)
  · intro c
    refine ⟨h₁, ?_⟩
    simp only [Probe.value, Frame.sample, Fin.getElem_fin, Vector.getElem_ofFn]

lemma projection_of_not_inWaveform (h : inWaveform index = false) : projection frame index = none := by
  rw [projection]
  split
  · rfl
  · rename_i h₀
    rw [Frame.project, dif_neg]
    intro h₁
    rw [inWaveform_iff.mpr ⟨h₀, h₁⟩] at h
    cases h

lemma probe_publish_of_inWaveform (h : inWaveform s.probeIndex = true) :
    (s.publish frame).1.probe = projection frame s.probeIndex := by
  obtain ⟨p, hp, _⟩ := projection_of_inWaveform frame h
  change (projection frame s.probeIndex).or s.probe = _
  rw [hp, Option.some_or]

lemma probe_publish_of_not_inWaveform (h : inWaveform s.probeIndex = false) :
    (s.publish frame).1.probe = s.probe := by
  change (projection frame s.probeIndex).or s.probe = _
  rw [projection_of_not_inWaveform h, Option.none_or]

lemma probe_run (os : List StoreOperation) (s : TelemetryStore) : (run os s).probe =
    (projected (published s.probeIndex os)).getLast?.elim s.probe fun p => projection p.2 p.1 := by
  induction os generalizing s with
  | nil => rfl
  | cons o os ih =>
    cases o with
    | setProbeIndex index => exact ih (s.setProbeIndex index)
    | publish frame =>
      refine (ih (s.publish frame).1).trans ?_
      change (projected (published s.probeIndex os)).getLast?.elim _ _ = _
      rw [published, projected, projected, List.filter_cons]
      cases h : inWaveform s.probeIndex with
      | true =>
        rw [if_pos rfl, List.getLast?_cons, probe_publish_of_inWaveform h]
        cases (List.filter (fun p => inWaveform p.1) (published s.probeIndex os)).getLast? <;> rfl
      | false =>
        rw [if_neg Bool.false_ne_true, probe_publish_of_not_inWaveform h]

lemma frame_run (os : List StoreOperation) (s : TelemetryStore) :
    (run os s).frame = ((published s.probeIndex os).getLast?.map (·.2)).getD s.frame := by
  induction os generalizing s with
  | nil => rfl
  | cons o os ih =>
    cases o with
    | setProbeIndex index => exact ih (s.setProbeIndex index)
    | publish frame =>
      refine (ih (s.publish frame).1).trans ?_
      rw [published, List.getLast?_cons]
      change ((published s.probeIndex os).getLast?.map _).getD frame = _
      cases (published s.probeIndex os).getLast? <;> rfl

structure Remembers (s : TelemetryStore) (ps : List (Int64 × Frame)) : Prop where
  frame : s.frame = (ps.getLast?.map (·.2)).getD .zero
  probe_eq_none : s.probe = none ↔ ∀ p ∈ ps, inWaveform p.1 = false
  probe_shows : ∀ p, (projected ps).getLast? = some p → ∃ probe, s.probe = some probe ∧ probe.Shows p.1 p.2

lemma inWaveform_of_getLast? {ps : List (Int64 × Frame)} {p : Int64 × Frame} (h : (projected ps).getLast? = some p) :
    inWaveform p.1 = true := (List.mem_filter.mp (List.mem_of_getLast? h)).2

lemma remembers_run (index : Int64) (os : List StoreOperation) :
    (store index os).Remembers (published index os) := by
  have hp : (store index os).probe =
      (projected (published index os)).getLast?.elim none fun p => projection p.2 p.1 := probe_run os _
  refine ⟨frame_run os _, ?_, ?_⟩
  · rw [hp]
    cases hl : (projected (published index os)).getLast? with
    | none =>
      rw [List.getLast?_eq_none_iff, projected, List.filter_eq_nil_iff] at hl
      simpa using hl
    | some p =>
      obtain ⟨probe, hs, _⟩ := projection_of_inWaveform p.2 (inWaveform_of_getLast? hl)
      simp only [Option.elim_some, hs, reduceCtorEq, false_iff, not_forall]
      have hm := List.mem_filter.mp (List.mem_of_getLast? hl)
      exact ⟨p, hm.1, by simp [hm.2]⟩
  · intro p hl
    obtain ⟨probe, hs, hw⟩ := projection_of_inWaveform p.2 (inWaveform_of_getLast? hl)
    refine ⟨probe, ?_, hw⟩
    rw [hp, hl]
    exact hs

end TelemetryStore

namespace Station

variable {σ : Type} [Transport σ]

lemma probedChannel?_probeName (c : DerivedChannel) : probedChannel? c.probeName = some c := by
  cases c <;> decide +kernel

lemma probeName_ne_probeIndexParameter (c : DerivedChannel) : c.probeName ≠ DerivedChannel.probeIndexParameter := by
  cases c <;> decide +kernel

lemma readParameter_probeName (setup : Setup) (c : DerivedChannel) (s : Station σ) :
    readParameter setup c.probeName s = .ok (.real (s.store.probeValue c)) s := by
  rw [readParameter, if_neg (probeName_ne_probeIndexParameter c), probedChannel?_probeName]
  rfl

end Station

open StoreOperation TelemetryStore

/-- After any run of a new store its frame is the one published last, and its probe the projection of the last
frame that was published with the index in the waveform. To move the index changes no probe, and an index outside
the waveform is kept as it is. Reading a probe parameter gives the probe's value, or zero, and nothing else
happens to the station. -/
theorem probe_of_run (index : Int64) (operations : List StoreOperation) :
    (store index operations).Remembers (published index operations) ∧
    (∀ i, ((store index operations).setProbeIndex i).probe = (store index operations).probe ∧
      ((store index operations).setProbeIndex i).probeIndex = i ∧
      ∀ frame, inWaveform i = false →
        (((store index operations).setProbeIndex i).publish frame).1.probe = (store index operations).probe) ∧
    ∀ (σ : Type) [Transport σ] (setup : Setup) (s : Station σ) (c : DerivedChannel),
      Station.readParameter setup c.probeName { s with store := store index operations } =
        .ok (.real (((store index operations).probe.map (·.value c)).getD 0))
          { s with store := store index operations } := by
  refine ⟨remembers_run index operations, ?_, ?_⟩
  · intro i
    exact ⟨rfl, rfl, fun frame hi => probe_publish_of_not_inWaveform hi⟩
  · intro σ _ setup s c
    rw [Station.readParameter_probeName, TelemetryStore.probeValue]

end RfBoard
