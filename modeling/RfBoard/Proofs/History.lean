import RfBoard.SimBoard
import RfBoard.Station.Acquisition
import RfBoard.Station.Parameters
import Mathlib

/-!
Runs of a station, with what happens to its board from outside.
-/

namespace RfBoard

inductive ParameterAccess where
  | read (name : String)
  | write (name : String) (v : ParamValue)
  | readAll

inductive AccessOutcome where
  | value (r : Except StationError ParamValue)
  | written (r : Except StationError Unit)
  | values (rs : List (String × Except StationError ParamValue))

namespace ParameterAccess

variable {σ : Type} [Transport σ]

def apply (setup : Setup) : ParameterAccess → Station σ → AccessOutcome × Station σ
  | read name, s => (Station.perform (Station.readParameter setup name) s).map .value id
  | write name v, s => (Station.perform (Station.writeParameter setup name v) s).map .written id
  | readAll, s => (Station.readAll setup s).map .values id

def run (setup : Setup) (accesses : List ParameterAccess) (s : Station σ) : Station σ :=
  accesses.foldl (fun s a => (a.apply setup s).2) s

lemma run_append (setup : Setup) (as bs : List ParameterAccess) (s : Station σ) :
    run setup (as ++ bs) s = run setup bs (run setup as s) := List.foldl_append

end ParameterAccess

inductive Operation where
  | cycle (plan : Plan)
  | access (a : ParameterAccess)
  | setProbeIndex (index : Int64)
  | setOffline (on : Bool)
  | failNext (count : Nat)
  | poke (offset value : UInt32)
  | loadWaveform (w : RawWaveform)
  /-- Somebody else keeps the frame replaced last, and the next one is made in a new frame. -/
  | keepReplaced

inductive Outcome where
  | cycle (r : Except StationError CycleOutcome)
  | access (o : AccessOutcome)
  | done

namespace Station

def ofSize (size : Nat) : Station SimBoard := { bus := SimBoard.ofSize size }

def changeBoard (f : SimBoard → SimBoard) (s : Station SimBoard) : Station SimBoard := { s with bus := f s.bus }

def keepReplaced (s : Station SimBoard) : Station SimBoard := { s with buffers := { s.buffers with spare := .zero } }

end Station

namespace Operation

def apply (setup : Setup) : Operation → Station SimBoard → Outcome × Station SimBoard
  | cycle plan, s => (Station.perform (Station.acquire plan setup.calibration) s).map .cycle id
  | access a, s => (a.apply setup s).map .access id
  | setProbeIndex index, s => (Station.perform (Station.setProbeIndex index) s).map (fun _ => .done) id
  | setOffline on, s => (.done, s.changeBoard (·.setOffline on))
  | failNext count, s => (.done, s.changeBoard (·.failNext count))
  | poke offset value, s => (.done, s.changeBoard (·.poke offset value))
  | loadWaveform w, s => (.done, s.changeBoard (·.loadWaveform w))
  | keepReplaced, s => (.done, s.keepReplaced)

end Operation

structure Event where
  before : Station SimBoard
  operation : Operation
  outcome : Outcome
  after : Station SimBoard

def history (setup : Setup) : List Operation → Station SimBoard → List Event
  | [], _ => []
  | o :: os, s =>
    let (outcome, after) := o.apply setup s
    ⟨s, o, outcome, after⟩ :: history setup os after

variable {setup : Setup} {operations : List Operation} {s : Station SimBoard} {e : Event}

lemma apply_of_mem_history (h : e ∈ history setup operations s) :
    e.operation.apply setup e.before = (e.outcome, e.after) := by
  induction operations generalizing s with
  | nil => cases h
  | cons o os ih =>
    rw [history, List.mem_cons] at h
    rcases h with rfl | h
    · rfl
    · exact ih h

lemma history_cycle {plan : Plan} {r : Except StationError CycleOutcome} {s' : Station SimBoard}
    (h : Station.perform (Station.acquire plan setup.calibration) s = (r, s')) :
    history setup (.cycle plan :: operations) s = ⟨s, .cycle plan, .cycle r, s'⟩ :: history setup operations s' := by
  rw [history, Operation.apply, h]
  rfl

lemma history_poke (setup : Setup) (operations : List Operation) (s : Station SimBoard) (offset value : UInt32) :
    history setup (.poke offset value :: operations) s =
      ⟨s, .poke offset value, .done, s.changeBoard (·.poke offset value)⟩ ::
        history setup operations (s.changeBoard (·.poke offset value)) := rfl

lemma acquire_of_mem_history {plan : Plan} {outcome : CycleOutcome} (h : e ∈ history setup operations s)
    (ho : e.operation = .cycle plan) (hr : e.outcome = .cycle (.ok outcome)) :
    Station.acquire plan setup.calibration e.before = .ok outcome e.after := by
  have ha := apply_of_mem_history h
  rw [ho, hr, Operation.apply, Station.perform] at ha
  split at ha
  · rename_i hc
    cases ha
    exact hc
  · cases ha

end RfBoard
