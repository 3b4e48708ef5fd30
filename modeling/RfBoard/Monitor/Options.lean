import RfBoard.Config
import RfBoard.Number.Reading

namespace RfBoard.Monitor

structure Options where
  config : Option String := none
  device : Option String := none
  simulate : Bool := false
  periodMs : Option UInt64 := none
  probe : Option Int64 := none
  settings : List String := []
  dump : Bool := false
  reportEvery : Option UInt64 := none
  json : Bool := false

inductive Flag where
  | simulate
  | dump
  | json
deriving DecidableEq, Repr

def Flag.ofName? : String → Option Flag
  | "--simulate" => some simulate
  | "--dump" => some dump
  | "--json" => some json
  | _ => none

inductive Key where
  | config
  | device
  | periodMs
  | probe
  | set
  | reportEvery
deriving DecidableEq, Repr

def Key.ofName? : String → Option Key
  | "--config" => some config
  | "--device" => some device
  | "--period-ms" => some periodMs
  | "--probe" => some probe
  | "--set" => some set
  | "--report-every" => some reportEvery
  | _ => none

inductive Given where
  | flag (f : Flag)
  | value (k : Key) (text : String)
deriving DecidableEq, Repr

def splitEquals (arg : List Char) : List Char × Option (List Char) :=
  match arg.dropWhile (· != '=') with
  | [] => (arg, none)
  | _ :: value => (arg.takeWhile (· != '='), some value)

def looksLikeOption (arg : String) : Bool := arg.startsWith "-" && arg != "-"

namespace Given

def ofArguments : List String → Option (List Given)
  | [] => some []
  | ["--"] => some []
  | arg :: rest =>
    let (name, attached) := splitEquals arg.toList
    match Flag.ofName? (String.ofList name), Key.ofName? (String.ofList name), attached, rest with
    | some f, _, none, rest => (ofArguments rest).map (.flag f :: ·)
    | none, some k, some text, rest => (ofArguments rest).map (.value k (String.ofList text) :: ·)
    | none, some k, none, text :: rest =>
      if looksLikeOption text then none else (ofArguments rest).map (.value k text :: ·)
    | _, _, _, _ => none

end Given

def natural? (text : String) : Option UInt64 :=
  if text.startsWith "-" then none
  else (Number.integer? text.toList).bind fun n =>
    if n ≤ 18446744073709551615 then some (UInt64.ofInt n) else none

def integer? (text : String) : Option Int64 :=
  (Number.integer? text.toList).bind fun n =>
    if -9223372036854775808 ≤ n ∧ n ≤ 9223372036854775807 then some (Int64.ofInt n) else none

def path? (text : String) : Option String := if text.isEmpty then none else some text

namespace Options

def once {α : Type} (old : Option α) (value : Option α) : Option (Option α) :=
  match old with
  | none => value.map some
  | some _ => none

def raise (flag : Bool) : Option Bool := if flag then none else some true

def add (o : Options) : Given → Option Options
  | .flag .simulate => (raise o.simulate).map fun simulate => { o with simulate }
  | .flag .dump => (raise o.dump).map fun dump => { o with dump }
  | .flag .json => (raise o.json).map fun json => { o with json }
  | .value .config text => (once o.config (path? text)).map fun config => { o with config }
  | .value .device text => (once o.device (path? text)).map fun device => { o with device }
  | .value .periodMs text => (once o.periodMs (natural? text)).map fun periodMs => { o with periodMs }
  | .value .probe text => (once o.probe (integer? text)).map fun probe => { o with probe }
  | .value .set text => some { o with settings := o.settings ++ [text] }
  | .value .reportEvery text => (once o.reportEvery (natural? text)).map fun reportEvery => { o with reportEvery }

def ofArguments (args : List String) : Option Options :=
  (Given.ofArguments args).bind fun given => given.foldlM add {}

def interval (o : Options) : UInt64 := max 1 (o.reportEvery.getD 1)

def configure (o : Options) (file : Option (Except ConfigError Config)) : Except ConfigError Config := do
  let c ← file.getD (.ok .standard)
  let c : Config := {
    device := o.device.getD c.device
    plan := { c.plan with periodMs := o.periodMs.getD c.plan.periodMs }
    probeIndex := o.probe.getD c.probeIndex
    calibration := c.calibration }
  c.validate
  return c

end Options

end RfBoard.Monitor
