import RfBoard.Files
import RfBoard.Station.Basic
import RfBoard.Toml.Printing
import RfBoard.Toml.Reading

/-!
The configuration of a station. A missing key keeps its default, and keys that are not known are passed over.
-/

namespace RfBoard

structure Config where
  device : String
  plan : Plan
  probeIndex : Int64
  calibration : Calibration

namespace Config

def standardDevice : String := "/dev/pci_llrf"

def standard : Config := ⟨standardDevice, {}, 0, .standard⟩

def validate (c : Config) : Except ConfigError Unit :=
  if c.plan.periodMs = 0 then .error .periodZero
  else if c.plan.waveformOffset % 4 ≠ 0 then .error (.offsetUnaligned c.plan.waveformOffset)
  else if !c.calibration.isValid then .error .calibrationInvalid
  else .ok ()

open Toml (Value Table)

def field (names : List String) (name : String) : Value → Option Value
  | .table es => es.lookup name
  | .array vs => (names.idxOf? name).bind fun i => vs[i]?
  | _ => none

def othersSound (names : List String) (es : Table) : Bool :=
  es.all fun (name, v) => names.contains name || v.isSound

/-- A table or something that stands for one: a list of its values, or a date, which has none of them. -/
def isFields (names : List String) : Value → Bool
  | .table es => othersSound names es
  | .array _ | .dateTime _ => true
  | _ => false

def readString : Value → Option String
  | .string s => some s
  | _ => none

def readInteger (low high : Int) : Value → Option Int
  | .integer n => if low ≤ n ∧ n ≤ high then some n else none
  | _ => none

def readBoolean : Value → Option Bool
  | .boolean b => some b
  | _ => none

def readReal : Value → Option Float
  | .real x => some x
  | .integer n => if -9223372036854775808 ≤ n ∧ n < 18446744073709551616 then some (Float.ofInt n) else none
  | _ => none

def orDefault {α : Type} (fallback : α) (read : Value → Option α) : Option Value → Option α
  | none => some fallback
  | some v => read v

def planNames : List String := ["period_ms", "probe_index", "waveform_offset", "ready_handshake"]

def readAcquisition (v : Value) : Option (Plan × Int64) :=
  if isFields planNames v then do
    let period ← orDefault 1000 (readInteger 0 18446744073709551615) (field planNames "period_ms" v)
    let probe ← orDefault 0 (readInteger (-9223372036854775808) 9223372036854775807)
      (field planNames "probe_index" v)
    let offset ← orDefault 262144 (readInteger 0 4294967295) (field planNames "waveform_offset" v)
    let handshake ← orDefault false readBoolean (field planNames "ready_handshake" v)
    some (⟨UInt64.ofInt period, UInt32.ofInt offset, handshake⟩, Int64.ofInt probe)
  else none

def channelNames : List String := ["k", "b"]

def readChannel (v : Value) : Option ChannelCalibration :=
  if isFields channelNames v then do
    let k ← (field channelNames "k" v).bind readReal
    let b ← (field channelNames "b" v).bind readReal
    some ⟨k, b⟩
  else none

def readSide : Value → Option (Vector ChannelCalibration 4)
  | .array (a :: b :: c :: d :: _) => do
    some #v[← readChannel a, ← readChannel b, ← readChannel c, ← readChannel d]
  | _ => none

def sideNames : List String := ["fwd", "rfl"]

def readCalibration (v : Value) : Option Calibration :=
  if isFields sideNames v then do
    let forward ← orDefault Calibration.standard.forward readSide (field sideNames "fwd" v)
    let reflected ← orDefault Calibration.standard.reflected readSide (field sideNames "rfl" v)
    some ⟨forward, reflected⟩
  else none

def ofTable? (t : Table) : Option Config :=
  if othersSound ["device", "acquisition", "calibration"] t then do
    let device ← orDefault standardDevice readString (t.lookup "device")
    let (plan, probe) ← orDefault ({}, 0) readAcquisition (t.lookup "acquisition")
    let calibration ← orDefault .standard readCalibration (t.lookup "calibration")
    some ⟨device, plan, probe, calibration⟩
  else none

def ofTable (t : Table) : Except ConfigError Config :=
  match ofTable? t with
  | none => .error .unreadable
  | some c => c.validate.map fun _ => c

def ofText (text : String) : Except ConfigError Config :=
  match Toml.read text with
  | .error .malformed => .error .unreadable
  | .error .keyTooLong => .error .keyTooLong
  | .ok t => ofTable t

def channelTable (c : ChannelCalibration) : Value := .table [("k", .real c.k), ("b", .real c.b)]

def toTable (c : Config) : Table := [
  ("device", .string c.device),
  ("acquisition", .table [
    ("period_ms", .integer c.plan.periodMs.toNat),
    ("probe_index", .integer c.probeIndex.toInt),
    ("waveform_offset", .integer c.plan.waveformOffset.toNat),
    ("ready_handshake", .boolean c.plan.handshake)]),
  ("calibration", .table [
    ("fwd", .array (c.calibration.forward.toList.map channelTable)),
    ("rfl", .array (c.calibration.reflected.toList.map channelTable))])]

def toText (c : Config) : String := Toml.print c.toTable

def ofFile (path : String) (content : Except FileError String) : Except ConfigError Config :=
  match content with
  | .error e => .error (.file path e)
  | .ok text => ofText text

def load (host : Node) (path : String) : Except ConfigError Config := ofFile path (Files.read host path)

def save (host : Node) (path : String) (c : Config) : Except ConfigError String :=
  match Files.checkWrite host path with
  | .error e => .error (.file path e)
  | .ok _ => .ok c.toText

def same (c d : Config) : Bool :=
  let channels (c : Config) := c.calibration.forward.toList ++ c.calibration.reflected.toList
  c.device == d.device && c.plan == d.plan && c.probeIndex == d.probeIndex &&
    ((channels c).zip (channels d)).all fun (a, b) => a.k == b.k && a.b == b.b

end Config

end RfBoard
