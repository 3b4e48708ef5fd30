import RfBoard.Command
import RfBoard.Number.Hex
import RfBoard.Number.Shortest

namespace RfBoard

inductive RequestError where
  | unknownCommand (code : UInt32)
  | invalidBulkLength (length : Int)
  | invalidLength (expected actual : Nat)
deriving DecidableEq, Repr

def RequestError.message : RequestError → String
  | unknownCommand code => "Unknown command: 0x" ++ Number.hexPadded 8 code.toNat
  | invalidBulkLength length => s!"Invalid bulk length: {length} (must be a non-negative multiple of 4)"
  | invalidLength expected actual => s!"Invalid buffer length: expected {expected}, got {actual}"

inductive FileError where
  | notFound
  | notADirectory
  | isADirectory
  | nameTooLong
  | nulInName
  | accessDenied
  | other (text : String)
deriving DecidableEq, Repr

def FileError.message : FileError → String
  | notFound => "No such file or directory (os error 2)"
  | notADirectory => "Not a directory (os error 20)"
  | isADirectory => "Is a directory (os error 21)"
  | nameTooLong => "File name too long (os error 36)"
  | nulInName => "file name contained an unexpected NUL byte"
  | accessDenied => "Permission denied (os error 13)"
  | other text => text

inductive DeviceKind where
  | unknown
  | notFound
  | accessDenied
  | offline
  | rejected
deriving DecidableEq, Repr

namespace DeviceKind

def all : List DeviceKind := [unknown, notFound, accessDenied, offline, rejected]

def name : DeviceKind → String
  | unknown => "Unknown"
  | notFound => "NotFound"
  | accessDenied => "AccessDenied"
  | offline => "Offline"
  | rejected => "Rejected"

end DeviceKind

inductive DeviceError where
  | outsideWindow (length : Nat) (offset : UInt32)
  | argumentMismatch (command : Command)
  | boardOffline
  | injected
  | scripted
  | cannotOpen (path : String) (reason : FileError)
  | notTheBoard (command : Command) (offset : UInt32)
  | reported (kind : DeviceKind) (text : String)
deriving DecidableEq, Repr

namespace DeviceError

def kind : DeviceError → DeviceKind
  | boardOffline => .offline
  | cannotOpen _ .notFound => .notFound
  | cannotOpen _ .accessDenied => .accessDenied
  | cannotOpen _ _ => .unknown
  | reported kind _ => kind
  | _ => .rejected

def detail : DeviceError → String
  | outsideWindow length offset =>
    s!"access of {length} bytes at 0x" ++ Number.hex offset.toNat ++ " is outside the window"
  | argumentMismatch command => "argument does not match command " ++ command.name
  | boardOffline => "simulated board is offline"
  | injected => "injected access failure"
  | scripted => "scripted failure"
  | cannotOpen path reason => "failed to open " ++ path ++ ": " ++ reason.message
  | notTheBoard command offset =>
    command.name ++ s!" at offset {offset} failed: ENOTTY: Not a typewriter"
  | reported _ text => text

def message (e : DeviceError) : String := e.kind.name ++ ": " ++ e.detail

def isFatal (e : DeviceError) : Bool := e.kind == .notFound || e.kind == .accessDenied

end DeviceError

inductive TransportError where
  | device (e : DeviceError)
  | request (e : RequestError)
  | tooWide (value : UInt32) (width : Width)
  | addressOverflow (offset : UInt32) (index : Nat)
deriving DecidableEq, Repr

namespace TransportError

def message : TransportError → String
  | device e => "Device Error: " ++ e.message
  | request e => "Protocol Error: " ++ e.message
  | tooWide value width =>
    "Value 0x" ++ Number.hex value.toNat ++ s!" does not fit a {width.bits}-bit register"
  | addressOverflow offset index => s!"Word {index} at offset {offset} is beyond the address range"

def chain (e : TransportError) : List String :=
  e.message :: match e with
    | device d => [d.message]
    | request r => [r.message]
    | _ => []

def isUnknownCommand : TransportError → Bool
  | request (.unknownCommand _) => true
  | _ => false

def isInvalidBulkLength : TransportError → Bool
  | request (.invalidBulkLength _) => true
  | _ => false

end TransportError

inductive DomainError where
  | divisionByZero (quantity : String)
  | notFinite (quantity : String)
  | outOfRange (quantity : String) (value : Float)

def DomainError.message : DomainError → String
  | divisionByZero q => q ++ ": division by zero"
  | notFinite q => q ++ ": result is not finite"
  | outOfRange q x => q ++ ": " ++ Number.text x ++ " does not fit the register"

inductive ConfigError where
  | unreadable
  | keyTooLong
  | periodZero
  | offsetUnaligned (offset : UInt32)
  | calibrationInvalid
  | stationPeriodZero
  | file (path : String) (reason : FileError)
deriving DecidableEq, Repr

def ConfigError.message : ConfigError → String
  | unreadable => "TOML parse error"
  | keyTooLong => "recursion limit\n"
  | periodZero => "acquisition.period_ms must be > 0"
  | offsetUnaligned offset =>
    "acquisition.waveform_offset 0x" ++ Number.hex offset.toNat ++ " is not word aligned"
  | calibrationInvalid => "calibration constants must be finite and positive"
  | stationPeriodZero => "period_ms must be > 0"
  | file path reason => path ++ ": " ++ reason.message

inductive StationError where
  | transport (e : TransportError)
  | request (e : RequestError)
  | domain (e : DomainError)
  | unknownParameter (name : String)
  | readOnly (name : String)
  | config (e : ConfigError)
  | timeout

namespace StationError

def message : StationError → String
  | transport e => "Transport error: " ++ e.message
  | request e => "Protocol error: " ++ e.message
  | domain e => "Domain error: " ++ e.message
  | unknownParameter name => "Unknown parameter: " ++ name
  | readOnly name => "Parameter is read-only: " ++ name
  | config e => "Configuration error: " ++ e.message
  | timeout => "Operation timeout"

def chain (e : StationError) : List String :=
  e.message :: match e with
    | transport t => t.chain
    | request r => [r.message]
    | domain d => [d.message]
    | _ => []

def isTransport : StationError → Bool
  | transport _ => true
  | _ => false

end StationError

end RfBoard
