import RfBoard.Bench.Basic
import RfBoard.Main
import RfBoard.Monitor.Transcript
import RfBoard.Json.Reading
import RfBoard.Telemetry.Runs
import RfBoard.Proofs.BoardAccess
import RfBoard.Proofs.BulkRead
import RfBoard.Proofs.WaveformRead
import RfBoard.Proofs.CycleExit
import RfBoard.Proofs.History
import RfBoard.Proofs.Publication
import RfBoard.Proofs.ParameterExit
import RfBoard.Proofs.RejectedWrite
import RfBoard.Proofs.Double.Packing
import RfBoard.Proofs.Double.Rounding
import RfBoard.Proofs.Double.Integer
import RfBoard.Proofs.Double.Magnitude
import RfBoard.Proofs.Double.Bounded
import RfBoard.Proofs.FrameFaults
import RfBoard.Proofs.Recorder
import RfBoard.Proofs.ManualClear
import RfBoard.Proofs.ByteMemory
import RfBoard.Proofs.ProbeHistory
import RfBoard.Proofs.Accounting
import RfBoard.Proofs.CacheCoherence
import RfBoard.Proofs.CycleAddresses
import RfBoard.Proofs.Sections
import RfBoard.Proofs.SharedAccess
import RfBoard.Proofs.WritableBytes
import RfBoard.Proofs.FrameDelivery
import RfBoard.Proofs.TransportMirror
import RfBoard.Proofs.InjectedFailures
import RfBoard.Proofs.CycleSteps
import RfBoard.Proofs.MonitorHandshake
import RfBoard.Proofs.FrameSamples
import RfBoard.Proofs.RequestDispatch
import RfBoard.Proofs.Double.RealValue
import RfBoard.Proofs.ConversionRange
import RfBoard.Proofs.Double.Nearest
import RfBoard.Proofs.Double.ShortestText
import RfBoard.Proofs.Toml.Numerals
import RfBoard.Proofs.Toml.StringTokens
import RfBoard.Proofs.Toml.StringContents
import RfBoard.Proofs.Toml.Lines
import RfBoard.Proofs.Toml.Documents
import RfBoard.Proofs.ConfigRoundTrip
import RfBoard.Proofs.Double.CorrectRounding
import RfBoard.Proofs.ReflectionDomain
import RfBoard.Proofs.ScaleRoundTrip
import RfBoard.Proofs.IntegerParameter
import RfBoard.Proofs.WriteLog
import RfBoard.Proofs.WriteOrder
import RfBoard.Proofs.ReadAll
import RfBoard.Proofs.ConfigValidity
import RfBoard.Proofs.ConfigMeaning
import RfBoard.Proofs.ConfigOverrides
import RfBoard.Proofs.StandingWaveRatio
