import SegmentContainer.Options
import SegmentContainer.Region

/-!
# Summaries

What an export reports about itself beside the bytes.
-/

set_option autoImplicit false

namespace SegmentContainer

structure ReadFailure where
  name : String
  start : UInt64
  size : UInt64
  message : String
  resolution : ReadFailurePolicy
  deriving DecidableEq

structure ExportSummary where
  program : String
  policy : ReadFailurePolicy
  regionsTotal : Nat
  regionsUninitialized : Nat
  regionsExported : Nat
  dataSize : Nat
  symbolsTotal : Nat
  symbolsDefaultSkipped : Nat
  symbolsExported : Nat
  symbolPayloadSize : Nat
  totalSize : Nat
  readFailures : List ReadFailure
  deriving DecidableEq

structure ExportStream where
  bytes : List UInt8
  summary : ExportSummary
  deriving DecidableEq

def ReadFailure.toJson (failure : ReadFailure) : Json :=
  .object
    [("name", .string failure.name),
     ("start", .number failure.start.toNat),
     ("size", .number failure.size.toNat),
     ("message", .string failure.message),
     ("resolution", .string failure.resolution.word)]

namespace ExportSummary

/-- Whether the data of every region stands where the headers say. -/
def isAligned (summary : ExportSummary) : Bool :=
  summary.readFailures.all fun failure => failure.resolution ≠ .omit

def toJson (summary : ExportSummary) : Json :=
  .object
    [("program", .string summary.program),
     ("policy", .string summary.policy.word),
     ("regions_total", .number summary.regionsTotal),
     ("regions_uninitialized", .number summary.regionsUninitialized),
     ("regions_exported", .number summary.regionsExported),
     ("data_size", .number summary.dataSize),
     ("symbols_total", .number summary.symbolsTotal),
     ("symbols_default_skipped", .number summary.symbolsDefaultSkipped),
     ("symbols_exported", .number summary.symbolsExported),
     ("symbol_payload_size", .number summary.symbolPayloadSize),
     ("total_size", .number summary.totalSize),
     ("read_failures", .array (summary.readFailures.map ReadFailure.toJson))]

end ExportSummary
end SegmentContainer
