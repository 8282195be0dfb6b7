import AccountInput.Document.Schedule
import AccountInput.Logging.Handler
import AccountInput.Wire.Version

namespace AccountInput
namespace Logging

def debugRecord (logger message : String) (extra : Fields) : LogRecord :=
  { logger, level := 10, message := .text message, args := [], extra, failure := none }

/-- The record about a document that is no schedule. -/
def untimedRecord (p : Problem) : LogRecord :=
  let field := ((p.data.entries?.bind fun es => Value.get? es "field")).getD .null
  debugRecord "ledger.types.timing"
    "timing document not fully parseable; treating account as untimed"
    [("reason", p.message), ("field", field)]

/-- The record about bytes that are no CBOR. -/
def invalidBytesRecord (bs : List UInt8) : LogRecord :=
  debugRecord "ledger.wire.codec" "timing CBOR decode failed" [("size", .int bs.length)]

/-- The lines of a record whose extra fields are never refused. -/
def report (s : Logging) (r : LogRecord) (clock : String) : List (LogTarget × String) :=
  ((s.log r clock).toOption).getD []

/-- Reads the timing of a document, and reports what keeps the document from being a schedule. -/
def ingest (s : Logging) (doc : Value) (clock : String) :
    Except Fault Timing × List (LogTarget × String) :=
  match Timing.ofDocument doc with
  | .ok (t, none) => (.ok t, [])
  | .ok (t, some p) => (.ok t, s.report (untimedRecord p) clock)
  | .error f => (.error f, [])

/-- Reads the timing of bytes, and reports bytes that are no CBOR. -/
def loadBytes (s : Logging) (w : Surroundings) (bs : List UInt8) (version : Value)
    (clock : String) : Except Fault Timing × List (LogTarget × String) :=
  match w.codec.read? bs with
  | none => (.error (Wire.invalidBytes bs), s.report (invalidBytesRecord bs) clock)
  | some _ => (Wire.ofBytes w bs version, [])

end Logging
end AccountInput
