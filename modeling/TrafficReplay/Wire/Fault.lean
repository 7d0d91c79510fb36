import TrafficReplay.Text.Utf8
import TrafficReplay.Wire.OpCode

namespace TrafficReplay

inductive FrameFault where
  | headerCut (held : Nat)
  | negativeLength (length : Int32)
  | lengthBelowHeader (length : Nat)
  | lengthAboveLimit (length : Nat)
  | lengthMismatch (declared held : Nat)
  | bodyTooLarge (length : Nat)
  | truncated (offset : Nat)
  | unterminatedText (offset : Nat)
  | textNotUtf8 (offset : Nat) (fault : Utf8.Fault)
  | negativeDocumentLength (offset : Nat)
  | badDocument (offset : Nat)
  | documentNotEncodable
  | noQueryDocument (opCode : OpCode)
  | negativeSectionSize
  | unknownSection (kind : UInt8)
  | noBodySection
  | negativeCursorCount
  | cursorCountOverrun (count : Nat) (held : Nat)
  | cursorFieldOverrun (offset : Nat) (opCode : OpCode) (held : Nat)
  | cursorCountMismatch (opCode : OpCode) (carried given : Nat)
  | notResponse (opCode : OpCode)
  | noReplyDocument
  | noSaslPayload
  | saslPayloadNotUtf8 (fault : Utf8.Fault)
deriving DecidableEq, Repr

def headerLength : Nat := 16

def frameLimit : Nat := 48 * 1024 * 1024

def FrameFault.message : FrameFault → String
  | .headerCut held => s!"Header needs {headerLength} bytes, got {held}"
  | .negativeLength length => s!"Negative message length {length.toInt}"
  | .lengthBelowHeader length => s!"Message length {length} shorter than header"
  | .lengthAboveLimit length => s!"Message length {length} exceeds limit of {frameLimit}"
  | .lengthMismatch declared held => s!"Header declares {declared} bytes, frame holds {held}"
  | .bodyTooLarge length => s!"Frame of {length} bytes too large"
  | .truncated offset => s!"Frame truncated at offset {offset}"
  | .unterminatedText offset => s!"Unterminated string at {offset}"
  | .textNotUtf8 offset fault => s!"String at {offset} is not UTF-8: {fault.message}"
  | .negativeDocumentLength offset => s!"Negative document length at {offset}"
  | .badDocument offset => s!"Bad document at {offset}"
  | .documentNotEncodable => "Failed to encode document"
  | .noQueryDocument opCode => s!"{opCode.name} has no query document"
  | .negativeSectionSize => "Negative OP_MSG section size"
  | .unknownSection kind => s!"Unknown OP_MSG section kind {kind.toNat}"
  | .noBodySection => "OP_MSG without a body section"
  | .negativeCursorCount => "Negative kill-cursors count"
  | .cursorCountOverrun count held =>
    s!"Kill-cursors declares {count} ids in a body of {held} bytes"
  | .cursorFieldOverrun offset opCode held =>
    s!"Cursor field at {offset} overruns {opCode.name} body of {held} bytes"
  | .cursorCountMismatch opCode carried given =>
    s!"{opCode.name} carries {carried} cursor ids, {given} given"
  | .notResponse opCode => s!"{opCode.name} is not a response"
  | .noReplyDocument => "Reply carries no document"
  | .noSaslPayload => "SASL command without payload"
  | .saslPayloadNotUtf8 fault => s!"SASL payload is not UTF-8: {fault.message}"

end TrafficReplay
