import TrafficReplay.Document.Basic
import TrafficReplay.Scram.Message

namespace TrafficReplay

namespace Scram

def secretLetters : List Char := ['r', 'p', 'v']

def redactPart (part : List Char) : List Char :=
  match part with
  | letter :: '=' :: _ => if letter ∈ secretLetters then [letter, '=', '*'] else part
  | _ => part

def redact (text : String) : String :=
  String.ofList (ClientFirst.joined ((parts text.toList).map redactPart))

end Scram

/-- A payload that is text is shown as redacted text. -/
def Document.redacted (doc : Document) : Document :=
  doc.map fun (key, value) =>
    match key, value with
    | "payload", .binary _ bytes =>
      match Utf8.decode bytes with
      | .ok text => (key, .document [("text", .text (Scram.redact text))])
      | .error _ => (key, value)
    | _, _ => (key, value)

end TrafficReplay
