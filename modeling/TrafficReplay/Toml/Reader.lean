import TrafficReplay.Calendar
import TrafficReplay.Text.Hex
import TrafficReplay.Toml.Value

namespace TrafficReplay.Toml

open Notation (isDigit isExponentMark)

abbrev Reader (α : Type) := List Char → Option (α × List Char)

/-- Arrays and tables in braces nest no deeper, and no key has more parts. -/
def deepest : Nat := 79

def isSpace (c : Char) : Bool := c = ' ' || c = '\t'

def skipSpace (text : List Char) : List Char := text.dropWhile isSpace

def isControl (c : Char) : Bool := (c.toNat < 0x20 && c ≠ '\t') || c.toNat = 0x7F

def endOfLine? : List Char → Option (List Char)
  | '\n' :: rest => some rest
  | '\r' :: '\n' :: rest => some rest
  | _ => none

def skipComment? : List Char → Option (List Char)
  | '#' :: rest =>
    let after := rest.dropWhile fun c => !isControl c
    if after.isEmpty || (endOfLine? after).isSome then some after else none
  | text => some text

def hexNumber? (digits : List Char) : Option Nat :=
  digits.foldlM (fun value c => (Hex.value? c).map (16 * value + ·)) 0

def scalar? (count : Nat) (text : List Char) : Option (Char × List Char) := do
  let digits := text.take count
  if digits.length < count then none
  else
    let number ← hexNumber? digits
    if h : number.isValidChar then some (Char.ofNatAux number h, text.drop count) else none

def escape? : Reader Char
  | 'b' :: rest => some ('\x08', rest)
  | 't' :: rest => some ('\t', rest)
  | 'n' :: rest => some ('\n', rest)
  | 'f' :: rest => some ('\x0c', rest)
  | 'r' :: rest => some ('\r', rest)
  | '"' :: rest => some ('"', rest)
  | '\\' :: rest => some ('\\', rest)
  | 'u' :: rest => scalar? 4 rest
  | 'U' :: rest => scalar? 8 rest
  | _ => none

def basicText : (fuel : Nat) → List Char → List Char → Option (String × List Char)
  | 0, _, _ => none
  | _ + 1, _, [] => none
  | _ + 1, read, '"' :: rest => some (String.ofList read.reverse, rest)
  | fuel + 1, read, '\\' :: rest => do
    let (c, rest) ← escape? rest
    basicText fuel (c :: read) rest
  | fuel + 1, read, c :: rest => if isControl c then none else basicText fuel (c :: read) rest

def literalText (text : List Char) : Option (String × List Char) :=
  let content := text.takeWhile fun c => c ≠ '\''
  match text.dropWhile fun c => c ≠ '\'' with
  | [] => none
  | _ :: rest => if content.any isControl then none else some (String.ofList content, rest)

/-- White space and ends of line after a backslash that ends a line. -/
def skipLines : (fuel : Nat) → List Char → List Char
  | 0, text => text
  | fuel + 1, text =>
    let text := skipSpace text
    match endOfLine? text with
    | some rest => skipLines fuel rest
    | none => text

/-- Text between three quotes. Up to two quotes may stand before the closing ones. -/
def longText (quote : Char) (escapes : Bool) :
    (fuel : Nat) → List Char → List Char → Option (String × List Char)
  | 0, _, _ => none
  | _ + 1, _, [] => none
  | fuel + 1, read, c :: rest =>
    if c = quote then
      let more := rest.takeWhile (· = quote)
      if more.length < 2 then longText quote escapes fuel (c :: read) rest
      else
        let kept := more.length - 2
        if 2 < kept then none
        else some (String.ofList (List.replicate kept quote ++ read).reverse, rest.drop more.length)
    else if c = '\\' ∧ escapes then
      match endOfLine? (skipSpace rest) with
      | some after => longText quote escapes fuel read (skipLines after.length after)
      | none => do
        let (c, rest) ← escape? rest
        longText quote escapes fuel (c :: read) rest
    else
      match endOfLine? (c :: rest) with
      | some after => longText quote escapes fuel ('\n' :: read) after
      | none => if isControl c then none else longText quote escapes fuel (c :: read) rest

def afterFirstLine (text : List Char) : List Char := (endOfLine? text).getD text

def text? (text : List Char) : Option (String × List Char) :=
  match text with
  | '"' :: '"' :: '"' :: rest =>
    longText '"' true (rest.length + 1) [] (afterFirstLine rest)
  | '\'' :: '\'' :: '\'' :: rest =>
    longText '\'' false (rest.length + 1) [] (afterFirstLine rest)
  | '"' :: rest => basicText (rest.length + 1) [] rest
  | '\'' :: rest => literalText rest
  | _ => none

def isBare (c : Char) : Bool :=
  ('A' ≤ c && c ≤ 'Z') || ('a' ≤ c && c ≤ 'z') || ('0' ≤ c && c ≤ '9') || c = '_' || c = '-'

def simpleKey? (text : List Char) : Option (String × List Char) :=
  match text with
  | '"' :: rest => basicText (rest.length + 1) [] rest
  | '\'' :: rest => literalText rest
  | _ =>
    let key := text.takeWhile isBare
    if key.isEmpty then none else some (String.ofList key, text.dropWhile isBare)

def keyParts? : (fuel : Nat) → Reader (List String)
  | 0, _ => none
  | fuel + 1, text => do
    let (part, rest) ← simpleKey? (skipSpace text)
    match skipSpace rest with
    | '.' :: rest =>
      let (parts, rest) ← keyParts? fuel rest
      return (part :: parts, rest)
    | rest => return ([part], rest)

def key? (text : List Char) : Option (List String × List Char) := do
  let (parts, rest) ← keyParts? (text.length + 1) text
  if parts.length ≤ deepest then some (parts, rest) else none

def wellGrouped (digit : Char → Bool) : List Char → Bool
  | [] => false
  | [c] => digit c
  | c :: '_' :: rest => digit c && wellGrouped digit rest
  | c :: rest => digit c && wellGrouped digit rest

def plainDigits (text : List Char) : List Char := text.filter fun c => c ≠ '_'

def number (base : Nat) (digits : List Char) : Nat :=
  (plainDigits digits).foldl (fun value c => base * value + (Hex.value? c).getD 0) 0

def largestInteger : Nat := 2 ^ 63 - 1

def radixInteger? (base : Nat) (digits : List Char) : Option Node :=
  let digit := fun c => ((Hex.value? c).map fun v => decide (v < base)).getD false
  if wellGrouped digit digits && number base digits ≤ largestInteger then
    some (.integer (number base digits))
  else none

def isDecimal (digits : List Char) : Bool :=
  wellGrouped isDigit digits && (digits.head? ≠ some '0' || digits = ['0'])

def decimalInteger? (negative : Bool) (digits : List Char) : Option Node :=
  if !isDecimal digits then none
  else
    let n := number 10 digits
    if negative then if n ≤ largestInteger + 1 then some (.integer (-n)) else none
    else if n ≤ largestInteger then some (.integer n) else none

def exponent? (text : List Char) : Option Int :=
  let (negative, digits) :=
    match text with
    | '-' :: rest => (true, rest)
    | '+' :: rest => (false, rest)
    | _ => (false, text)
  if wellGrouped isDigit digits then
    let n := number 10 digits
    some (if negative then -n else n)
  else none

def float? (negative : Bool) (text : List Char) : Option Node := do
  let mantissa := text.takeWhile fun c => !isExponentMark c
  let (power, marked) ←
    match text.dropWhile fun c => !isExponentMark c with
    | [] => some ((0 : Int), false)
    | _ :: digits => (exponent? digits).map fun power => (power, true)
  let whole := mantissa.takeWhile (· ≠ '.')
  let (part, pointed) ←
    match mantissa.dropWhile (· ≠ '.') with
    | [] => some ([], false)
    | _ :: digits => if wellGrouped isDigit digits then some (plainDigits digits, true) else none
  if !isDecimal whole || !(marked || pointed) then none
  else
    let x := Double.ofDecimal (number 10 (plainDigits whole ++ part)) (power - part.length)
    if negative then some (.float x.neg)
    else if x = .infinity then none
    else some (.float x)

def special? (negative : Bool) (text : List Char) : Option Node :=
  if text = "inf".toList then some (.float (if negative then Double.infinity.neg else .infinity))
  else if text = "nan".toList then some (.float (if negative then Double.nan.neg else .nan))
  else none

def unsignedNumber? (negative : Bool) (text : List Char) : Option Node :=
  (decimalInteger? negative text).orElse fun _ =>
    (float? negative text).orElse fun _ => special? negative text

def isDate (text : List Char) : Bool := (Calendar.date? text).isSome

def isClock (text : List Char) : Bool :=
  (Calendar.clock? (text.take 8)).isSome &&
    match Calendar.nanos? (text.drop 8) with
    | some (_, []) => true
    | _ => false

def isOffset (text : List Char) : Bool := (Calendar.offset? text).isSome

def isClockPart (c : Char) : Bool := isDigit c || c = ':' || c = '.'

def isMoment (text : List Char) : Bool :=
  if isClock text || isDate text then true
  else
    match text.drop 10 with
    | mark :: rest =>
      isDate (text.take 10) && (mark = 'T' || mark = 't' || mark = ' ') &&
        isClock (rest.takeWhile isClockPart) &&
        (let offset := rest.dropWhile isClockPart
         offset.isEmpty || isOffset offset)
    | [] => false

def endsToken (c : Char) : Bool :=
  isSpace c || c = '\n' || c = '\r' || c = ',' || c = ']' || c = '\x7d' || c = '#' || c = '='

/-- A token, and with it the time of day that a single space sets apart from a date. -/
def token (text : List Char) : List Char × List Char :=
  let first := text.takeWhile fun c => !endsToken c
  let rest := text.dropWhile fun c => !endsToken c
  match rest with
  | ' ' :: after =>
    let second := after.takeWhile fun c => !endsToken c
    if isDate first && isMoment (first ++ ' ' :: second) then
      (first ++ ' ' :: second, after.dropWhile fun c => !endsToken c)
    else (first, rest)
  | _ => (first, rest)

def scalarNode? (text : List Char) : Option Node :=
  if text = "true".toList then some (.bool true)
  else if text = "false".toList then some (.bool false)
  else
    match text with
    | '+' :: rest => unsignedNumber? false rest
    | '-' :: rest => unsignedNumber? true rest
    | '0' :: 'x' :: rest => radixInteger? 16 rest
    | '0' :: 'o' :: rest => radixInteger? 8 rest
    | '0' :: 'b' :: rest => radixInteger? 2 rest
    | _ => (unsignedNumber? false text).orElse fun _ => if isMoment text then some .moment else none

def skipBlank : (fuel : Nat) → List Char → Option (List Char)
  | 0, text => some text
  | fuel + 1, text => do
    let after ← skipComment? (skipSpace text)
    match endOfLine? after with
    | some rest => skipBlank fuel rest
    | none => return after

mutual

/-- A value inside which `room` more arrays and tables may nest. -/
def value? : (fuel room : Nat) → Reader Node
  | 0, _, _ => none
  | fuel + 1, room, text =>
    match text, room with
    | '[' :: _, 0 | '\x7b' :: _, 0 => none
    | '[' :: rest, room + 1 => do
      let (items, rest) ← items? fuel room rest
      return (.array items, rest)
    | '\x7b' :: rest, room + 1 =>
      match skipSpace rest with
      | '\x7d' :: rest => some (.table .braces [], rest)
      | rest => do
        let (fields, rest) ← pairs? fuel room [] rest
        return (.table .braces fields, rest)
    | '"' :: _, _ | '\'' :: _, _ => (text? text).map fun (content, rest) => (.text content, rest)
    | _, _ =>
      let (scalar, rest) := token text
      (scalarNode? scalar).map fun node => (node, rest)

def items? : (fuel room : Nat) → Reader (List Node)
  | 0, _, _ => none
  | fuel + 1, room, text => do
    match ← skipBlank text.length text with
    | ']' :: rest => return ([], rest)
    | text =>
      let (item, rest) ← value? fuel room text
      match ← skipBlank rest.length rest with
      | ',' :: rest =>
        let (items, rest) ← items? fuel room rest
        return (item :: items, rest)
      | ']' :: rest => return ([item], rest)
      | _ => none

def pairs? : (fuel room : Nat) → Fields → Reader Fields
  | 0, _, _, _ => none
  | fuel + 1, room, fields, text => do
    let (parts, rest) ← key? text
    match rest with
    | '=' :: rest =>
      let (node, rest) ← value? fuel room (skipSpace rest)
      let path := parts.dropLast
      let fields ← addField path.isEmpty fields path (parts.getLast?.getD "") node
      match skipSpace rest with
      | ',' :: rest => pairs? fuel room fields rest
      | '\x7d' :: rest => return (fields, rest)
      | _ => none
    | _ => none

end

structure Progress where
  fields : Fields
  header : List String

def lineEnd? (text : List Char) : Option (List Char) := do
  let after ← skipComment? (skipSpace text)
  if after.isEmpty then return []
  else endOfLine? after

def line? (progress : Progress) (text : List Char) : Option (Progress × List Char) := do
  match skipSpace text with
  | [] => return (progress, [])
  | '[' :: '[' :: rest =>
    let (parts, rest) ← key? rest
    match rest with
    | ']' :: ']' :: rest =>
      let fields ← openItem progress.fields parts.dropLast (parts.getLast?.getD "")
      return (⟨fields, parts⟩, ← lineEnd? rest)
    | _ => none
  | '[' :: rest =>
    let (parts, rest) ← key? rest
    match rest with
    | ']' :: rest =>
      let fields ← openTable progress.fields parts.dropLast (parts.getLast?.getD "")
      return (⟨fields, parts⟩, ← lineEnd? rest)
    | _ => none
  | text =>
    if text.head? = some '#' || (endOfLine? text).isSome then return (progress, ← lineEnd? text)
    else
      let (parts, rest) ← key? text
      match rest with
      | '=' :: rest =>
        let (node, rest) ← value? (rest.length + 1) deepest (skipSpace rest)
        let fields ← addUnder progress.fields progress.header parts.dropLast
          (parts.getLast?.getD "") node
        return (⟨fields, progress.header⟩, ← lineEnd? rest)
      | _ => none

def lines? : (fuel : Nat) → Progress → List Char → Option Fields
  | 0, progress, text => if text.isEmpty then some progress.fields else none
  | fuel + 1, progress, text =>
    if text.isEmpty then some progress.fields
    else do
      let (progress, rest) ← line? progress text
      lines? fuel progress rest

def read? (text : String) : Option Fields :=
  let chars := text.toList
  let chars := if chars.head? = some '\ufeff' then chars.drop 1 else chars
  lines? (chars.length + 1) ⟨[], []⟩ chars

end TrafficReplay.Toml
