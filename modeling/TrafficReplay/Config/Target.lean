import TrafficReplay.Text.Blank
import TrafficReplay.Text.Cut
import TrafficReplay.Text.Percent
import TrafficReplay.Text.Quoted

namespace TrafficReplay

inductive PortFault where
  | empty
  | notDigit
  | tooLarge
deriving DecidableEq, Repr

def PortFault.message : PortFault → String
  | .empty => "cannot parse integer from empty string"
  | .notDigit => "invalid digit found in string"
  | .tooLarge => "number too large to fit in target type"

inductive EncodedPart where
  | userName
  | password
  | database
  | authSource
deriving DecidableEq, Repr

def EncodedPart.text : EncodedPart → String
  | .userName => "user name"
  | .password => "password"
  | .database => "database"
  | .authSource => "authSource"

inductive TargetFault where
  | noHost
  | unterminatedLiteral
  | afterLiteral (tail : String)
  | port (fault : PortFault)
  | portZero
  | noPassword
  | encoding (part : EncodedPart) (fault : Utf8.Fault)
  | emptyUserName
  | mechanism (name : String)
deriving DecidableEq, Repr

def scramMechanism : String := "SCRAM-SHA-256"

def TargetFault.message (target : String) : TargetFault → String
  | .noHost => s!"No host in target '{target}'"
  | .unterminatedLiteral => s!"Unterminated IPv6 literal in target '{target}'"
  | .afterLiteral tail => s!"Unexpected '{tail}' after IPv6 literal in target '{target}'"
  | .port fault => s!"Invalid port in target '{target}': {fault.message}"
  | .portZero => s!"Port cannot be 0 in target '{target}'"
  | .noPassword => s!"Credentials in target '{target}' must be user:password"
  | .encoding part fault => s!"Invalid {part.text} in target '{target}': {fault.message}"
  | .emptyUserName => s!"Empty user name in target '{target}'"
  | .mechanism name =>
    s!"Unsupported authMechanism '{name}' in target '{target}', only {scramMechanism} is spoken"

structure Address where
  host : String
  port : Nat
deriving DecidableEq, Repr

def Address.text (address : Address) : String := address.host ++ ":" ++ toString address.port

structure Credentials where
  userName : String
  password : String
  source : String
deriving DecidableEq, Repr

def Credentials.shown (credentials : Credentials) : String :=
  "Credentials \x7b username: " ++ Text.quote credentials.userName ++
    ", password: \"<redacted>\", source: " ++ Text.quote credentials.source ++ " \x7d"

namespace Target

def scheme : List Char := "mongodb://".toList

def defaultPort : Nat := 27017

def defaultSource : String := "admin"

def withoutScheme (target : List Char) : List Char :=
  (scheme.isPrefixOf? target).getD target

def endsAuthority (c : Char) : Bool := c = '/' || c = '?'

def authority (target : List Char) : List Char :=
  (withoutScheme target).takeWhile fun c => !endsAuthority c

def tail (target : List Char) : List Char :=
  (withoutScheme target).dropWhile fun c => !endsAuthority c

/-- User information and hosts, cut at the last `@` of the authority. -/
def userInfo? (target : List Char) : Option (List Char) :=
  (Text.cutLast? (· = '@') (authority target)).map Prod.fst

def hosts (target : List Char) : List Char :=
  match Text.cutLast? (· = '@') (authority target) with
  | some (_, hosts) => hosts
  | none => authority target

def firstHost (target : List Char) : List Char :=
  Text.trim ((hosts target).takeWhile fun c => c ≠ ',')

def digit? (c : Char) : Option Nat :=
  if '0' ≤ c ∧ c ≤ '9' then some (c.toNat - '0'.toNat) else none

def portDigits (value : Nat) : List Char → Except PortFault Nat
  | [] => .ok value
  | c :: rest =>
    match digit? c with
    | none => .error .notDigit
    | some digit =>
      if 10 * value + digit < 65536 then portDigits (10 * value + digit) rest
      else .error .tooLarge

/-- A port may have a plus sign. -/
def port : List Char → Except PortFault Nat
  | [] => .error .empty
  | ['+'] => .error .notDigit
  | '+' :: digits => portDigits 0 digits
  | digits => portDigits 0 digits

/-- Name and text of the port of a host; brackets belong to the name. -/
def splitHost (host : List Char) : Except TargetFault (List Char × Option (List Char)) :=
  match host with
  | '[' :: literal =>
    match Text.cutFirst? (· = ']') literal with
    | none => .error .unterminatedLiteral
    | some (name, []) => .ok ('[' :: name ++ [']'], none)
    | some (name, ':' :: port) => .ok ('[' :: name ++ [']'], some port)
    | some (_, tail) => .error (.afterLiteral (String.ofList tail))
  | _ =>
    match Text.cutLast? (· = ':') host with
    | some (name, port) => .ok (name, some port)
    | none => .ok (host, none)

def address (target : String) : Except TargetFault Address := do
  let host := firstHost target.toList
  if host.isEmpty then throw .noHost
  let (name, portText) ← splitHost host
  if name.isEmpty then throw .noHost
  let number ← match portText with
    | none => pure defaultPort
    | some text => (port text).mapError .port
  if number = 0 then throw .portZero
  return ⟨String.ofList name, number⟩

def decode (part : EncodedPart) (text : List Char) : Except TargetFault String :=
  (Percent.decode (String.ofList text)).mapError (.encoding part)

/-- Where users are looked up after reading the options from left to right. -/
def sourceAfter (source : String) : List (List Char) → Except TargetFault String
  | [] => .ok source
  | option :: rest => do
    if option.isEmpty then sourceAfter source rest
    else
      let (key, value) := (Text.cutFirst? (· = '=') option).getD (option, [])
      if Text.sameLetters (String.ofList key) "authSource" then
        let source ← decode .authSource value
        sourceAfter source rest
      else if Text.sameLetters (String.ofList key) "authMechanism"
          ∧ String.ofList value ≠ scramMechanism then
        throw (.mechanism (String.ofList value))
      else sourceAfter source rest

def credentials (target : String) : Except TargetFault (Option Credentials) := do
  match userInfo? target.toList with
  | none => return none
  | some info =>
    let (user, password) ← match Text.cutFirst? (· = ':') info with
      | none => throw .noPassword
      | some parts => pure parts
    let userName ← decode .userName user
    if userName.isEmpty then throw .emptyUserName
    let password ← decode .password password
    let (path, options) :=
      (Text.cutFirst? (· = '?') (tail target.toList)).getD (tail target.toList, [])
    let database := path.dropWhile (· = '/')
    let source ← if database.isEmpty then pure defaultSource else decode .database database
    let source ← sourceAfter source (Text.pieces (· = '&') options)
    return some ⟨userName, password, source⟩

end Target

end TrafficReplay
