import TrafficReplay.Number.Notation
import TrafficReplay.Scram.Keys
import TrafficReplay.Text.Base64
import TrafficReplay.Text.Cut

namespace TrafficReplay.Scram

def parts (text : List Char) : List (List Char) := Text.pieces (· = ',') text

def part? (letter : Char) : List Char → Option (List Char)
  | c :: '=' :: value => if c = letter then some value else none
  | _ => none

inductive Unfit where
  | refused
  /-- It breaks off before its nonce, and nobody is told so. -/
  | brokenOff
deriving DecidableEq, Repr

structure ClientFirst where
  binding : List Char
  userName : List Char
  nonce : List Char
  bare : List Char
deriving DecidableEq, Repr

namespace ClientFirst

def plainBinding : List Char := ['n', ',', ',']

/-- User names are written as they are, even where a comma in one ends the part. -/
def ofUser (userName : String) (nonce : List Char) : ClientFirst where
  binding := plainBinding
  userName := userName.toList
  nonce := nonce
  bare := ['n', '='] ++ userName.toList ++ [',', 'r', '='] ++ nonce

def text (first : ClientFirst) : List Char := first.binding ++ first.bare

def joined : List (List Char) → List Char
  | [] => []
  | [piece] => piece
  | piece :: rest => piece ++ ',' :: joined rest

def isFlag (part : List Char) : Bool := part = ['n'] || part = ['y']

def isIdentity (part : List Char) : Bool := part.isEmpty || (part? 'a' part).isSome

/-- A part this short holds no letter and equals sign. -/
def isStub (part : List Char) : Bool := (Utf8.encodeChars part).length < 2

def parse (text : List Char) : Except Unfit ClientFirst :=
  match parts text with
  | flag :: identity :: name :: nonce :: rest =>
    match part? 'n' name with
    | none => .error .refused
    | some userName =>
      if !isFlag flag || !isIdentity identity then .error .refused
      else if isStub nonce then .error .brokenOff
      else
        match part? 'r' nonce with
        | none => .error .refused
        | some value => .ok {
            binding := flag ++ ',' :: identity ++ [',']
            userName := userName
            nonce := value
            bare := joined (name :: nonce :: rest) }
  | _ => .error .refused

end ClientFirst

structure ServerFirst where
  nonce : List Char
  salt : List UInt8
  iterations : Nat
deriving DecidableEq, Repr

namespace ServerFirst

def text (first : ServerFirst) : List Char :=
  ['r', '='] ++ first.nonce ++ [',', 's', '='] ++ Base64.encode first.salt ++
    [',', 'i', '='] ++ (toString first.iterations).toList

def iterations? (text : List Char) : Option Nat := do
  let count ← Notation.integer? text
  if 0 < count ∧ count < 2 ^ 32 then some count.toNat else none

def parse? (text : List Char) : Option ServerFirst :=
  match parts text with
  | nonce :: salt :: iterations :: _ => do
    let nonce ← part? 'r' nonce
    let salt ← part? 's' salt
    let salt ← Base64.decode? salt
    let iterations ← part? 'i' iterations
    let iterations ← iterations? iterations
    some ⟨nonce, salt, iterations⟩
  | _ => none

end ServerFirst

structure ClientFinal where
  binding : List Char
  nonce : List Char
  proof : List UInt8
deriving DecidableEq, Repr

namespace ClientFinal

def unproved (binding nonce : List Char) : List Char :=
  ['c', '='] ++ Base64.encode (Utf8.encodeChars binding) ++ [',', 'r', '='] ++ nonce

def text (final : ClientFinal) : List Char :=
  unproved final.binding final.nonce ++ [',', 'p', '='] ++ Base64.encode final.proof

end ClientFinal

/-- All of a conversation that both sides vouch for. -/
def conversation (first : ClientFirst) (serverFirst : List Char) (nonce : List Char) :
    List UInt8 :=
  Utf8.encodeChars (first.bare ++ [','] ++ serverFirst ++ [','] ++
    ClientFinal.unproved first.binding nonce)

def verifierText (signature : List UInt8) : List Char := ['v', '='] ++ Base64.encode signature

def refusalText : List Char := "e=Invalid Password".toList

def signature? (text : List Char) : Option (List UInt8) :=
  match parts text with
  | first :: _ => (part? 'v' first).bind Base64.decode?
  | [] => none

end TrafficReplay.Scram
