namespace TrafficReplay.Utf8

def encodeChars (chars : List Char) : List UInt8 :=
  chars.flatMap String.utf8EncodeChar

def encode (text : String) : List UInt8 := encodeChars text.toList

/-- The first ill-formed sequence starts at `start`. Its length is absent when the input ends
    inside a sequence that could still become a character. -/
structure Fault where
  start : Nat
  length : Option Nat
deriving DecidableEq, Repr

def Fault.message (fault : Fault) : String :=
  match fault.length with
  | some length => s!"invalid utf-8 sequence of {length} bytes from index {fault.start}"
  | none => s!"incomplete utf-8 byte sequence from index {fault.start}"

def isContinuation (byte : UInt8) : Bool := 0x80 ≤ byte && byte < 0xC0

def following (lead : UInt8) : Option Nat :=
  if lead < 0x80 then some 0
  else if lead < 0xC2 then none
  else if lead < 0xE0 then some 1
  else if lead < 0xF0 then some 2
  else if lead < 0xF5 then some 3
  else none

/-- The second byte is narrower than a continuation where the first one would allow an
    overlong form, a surrogate or a value beyond the last character. -/
def isSecond (lead second : UInt8) : Bool :=
  if lead = 0xE0 then 0xA0 ≤ second && second < 0xC0
  else if lead = 0xED then 0x80 ≤ second && second < 0xA0
  else if lead = 0xF0 then 0x90 ≤ second && second < 0xC0
  else if lead = 0xF4 then 0x80 ≤ second && second < 0x90
  else isContinuation second

def char1 (a : UInt8) : Char := Char.ofNat a.toNat

def char2 (a b : UInt8) : Char := Char.ofNat (a.toNat % 32 * 64 + b.toNat % 64)

def char3 (a b c : UInt8) : Char :=
  Char.ofNat (a.toNat % 16 * 4096 + b.toNat % 64 * 64 + c.toNat % 64)

def char4 (a b c d : UInt8) : Char :=
  Char.ofNat (a.toNat % 8 * 262144 + b.toNat % 64 * 4096 + c.toNat % 64 * 64 + d.toNat % 64)

def decodeChars (start : Nat) : List UInt8 → Except Fault (List Char)
  | [] => .ok []
  | a :: rest =>
    match following a with
    | none => .error ⟨start, some 1⟩
    | some 0 => (decodeChars (start + 1) rest).map (char1 a :: ·)
    | some 1 =>
      match rest with
      | [] => .error ⟨start, none⟩
      | b :: rest =>
        if isSecond a b then (decodeChars (start + 2) rest).map (char2 a b :: ·)
        else .error ⟨start, some 1⟩
    | some 2 =>
      match rest with
      | [] => .error ⟨start, none⟩
      | b :: rest =>
        if isSecond a b then
          match rest with
          | [] => .error ⟨start, none⟩
          | c :: rest =>
            if isContinuation c then (decodeChars (start + 3) rest).map (char3 a b c :: ·)
            else .error ⟨start, some 2⟩
        else .error ⟨start, some 1⟩
    | some _ =>
      match rest with
      | [] => .error ⟨start, none⟩
      | b :: rest =>
        if isSecond a b then
          match rest with
          | [] => .error ⟨start, none⟩
          | c :: rest =>
            if isContinuation c then
              match rest with
              | [] => .error ⟨start, none⟩
              | d :: rest =>
                if isContinuation d then
                  (decodeChars (start + 4) rest).map (char4 a b c d :: ·)
                else .error ⟨start, some 3⟩
            else .error ⟨start, some 2⟩
        else .error ⟨start, some 1⟩

def decode (bytes : List UInt8) : Except Fault String :=
  (decodeChars 0 bytes).map String.ofList

/-- Text of bytes that may be cut off inside a character; a replacement stands for the rest. -/
def decodeCut (bytes : List UInt8) : String :=
  match decode bytes with
  | .ok text => text
  | .error fault => ((decode (bytes.take fault.start)).toOption.getD "").push '\ufffd'

end TrafficReplay.Utf8
