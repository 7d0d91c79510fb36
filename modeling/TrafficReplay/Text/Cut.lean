namespace TrafficReplay.Text

def cutFirst? (separates : Char → Bool) : List Char → Option (List Char × List Char)
  | [] => none
  | c :: rest =>
    if separates c then some ([], rest)
    else (cutFirst? separates rest).map fun (head, tail) => (c :: head, tail)

def cutLast? (separates : Char → Bool) : List Char → Option (List Char × List Char)
  | [] => none
  | c :: rest =>
    match cutLast? separates rest with
    | some (head, tail) => some (c :: head, tail)
    | none => if separates c then some ([], rest) else none

/-- All pieces between separators; a text without one is a single piece. -/
def pieces (separates : Char → Bool) : List Char → List (List Char)
  | [] => [[]]
  | c :: rest =>
    match pieces separates rest with
    | [] => [[c]]
    | piece :: others =>
      if separates c then [] :: piece :: others else (c :: piece) :: others

def lowerAscii (c : Char) : Char :=
  if 'A' ≤ c ∧ c ≤ 'Z' then Char.ofNat (c.toNat + 32) else c

/-- Equality that does not tell apart ASCII letters of different case. -/
def sameLetters (a b : String) : Bool := a.toList.map lowerAscii = b.toList.map lowerAscii

end TrafficReplay.Text
