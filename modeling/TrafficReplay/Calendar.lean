import TrafficReplay.Number.Notation

-- So is the zero a sum begins with.
attribute [instance(1100)] Zero.ofOfNat0

namespace TrafficReplay.Calendar

open Notation (isDigit)

def isLeap (year : Nat) : Bool := year % 4 = 0 && (year % 100 ≠ 0 || year % 400 = 0)

def daysIn (year month : Nat) : Nat :=
  if month = 2 then if isLeap year then 29 else 28
  else if month = 4 ∨ month = 6 ∨ month = 9 ∨ month = 11 then 30 else 31

structure Date where
  year : Nat
  month : Nat
  day : Nat
deriving DecidableEq, Repr

namespace Date

def isValid (date : Date) : Bool :=
  1 ≤ date.month && date.month ≤ 12 && 1 ≤ date.day && date.day ≤ daysIn date.year date.month

def daysBeforeYear (year : Nat) : Nat :=
  365 * year + (year + 3) / 4 - (year + 99) / 100 + (year + 399) / 400

def daysBeforeMonth (year month : Nat) : Nat :=
  ((List.range (month - 1)).map fun earlier => daysIn year (earlier + 1)).sum

def dayNumber (date : Date) : Int :=
  (daysBeforeYear date.year + daysBeforeMonth date.year date.month + date.day : Int) -
    (daysBeforeYear 1970 + 1)

/-- Whether the day so many days later is the last one of its month, for at most a day either
    way. -/
def endsMonth (date : Date) (shift : Int) : Bool :=
  date.day + shift = 0 || date.day + shift = daysIn date.year date.month

end Date

def fits (shape : List Char) (text : List Char) : Bool :=
  shape.length = text.length &&
    (List.zip shape text).all fun (s, c) => if s = '0' then isDigit c else s = c

def digitsAt (text : List Char) (start count : Nat) : Nat :=
  (Notation.natural? ((text.drop start).take count)).getD 0

def date? (text : List Char) : Option Date :=
  let date : Date := ⟨digitsAt text 0 4, digitsAt text 5 2, digitsAt text 8 2⟩
  if fits "0000-00-00".toList text && date.isValid then some date else none

structure Clock where
  hour : Nat
  minute : Nat
  second : Nat
deriving DecidableEq, Repr

/-- The sixtieth second belongs to minutes that are lengthened by one. -/
def clock? (text : List Char) : Option Clock :=
  let clock : Clock := ⟨digitsAt text 0 2, digitsAt text 3 2, digitsAt text 6 2⟩
  if fits "00:00:00".toList text && clock.hour ≤ 23 && clock.minute ≤ 59 && clock.second ≤ 60 then
    some clock
  else none

/-- Nanoseconds written after a point, if one is here, and the text after them. Digits beyond the
    ninth do not count. -/
def nanos? (text : List Char) : Option (Nat × List Char) :=
  match text with
  | '.' :: rest =>
    let digits := rest.takeWhile isDigit
    if digits.isEmpty then none
    else some (digitsAt (digits ++ List.replicate 9 '0') 0 9, rest.dropWhile isDigit)
  | _ => some (0, text)

def offset? (text : List Char) : Option Int :=
  match text with
  | ['Z'] | ['z'] => some 0
  | sign :: rest =>
    let hours := digitsAt rest 0 2
    let minutes := digitsAt rest 3 2
    if fits "00:00".toList rest && hours ≤ 23 && minutes ≤ 59 then
      if sign = '+' then some (60 * hours + minutes)
      else if sign = '-' then some (-(60 * hours + minutes))
      else none
    else none
  | [] => none

structure Moment where
  date : Date
  clock : Clock
  nanos : Nat
  offset : Int
deriving DecidableEq, Repr

namespace Moment

def minutes (moment : Moment) : Int :=
  60 * moment.clock.hour + moment.clock.minute - moment.offset

/-- Minutes are lengthened at the end of a month only, by universal time. -/
def mayLengthen (moment : Moment) : Bool :=
  moment.minutes % 1440 = 1439 && moment.date.endsMonth (moment.minutes / 1440)

/-- Nanoseconds since the epoch. The second by which a minute is lengthened counts as the last
    nanosecond before it. -/
def nanosSinceEpoch (moment : Moment) : Int :=
  let minutes := 1440 * moment.date.dayNumber + moment.minutes
  if moment.clock.second = 60 then 60000000000 * (minutes + 1) - 1
  else 60000000000 * minutes + 1000000000 * moment.clock.second + moment.nanos

end Moment

def moment? (text : List Char) : Option Moment := do
  let date ← date? (text.take 10)
  match text.drop 10 with
  | [] => none
  | mark :: rest =>
    let clock ← clock? (rest.take 8)
    let (nanos, rest) ← nanos? (rest.drop 8)
    let offset ← offset? rest
    let moment : Moment := ⟨date, clock, nanos, offset⟩
    if 128 ≤ mark.toNat ∨ clock.second = 60 ∧ !moment.mayLengthen then none else some moment

def millis? (text : List Char) : Option Int :=
  (moment? text).map fun moment => Int.tdiv moment.nanosSinceEpoch 1000000

end TrafficReplay.Calendar
