import Trellis.Text.Digits
import Trellis.Text.Search
/-!
# Dates and times

A date or time in a document is a day, a time of day, or both, then possibly with an offset from
universal time. It is kept as its normal text: a `T` between day and time, no zeros at the end of a
fraction, and the offset with a sign and two digits for hours and minutes, or `Z`.
-/

namespace Trellis.Toml

/-- A day of the Gregorian calendar. -/
structure Day where
  year : Nat
  month : Nat
  day : Nat
  deriving DecidableEq, Repr

/-- A time of day, a leap second included. -/
structure TimeOfDay where
  hour : Nat
  minute : Nat
  second : Nat
  nanosecond : Nat
  deriving DecidableEq, Repr

/-- How far a clock is ahead of universal time. -/
inductive Offset where
  | universal
  | minutes (n : Int)
  deriving DecidableEq, Repr

/-- What a document means by a date or a time. -/
inductive Moment where
  | day (d : Day)
  | time (t : TimeOfDay)
  | dayTime (d : Day) (t : TimeOfDay) (offset : Option Offset)
  deriving DecidableEq, Repr

def isLeapYear (year : Nat) : Bool :=
  year % 4 = 0 && (year % 100 ≠ 0 || year % 400 = 0)

/-- How many days a month has. -/
def daysIn (year month : Nat) : Nat :=
  if month = 2 then if isLeapYear year then 29 else 28
  else if [4, 6, 9, 11].contains month then 30
  else 31

def Day.isValid (d : Day) : Bool :=
  1 ≤ d.month && d.month ≤ 12 && 1 ≤ d.day && d.day ≤ daysIn d.year d.month

def TimeOfDay.isValid (t : TimeOfDay) : Bool :=
  t.hour ≤ 23 && t.minute ≤ 59 && t.second ≤ 60

/-! ## Writing -/

/-- The number with zeros before it up to a width. -/
def padded (width n : Nat) : List Char :=
  let digits := Nat.toDigits 10 n
  List.replicate (width - digits.length) '0' ++ digits

def Day.text (d : Day) : List Char :=
  padded 4 d.year ++ '-' :: padded 2 d.month ++ '-' :: padded 2 d.day

/-- The digits of a fraction of a second, with its point; nothing when there is none. -/
def fractionText (nanosecond : Nat) : List Char :=
  if nanosecond = 0 then []
  else '.' :: ((padded 9 nanosecond).reverse.dropWhile (· = '0')).reverse

def TimeOfDay.text (t : TimeOfDay) : List Char :=
  padded 2 t.hour ++ ':' :: padded 2 t.minute ++ ':' :: padded 2 t.second ++
    fractionText t.nanosecond

def Offset.text : Offset → List Char
  | .universal => ['Z']
  | .minutes n =>
    (if n < 0 then '-' else '+') :: padded 2 (n.natAbs / 60) ++ ':' :: padded 2 (n.natAbs % 60)

def Moment.text : Moment → List Char
  | .day d => d.text
  | .time t => t.text
  | .dayTime d t offset => d.text ++ 'T' :: t.text ++ offset.elim [] Offset.text

/-! ## Reading -/

/-- A number of exactly `width` digits, and the text after it. -/
def fixedNumber? (width : Nat) (text : List Char) : Option (Nat × List Char) :=
  let digits := text.take width
  if digits.length = width then
    (Text.number? 10 digits).map fun n => (n, text.drop width)
  else none

def readDay (text : List Char) : Option (Day × List Char) := do
  let (year, rest) ← fixedNumber? 4 text
  let (month, rest) ← fixedNumber? 2 (← Text.after? '-' rest)
  let (day, rest) ← fixedNumber? 2 (← Text.after? '-' rest)
  let read : Day := { year, month, day }
  if read.isValid then some (read, rest) else none

/-- Nanoseconds from the digits of a fraction; those beyond the ninth are cut off. -/
def nanoseconds? (digits : List Char) : Option Nat :=
  let kept := digits.take 9
  (Text.number? 10 kept).map (· * Nat.pow 10 (9 - kept.length))

/-- A fraction of a second, if one follows. -/
def readFraction : List Char → Option (Nat × List Char)
  | '.' :: rest =>
    let digits := rest.takeWhile Char.isDigit
    if digits.isEmpty then none
    else (nanoseconds? digits).map fun n => (n, rest.dropWhile Char.isDigit)
  | rest => some (0, rest)

def readTime (text : List Char) : Option (TimeOfDay × List Char) := do
  let (hour, rest) ← fixedNumber? 2 text
  let (minute, rest) ← fixedNumber? 2 (← Text.after? ':' rest)
  let (second, rest) ← fixedNumber? 2 (← Text.after? ':' rest)
  let (nanosecond, rest) ← readFraction rest
  let read : TimeOfDay := { hour, minute, second, nanosecond }
  if read.isValid then some (read, rest) else none

/-- An offset and nothing after it. -/
def offset? : List Char → Option Offset
  | ['Z'] | ['z'] => some .universal
  | sign :: rest => do
    if sign ≠ '+' ∧ sign ≠ '-' then none
    let (hours, rest) ← fixedNumber? 2 rest
    let (minutes, rest) ← fixedNumber? 2 (← Text.after? ':' rest)
    if rest.isEmpty ∧ hours ≤ 23 ∧ minutes ≤ 59 then
      some (.minutes (Text.signed (sign = '-') (hours * 60 + minutes)))
    else none
  | [] => none

/-- A time after its day, with or without an offset, and nothing after it. -/
def dayTime? (day : Day) (text : List Char) : Option Moment := do
  let (time, rest) ← readTime text
  if rest.isEmpty then some (.dayTime day time none)
  else some (.dayTime day time (← offset? rest))

/-- The date or time that a text writes. -/
def Moment.parse? (text : List Char) : Option Moment :=
  match readDay text with
  | some (d, []) => some (.day d)
  | some (d, delimiter :: rest) =>
    if ['T', 't', ' '].contains delimiter then dayTime? d rest else none
  | none =>
    match readTime text with
    | some (t, []) => some (.time t)
    | _ => none

end Trellis.Toml
