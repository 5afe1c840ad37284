-- Dates and times as documents write them. Only their form and their range
-- matter here.
import QuerySieve.Yaml.Complaint

namespace QuerySieve.Yaml

/-- The time of day of a timestamp, and how far it is off, in minutes. -/
structure TimeOfDay where
  hour : Nat
  minute : Nat
  second : Nat
  offset : Int
  deriving DecidableEq, Repr

structure Timestamp where
  year : Nat
  month : Nat
  day : Nat
  time : Option TimeOfDay
  deriving DecidableEq, Repr

namespace Timestamp

/-! ## Form -/

/-- Reads so many digits, at least and at most. -/
def number? (least most : Nat) (t : Text) : Option (Nat × Text) :=
  let digits := (t.take most).takeWhile CodePoint.isAsciiDigit
  if digits.length < least then none
  else some (digits.foldl (fun n c => n * 10 + (c.val - 0x30)) 0, t.drop digits.length)

/-- Reads one sign. -/
def sign? (c : Char) : Text → Option Text
  | [] => none
  | d :: t => if d = c then some t else none

def isBlank (c : CodePoint) : Bool := c = ' ' || c = '\t'

/-- Reads what parts a date from a time: a letter, or blanks. -/
def separator? : Text → Option Text
  | [] => none
  | c :: t =>
    if c = 'T' || c = 't' then some t
    else if isBlank c then some (t.dropWhile isBlank)
    else none

/-- Reads the offset at the end of a time, in minutes. -/
def offset? (t : Text) : Option Int :=
  match t.dropWhile isBlank with
  | [] => if t.isEmpty then some 0 else none
  | c :: t =>
    if c = 'Z' then (if t.isEmpty then some 0 else none)
    else if c = '+' || c = '-' then do
      let (hours, t) ← number? 1 2 t
      let minutes ← if t.isEmpty then some 0 else do
        let (minutes, t) ← number? 2 2 (← sign? ':' t)
        if t.isEmpty then some minutes else none
      let span : Int := hours * 60 + minutes
      return if c = '-' then -span else span
    else none

/-- Drops the fraction of a second. -/
def dropFraction : Text → Text
  | [] => []
  | c :: t => if c = '.' then t.dropWhile CodePoint.isAsciiDigit else c :: t

/-- Reads a time up to the end. -/
def time? (t : Text) : Option TimeOfDay := do
  let (hour, t) ← number? 1 2 t
  let (minute, t) ← number? 2 2 (← sign? ':' t)
  let (second, t) ← number? 2 2 (← sign? ':' t)
  let offset ← offset? (dropFraction t)
  return ⟨hour, minute, second, offset⟩

/-- Reads a timestamp: a date, perhaps with a time. -/
def ofText? (t : Text) : Option Timestamp := do
  let (year, t) ← number? 4 4 t
  let (month, t) ← number? 1 2 (← sign? '-' t)
  let (day, t) ← number? 1 2 (← sign? '-' t)
  if t.isEmpty then return ⟨year, month, day, none⟩
  return ⟨year, month, day, some (← time? (← separator? t))⟩

/-- A text that is a timestamp without saying so: a date alone has all its digits. -/
def isForm (t : Text) : Bool :=
  match ofText? t with
  | none => false
  | some s => s.time.isSome || t.length = 10

/-! ## Range -/

def isLeap (year : Nat) : Bool := year % 4 = 0 && (year % 100 ≠ 0 || year % 400 = 0)

def daysIn (year month : Nat) : Nat :=
  if month = 2 then (if isLeap year then 29 else 28)
  else if month = 4 || month = 6 || month = 9 || month = 11 then 30
  else 31

/-- The minutes of a day. -/
def dayMinutes : Int := 1440

/-- The first part that is out of range. The offset is looked at first. -/
def fault? (s : Timestamp) : Option ScalarFault :=
  match s.time with
  | some t => (offsetFault? t).or ((dateFault? s).or (timeFault? t))
  | none => dateFault? s
where
  offsetFault? (t : TimeOfDay) : Option ScalarFault :=
    if t.offset ≤ -dayMinutes || dayMinutes ≤ t.offset then some (.offsetRange t.offset) else none
  dateFault? (s : Timestamp) : Option ScalarFault :=
    if s.year = 0 then some (.yearRange 0)
    else if s.month = 0 || 12 < s.month then some .monthRange
    else if s.day = 0 || daysIn s.year s.month < s.day then some .dayRange
    else none
  timeFault? (t : TimeOfDay) : Option ScalarFault :=
    if 23 < t.hour then some .hourRange
    else if 59 < t.minute then some .minuteRange
    else if 59 < t.second then some .secondRange
    else none

end Timestamp

end QuerySieve.Yaml
