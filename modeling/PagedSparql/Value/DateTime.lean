import PagedSparql.Value.Calendar
import PagedSparql.Value.Error
import PagedSparql.Number.Checked
import PagedSparql.Number.Notation
import PagedSparql.Number.Reading

/-!
# Dates with a time of day

A `DateTime` is a wall clock time with an optional offset from UTC in seconds. A leap second keeps
second 59 and counts a further thousand million nanoseconds.

Two forms are read. A time with an offset has fields of fixed width, as in
`2024-02-29T12:30:45.5+01:00`; the separator may also be `t` or a blank, and the offset `Z`. A time
without offset has fields of at most that width, each after optional blanks, and a year that may
carry a sign and then any number of digits. Fractions of a second are kept to nine digits.

Two times with offsets are compared as instants, two times without as wall clock times; one with and
one without are not comparable.

The seconds of a duration are added up in 32 bits; a sum that does not fit stops the program.
-/

namespace PagedSparql

/-- A wall clock time. -/
structure WallTime where
  /-- The day, counted from 1970-01-01. -/
  day : Int
  /-- The second of the day. -/
  second : Nat
  /-- The nanoseconds; a thousand million or more within a leap second. -/
  nano : Nat
  deriving DecidableEq

/-- A wall clock time with an optional offset from UTC, in seconds. -/
structure DateTime where
  /-- The time on the wall clock. -/
  wall : WallTime
  /-- How far the wall clock is ahead of UTC. -/
  offset? : Option Int
  deriving DecidableEq

namespace WallTime

/-- The nanoseconds of a second. -/
def nanosPerSecond : Nat := 1000000000

/-- The order of wall clock times. -/
def compare (a b : WallTime) : Ordering :=
  (Ord.compare a.day b.day).then ((Ord.compare a.second b.second).then (Ord.compare a.nano b.nano))

/-- The time some seconds later, or earlier. Moving leaves a leap second: forwards it counts as the
second before it, and backwards as the second after it. -/
def addSeconds (t : WallTime) (seconds : Int) : WallTime :=
  if seconds = 0 then t
  else
    let leap := decide (nanosPerSecond ≤ t.nano)
    -- A leap second counts as the second on the side that the time moves to.
    let start : Int := if leap && decide (seconds < 0) then t.second + 1 else t.second
    let total := start + seconds
    ⟨t.day + total / 86400, (total % 86400).toNat,
      if leap then t.nano - nanosPerSecond else t.nano⟩

/-- The date of the time. -/
def date (t : WallTime) : Civil := .ofDayNumber t.day

/-- The hour. -/
def hour (t : WallTime) : Nat := t.second / 3600

/-- The minute of the hour. -/
def minute (t : WallTime) : Nat := t.second % 3600 / 60

/-- The second of the minute; a leap second has that of the second before it. -/
def secondOfMinute (t : WallTime) : Nat := t.second % 60

/-- The time of a date and a time of day, if both exist; second 60 is a leap second. -/
def ofFields? (date : Civil) (hour minute second nano : Nat) : Option WallTime :=
  if date.isValid ∧ hour < 24 ∧ minute < 60 ∧ second ≤ 60 then
    -- Second 60 is kept as second 59 with a full second of extra nanoseconds.
    if second = 60 then
      some ⟨date.dayNumber, hour * 3600 + minute * 60 + 59, nano + nanosPerSecond⟩
    else some ⟨date.dayNumber, hour * 3600 + minute * 60 + second, nano⟩
  else none

end WallTime

namespace DateTime

/-- Reads a number of exactly `width` digits. -/
def fixed? (width : Nat) (text : List Char) : Option (Nat × List Char) :=
  let digits := text.take width
  if digits.length = width ∧ digits.all Double.isDigit then
    some (Double.ofDigits digits, text.drop width)
  else none

/-- Reads a number of one to `width` digits after optional blanks. -/
def padded? (width : Nat) (text : List Char) : Option (Nat × List Char) :=
  let text := Text.trimStart text
  let digits := (text.take width).takeWhile Double.isDigit
  if digits.isEmpty then none else some (Double.ofDigits digits, text.drop digits.length)

/-- Reads a year after optional blanks: up to four digits, or a sign and any number of digits. -/
def year? (text : List Char) : Option (Int × List Char) :=
  match Text.trimStart text with
  | '-' :: rest =>
    let digits := rest.takeWhile Double.isDigit
    if digits.isEmpty then none
    else some (-(Double.ofDigits digits : Int), rest.drop digits.length)
  | '+' :: rest =>
    let digits := rest.takeWhile Double.isDigit
    if digits.isEmpty then none else some (Double.ofDigits digits, rest.drop digits.length)
  | rest => (padded? 4 rest).map fun (n, rest) => ((n : Int), rest)

/-- The text after a given character. -/
def after? (c : Char) : List Char → Option (List Char)
  | x :: rest => if x = c then some rest else none
  | [] => none

/-- Reads an optional fraction of a second: a point and at least one digit. Digits after the ninth
are dropped. -/
def fraction? : List Char → Option (Nat × List Char)
  | '.' :: rest =>
    let digits := rest.takeWhile Double.isDigit
    if digits.isEmpty then none
    else
      -- Fewer than nine digits stand for tenths, hundredths and so on.
      let kept := digits.take 9
      some (Double.ofDigits kept * Nat.pow 10 (9 - kept.length), rest.drop digits.length)
  | text => some (0, text)

/-- Reads an offset of less than a day to the end of the text: `Z`, or a sign, hours and minutes. -/
def zone? : List Char → Option Int
  | ['Z'] => some 0
  | ['z'] => some 0
  | sign :: rest => do
    let negative ←
      if sign = '+' then some false else if sign = '-' ∨ sign = '\u2212' then some true else none
    let (hours, rest) ← fixed? 2 rest
    let rest ← after? ':' rest
    let (minutes, rest) ← fixed? 2 rest
    if rest.isEmpty ∧ minutes < 60 ∧ hours < 24 then
      let seconds : Int := hours * 3600 + minutes * 60
      some (if negative then -seconds else seconds)
    else none
  | [] => none

/-- Reads a time with an offset. -/
def readZoned? (text : List Char) : Option DateTime := do
  let (year, rest) ← fixed? 4 text
  let rest ← after? '-' rest
  let (month, rest) ← fixed? 2 rest
  let rest ← after? '-' rest
  let (day, rest) ← fixed? 2 rest
  let rest ←
    match rest with
    | c :: rest => if c = 'T' ∨ c = 't' ∨ c = ' ' then some rest else none
    | [] => none
  let (hour, rest) ← fixed? 2 rest
  let rest ← after? ':' rest
  let (minute, rest) ← fixed? 2 rest
  let rest ← after? ':' rest
  let (second, rest) ← fixed? 2 rest
  let (nano, rest) ← fraction? rest
  let offset ← zone? rest
  let wall ← WallTime.ofFields? ⟨year, month, day⟩ hour minute second nano
  some ⟨wall, some offset⟩

/-- Reads a time without offset. -/
def readLocal? (text : List Char) : Option DateTime := do
  let (year, rest) ← year? text
  let rest ← after? '-' rest
  let (month, rest) ← padded? 2 rest
  let rest ← after? '-' rest
  let (day, rest) ← padded? 2 rest
  let rest ← after? 'T' rest
  let (hour, rest) ← padded? 2 rest
  let rest ← after? ':' rest
  let (minute, rest) ← padded? 2 rest
  let rest ← after? ':' rest
  let (second, rest) ← padded? 2 rest
  let (nano, rest) ← fraction? rest
  let wall ← WallTime.ofFields? ⟨year, month, day⟩ hour minute second nano
  if rest.isEmpty then some ⟨wall, none⟩ else none

/-- Reads a time of either form; blanks around it are ignored. -/
def read? (text : String) : Option DateTime :=
  let text := Text.trim text.toList
  (readZoned? text).or (readLocal? text)

/-- The time that a dateTime literal stands for. -/
def ofTerm? (t : Term) : Option DateTime :=
  t.literal?.bind fun l => if l.datatype = Vocabulary.xsdDateTime then read? l.value else none

/-- The time that a dateTime literal stands for, or the error that the term is none. -/
def ofTerm (t : Term) : Except EvalError DateTime :=
  match ofTerm? t with
  | some d => .ok d
  | none => .error (.type (.notDateTime t))

/-- The wall clock time in UTC, if the offset is known. -/
def utc? (d : DateTime) : Option WallTime := d.offset?.map fun offset => d.wall.addSeconds (-offset)

/-- The instant so many nanoseconds after the beginning of 1970, in UTC. -/
def ofInstant (nanos : Int) : DateTime :=
  let seconds := nanos / WallTime.nanosPerSecond
  ⟨⟨seconds / 86400, (seconds % 86400).toNat, (nanos % WallTime.nanosPerSecond).toNat⟩, some 0⟩

/-- Compares two instants or two wall clock times; one of each is not comparable. -/
def compare? (a b : DateTime) : Option Ordering :=
  match a.utc?, b.utc? with
  | some x, some y => some (x.compare y)
  | none, none => some (a.wall.compare b.wall)
  | _, _ => none

/-- A number with zeros in front up to a width. -/
def pad (width n : Nat) : String :=
  let digits := toString n
  Double.zeros (width - digits.length) ++ digits

/-- A year of four digits, or with its sign where four digits do not hold it. -/
def yearText (year : Int) : String :=
  if 0 ≤ year ∧ year ≤ 9999 then pad 4 year.natAbs
  else (if year < 0 then "-" else "+") ++ pad 4 year.natAbs

/-- A fraction of a second with its point, in 3, 6 or 9 digits; nothing for none. -/
def fractionText (nano : Nat) : String :=
  if nano = 0 then ""
  else if nano % 1000000 = 0 then "." ++ pad 3 (nano / 1000000)
  else if nano % 1000 = 0 then "." ++ pad 6 (nano / 1000)
  else "." ++ pad 9 nano

/-- An offset as sign, hours and minutes. -/
def offsetText (offset : Int) : String :=
  (if offset < 0 then "-" else "+") ++ pad 2 (offset.natAbs / 3600) ++ ":" ++
    pad 2 (offset.natAbs % 3600 / 60)

/-- An offset as it follows a time: `Z` for none from UTC. -/
def zoneText (offset : Int) : String := if offset = 0 then "Z" else offsetText offset

/-- The time as text. -/
def toText (d : DateTime) : String :=
  let date := d.wall.date
  let leap := d.wall.nano / WallTime.nanosPerSecond
  yearText date.year ++ "-" ++ pad 2 date.month ++ "-" ++ pad 2 date.day ++ "T" ++
    pad 2 d.wall.hour ++ ":" ++ pad 2 d.wall.minute ++ ":" ++ pad 2 (d.wall.secondOfMinute + leap) ++
    fractionText (d.wall.nano % WallTime.nanosPerSecond) ++
    (d.offset?.map zoneText).getD ""

/-- The time as a literal. -/
def toTerm (d : DateTime) : Term := .literal (.typed d.toText Vocabulary.xsdDateTime)

/-- The seconds of the minute as a decimal; the extra nanoseconds of a leap second show in its
fraction. -/
def secondsText (d : DateTime) : String :=
  let fraction := ((pad 9 d.wall.nano).toList.reverse.dropWhile (· == '0')).reverse
  toString d.wall.secondOfMinute ++ "." ++ if fraction.isEmpty then "0" else .ofList fraction

/-- An offset as a duration, such as `-PT5H30M`. -/
def durationText (offset : Int) : String :=
  if offset = 0 then "PT0S"
  else
    let hours := offset.natAbs / 3600
    let minutes := offset.natAbs % 3600 / 60
    (if offset < 0 then "-" else "") ++ "PT" ++ (if hours = 0 then "" else toString hours ++ "H") ++
      if minutes = 0 then "" else toString minutes ++ "M"

/-- The seconds that a component of a duration counts, by its letter. -/
def unitSeconds? (c : Char) : Option Int :=
  if c = 'H' then some 3600 else if c = 'M' then some 60 else if c = 'S' then some 1 else none

/-- Reads the components of a duration, each digits and a letter, into the sum so far. -/
def components? (total : Int) (digits : List Char) : List Char → Checked (Option Int)
  | [] => .ok (if digits.isEmpty then some total else none)
  | c :: rest =>
    if Double.isDigit c then components? total (digits ++ [c]) rest
    else
      match unitSeconds? c with
      | none => .ok none
      | some unit =>
        let n := Double.ofDigits digits
        if digits.isEmpty ∨ Int32.maxValue.toInt < n then .ok none
        else do
          let seconds ← Checked.int32 (n * unit)
          let total ← Checked.int32 (total + seconds)
          components? total [] rest

/-- The seconds of a duration, below zero for one with a sign. -/
def signed (negative : Bool) (seconds : Int) : Checked Int :=
  if negative then Checked.int32 (-seconds) else .ok seconds

/-- Reads a duration of hours, minutes and seconds, such as `-PT5H30M`, in seconds. -/
def readDuration? (text : List Char) : Checked (Option Int) :=
  let (negative, rest) :=
    match text with
    | '-' :: rest => (true, rest)
    | _ => (false, text)
  match rest with
  | 'P' :: 'T' :: rest => do
    let seconds? ← components? 0 [] rest
    seconds?.mapM (signed negative)
  | _ => .ok none

/-- Moves a time into the timezone that a duration names; an instant stays the same instant. The
empty text drops the offset and keeps the wall clock time. -/
def adjust (d : DateTime) (timezone : String) : Checked (Except EvalError DateTime) :=
  if timezone.isEmpty then .ok (.ok ⟨d.wall, none⟩)
  else
    (readDuration? timezone.toList).map fun
      | none => .error (.argument (.invalidTimezone timezone))
      | some offset =>
        if -86400 < offset ∧ offset < 86400 then
          .ok ⟨(d.utc?.map (·.addSeconds offset)).getD d.wall, some offset⟩
        else .error (.argument (.invalidTimezone timezone))

end DateTime

end PagedSparql
