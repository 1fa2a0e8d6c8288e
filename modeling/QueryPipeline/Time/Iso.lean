import QueryPipeline.Text.DecimalDigit
import QueryPipeline.Time.Timestamp

/-!
# Reading points in time

A bare day `YYYY-MM-DD` may be written in the digits of any script. Everything else is read in
ASCII digits: a calendar date or a week date, in extended or basic form, then optionally any one
separator character and a time of day with hours, minutes and seconds, a fraction and a distance
from universal time.
-/

namespace QueryPipeline.Time

open Text

/-- What follows four, two and two digits of any script joined by hyphens at the start. -/
def afterDay? : List Char → Option (List Char)
  | a :: b :: c :: d :: '-' :: e :: f :: '-' :: g :: h :: rest =>
    if [a, b, c, d, e, f, g, h].all isDecimalDigit then some rest else none
  | _ => none

/-- Whether nothing follows, or a final line break only. -/
def isFinal (text : List Char) : Bool := text == [] || text == ['\n']

/-- Whether a text has the shape of a day; a final line break does not count. -/
def isDayShaped (text : List Char) : Bool := (afterDay? text).any isFinal

/-- Whether a text has the shape of a day or of two days joined by a tilde. -/
def isDaysShaped (text : List Char) : Bool :=
  match afterDay? text with
  | some ('~' :: rest) => isDayShaped rest
  | some rest => isFinal rest
  | none => false

/-- The date that the given parts make, if it is a day of the calendar. -/
def date? (year month day : Nat) : Option Date :=
  if (Date.mk year month day).isValid then some ⟨year, month, day⟩ else none

/-- The value of the last digit of a day of the month; after a one or a two any script will do. -/
def lastDayDigit? (tens c : Char) : Option Nat :=
  if tens = '1' ∨ tens = '2' then digitValue? c else asciiDigitValue? c

/-- The date that a bare day denotes. -/
def readDay? : List Char → Option Date
  | [a, b, c, d, '-', e, f, '-', g, h] => do
    let year := ofDigits [← digitValue? a, ← digitValue? b, ← digitValue? c, ← digitValue? d]
    let month := ofDigits [← asciiDigitValue? e, ← asciiDigitValue? f]
    let day := ofDigits [← asciiDigitValue? g, ← lastDayDigit? g h]
    date? year month day
  | _ => none

/-- The number in the given count of ASCII digits at the start, and what follows. -/
def takeNumber? : Nat → List Char → Option (Nat × List Char)
  | 0, text => some (0, text)
  | _ + 1, [] => none
  | count + 1, c :: rest => do
    let digit ← asciiDigitValue? c
    let (number, rest) ← takeNumber? count rest
    some (digit * Nat.pow 10 count + number, rest)

/-- Whether a character is an ASCII digit. -/
def isAsciiDigit (c : Char) : Bool := (asciiDigitValue? c).isSome

/-- How many characters the date at the start takes, told by the characters that a date of its
form has. A hyphen after an extended week starts a weekday unless two digits follow it. -/
def dateLength? (text : List Char) : Option Nat :=
  let length := text.length
  if length < 7 then none
  else if length = 7 then some 7
  else if text[4]? = some '-' then
    if text[5]? = some 'W' then
      if text[8]? = some '-' then
        if length = 9 then none
        else if (text[10]?).any isAsciiDigit then some 8
        else some 10
      else some 8
    else some 10
  else if text[4]? = some 'W' then
    let digits := ((text.drop 7).takeWhile isAsciiDigit).length
    if digits < 2 then some (7 + digits) else if digits % 2 = 1 then some 7 else some 8
  else some 8

/-- The number of the day that a week date denotes after its year. -/
def readWeek? (year : Nat) (extended : Bool) (text : List Char) : Option Nat := do
  let (week, rest) ← takeNumber? 2 text
  match extended, rest with
  | _, [] => weekDay? year week 1
  | true, ['-', c] => weekDay? year week (← asciiDigitValue? c)
  | false, [c] => weekDay? year week (← asciiDigitValue? c)
  | _, _ => none

/-- The number of the day that a date denotes after its year. -/
def readMonth? (year : Nat) (extended : Bool) (text : List Char) : Option Nat := do
  let (month, rest) ← takeNumber? 2 text
  let rest ←
    if !extended then some rest
    else if rest.head? = some '-' then some rest.tail
    else none
  let (day, rest) ← takeNumber? 2 rest
  if rest.isEmpty then (date? year month day).map Date.dayNumber else none

/-- The number of the day that a date in ASCII digits denotes. -/
def readDate? (text : List Char) : Option Nat := do
  let (year, rest) ← takeNumber? 4 text
  match rest with
  | '-' :: 'W' :: rest => readWeek? year true rest
  | 'W' :: rest => readWeek? year false rest
  | '-' :: rest => readMonth? year true rest
  | rest => readMonth? year false rest

/-- How a run of two-digit fields ends. -/
inductive FieldsEnd
  /-- With the text, telling whether anything is left over. -/
  | finished (leftOver : Bool)
  /-- With the digits of a fraction. -/
  | fraction (text : List Char)

/-- Whether what follows is more than the end, which a null character marks too. -/
def isLeftOver : Option Char → Bool
  | none => false
  | some c => c ≠ '\x00'

/-- At most the given number of two-digit fields, each but the last followed by a colon in the
separated form, and how they end. The form is that of the first field; `next` is what follows. A
single octet may be left over, but no longer character. -/
def readFields? (next : Option Char) :
    Nat → Option Bool → List Char → Option (List Nat × FieldsEnd)
  | 0, _, text => some ([], .fraction text)
  | count + 1, form, text => do
    let (field, rest) ← takeNumber? 2 text
    match rest with
    | [] => some ([field], .finished (isLeftOver next))
    | [c] => if c.utf8Size = 1 then some ([field], .finished (isLeftOver (some c))) else none
    | c :: more =>
      let separated := form.getD (c == ':')
      if separated && c == ':' then
        let (fields, ending) ← readFields? next count (some separated) more
        some (field :: fields, ending)
      else if c == '.' || c == ',' then some ([field], .fraction more)
      else if separated then none
      else
        let (fields, ending) ← readFields? next count (some separated) rest
        some (field :: fields, ending)

/-- A time of day or a distance in hours, minutes, seconds and microseconds. -/
structure Span where
  /-- The hours. -/
  hours : Nat
  /-- The minutes. -/
  minutes : Nat
  /-- The seconds. -/
  seconds : Nat
  /-- The microseconds. -/
  micros : Nat

/-- The whole seconds of a span. -/
def Span.wholeSeconds (span : Span) : Nat := 3600 * span.hours + 60 * span.minutes + span.seconds

/-- The microseconds of a span. -/
def Span.length (span : Span) : Int := 1000000 * span.wholeSeconds + span.micros

/-- The span at the start of a text, and whether anything is left over. Six digits of a fraction
count, any more are passed over. -/
def readSpan? (next : Option Char) (text : List Char) : Option (Span × Bool) := do
  let (fields, ending) ← readFields? next 3 none text
  let span (micros : Nat) : Span :=
    ⟨fields[0]?.getD 0, fields[1]?.getD 0, fields[2]?.getD 0, micros⟩
  match ending with
  | .finished leftOver => some (span 0, leftOver)
  | .fraction digits =>
    let count := min 6 digits.length
    let (number, rest) ← takeNumber? count digits
    let rest := rest.dropWhile isAsciiDigit
    some (span (number * Nat.pow 10 (6 - count)), isLeftOver (rest.head?.or next))

/-- The distance from universal time of a signed span, less than a day; a distance of no whole
second is none at all. -/
def offset? (ahead : Bool) (span : Span) : Option Int :=
  if span.wholeSeconds = 0 then some 0
  else if span.length < dayLength then some (if ahead then span.length else -span.length)
  else none

/-- Whether a character starts the distance from universal time. -/
def isZoneStart (c : Char) : Bool := c == '+' || c == '-' || c == 'Z'

/-- The time of day that a text denotes, and the distance from universal time if one is given. What
is left over before a distance is passed over, elsewhere it is refused. -/
def readTime? (text : List Char) : Option (Span × Option Int) := do
  let clock := text.takeWhile (!isZoneStart ·)
  match text.dropWhile (!isZoneStart ·) with
  | [] =>
    let (time, leftOver) ← readSpan? none clock
    if leftOver then none else some (time, none)
  | mark :: zone =>
    let (time, _) ← readSpan? (some mark) clock
    if mark = 'Z' then
      if isLeftOver zone.head? then none else some (time, some 0)
    else
      let (distance, leftOver) ← readSpan? none zone
      if leftOver then none else
        let offset ← offset? (mark = '+') distance
        some (time, some offset)

/-- Whether a span is a time of day. -/
def Span.isTimeOfDay (span : Span) : Bool :=
  span.hours < 24 && span.minutes < 60 && span.seconds < 60

/-- The clock reading that a date and time denote. -/
def readDateTime? (text : List Char) : Option Timestamp := do
  let length ← dateLength? text
  let day ← readDate? (text.take length)
  if text.length ≤ length then some ⟨day * dayLength, none⟩
  else
    let (time, offset) ← readTime? (text.drop (length + 1))
    if time.isTimeOfDay then some ⟨day * dayLength + time.length, offset⟩ else none

/-- The clock reading that a text denotes. -/
def Timestamp.read? (text : List Char) : Option Timestamp :=
  if isDayShaped text then
    (readDay? text).map fun date => ⟨date.dayNumber * dayLength, none⟩
  else readDateTime? text

/-- Why a text denotes no point in universal time. -/
inductive DateFault
  /-- It denotes no point in time. -/
  | malformed
  /-- The point leaves the years 1 to 9999 on a clock of universal time. -/
  | outOfRange
  deriving DecidableEq, Repr

/-- The point in universal time that a clock reading denotes. -/
def Timestamp.toUtc (t : Timestamp) : Except DateFault Timestamp :=
  match t.toUtc? with
  | some moved => .ok moved
  | none => .error .outOfRange

/-- The point in universal time that a text denotes. -/
def Timestamp.readUtc (text : List Char) : Except DateFault Timestamp :=
  match Timestamp.read? text with
  | some t => t.toUtc
  | none => .error .malformed

end QueryPipeline.Time
