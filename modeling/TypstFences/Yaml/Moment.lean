import TypstFences.Number.Numeral
import TypstFences.Yaml.Cursor

/-!
# Dates

A date has a year, a month and a day; a time of day and a zone may follow.
-/

set_option autoImplicit false

namespace TypstFences.Yaml

/-- A date as it is written: whether its numbers have as many digits as they can, whether there is such a
day, and, where a time of day follows, whether there is such a time. -/
structure Moment where
  isPadded : Bool
  isDay : Bool
  time : Option Bool
  deriving DecidableEq, Inhabited

namespace Moment

/-- The number of days in a month. -/
def daysIn (year month : Nat) : Nat :=
  if month = 2 then
    if year % 4 = 0 ∧ (year % 100 ≠ 0 ∨ year % 400 = 0) then 29 else 28
  else if month ∈ [4, 6, 9, 11] then 30
  else 31

/-- Whether there is a day with these numbers. -/
def existsDay (year month day : Nat) : Bool :=
  1 ≤ year && 1 ≤ month && month ≤ 12 && 1 ≤ day && day ≤ daysIn year month

/-- The number at the start of a text that has at least so many digits, and the text after at most so
many of them. -/
def takeNumber? (least most : Nat) (text : Text) : Option (Nat × Text) :=
  let digits := (text.take most).takeWhile Char.isDigit
  if digits.length < least then none else some (Numeral.value digits, text.drop digits.length)

/-- The text after a character. -/
def after? (expected : Char) : Text → Option Text
  | [] => none
  | c :: rest => if c = expected then some rest else none

/-- Whether there is the zone that a text is; it is less than a day away. -/
def readZone? (text : Text) : Option Bool :=
  match text.dropWhile isGap with
  | ['Z'] => some true
  | sign :: rest =>
    if sign = '+' ∨ sign = '-' then do
      let (hours, rest) ← takeNumber? 1 2 rest
      match rest with
      | [] => some (decide (hours < 24))
      | rest =>
        let (minutes, rest) ← takeNumber? 2 2 (← after? ':' rest)
        if rest.isEmpty then some (decide (hours * 60 + minutes < 24 * 60)) else none
    else none
  | [] => if text.isEmpty then some true else none

/-- Whether there is the time of day that a text is, after a letter or a gap. -/
def readTime? (text : Text) : Option Bool := do
  let rest ←
    match text with
    | 'T' :: rest => some rest
    | 't' :: rest => some rest
    | _ => if text.head?.any isGap then some (text.dropWhile isGap) else none
  let (hour, rest) ← takeNumber? 1 2 rest
  let (minute, rest) ← takeNumber? 2 2 (← after? ':' rest)
  let (second, rest) ← takeNumber? 2 2 (← after? ':' rest)
  let rest :=
    match rest with
    | '.' :: rest => rest.dropWhile Char.isDigit
    | rest => rest
  let isZone ← readZone? rest
  some (isZone && hour < 24 && minute < 60 && second < 60)

/-- The date that a text is. -/
def read? (text : Text) : Option Moment := do
  let (year, rest) ← takeNumber? 4 4 text
  let (month, rest) ← takeNumber? 1 2 (← after? '-' rest)
  let (day, rest) ← takeNumber? 1 2 (← after? '-' rest)
  let moment : Moment := ⟨text.length - rest.length == 10, existsDay year month day, none⟩
  if rest.isEmpty then some moment
  else
    let time ← readTime? rest
    some { moment with time := some time }

/-- Whether there is such a date. -/
def isPossible (moment : Moment) : Bool := moment.isDay && moment.time.getD true

/-- Whether a plain text that is so written is a date: its numbers must be padded unless a time follows. -/
def isPlain (moment : Moment) : Bool := moment.isPadded || moment.time.isSome

/-- Whether a plain text is a date. -/
def isMoment (text : Text) : Bool := (read? text).any isPlain

end Moment

end TypstFences.Yaml
