/-
# Toml.Time -- dates and times

A date, a time of day, or both with a `T` or a blank between them, where a point
in time may end in a zone.  Fractions of a second count to the microsecond.
-/
import LineCensus.Toml.Reader
import LineCensus.Value.Moment

set_option autoImplicit false

namespace LineCensus
namespace Toml

/-- A number in exactly `count` digits, and the text after it. -/
def fixedDigits? (count : Nat) (text : Text) : Option (Nat × Text) :=
  let digits := text.take count
  if digits.length = count ∧ digits.all Char.isDigit then
    some (digits.foldl (fun n c => n * 10 + (c.toNat - 48)) 0, text.drop count)
  else none

/-- The text after a character that must come first. -/
def after? (c : Char) (text : Text) : Option Text :=
  if text.head? = some c then some (text.drop 1) else none

/-- A number in two digits between two bounds. -/
def pair? (low high : Nat) (text : Text) : Option (Nat × Text) := do
  let (n, rest) ← fixedDigits? 2 text
  if low ≤ n ∧ n ≤ high then some (n, rest) else none

/-- The microseconds that a fraction of a second begins with. -/
def micros (digits : Text) : Nat :=
  let kept := digits.take 6
  (kept ++ List.replicate (6 - kept.length) '0').foldl (fun n c => n * 10 + (c.toNat - 48)) 0

/-- A fraction of a second, if one follows. -/
def fraction (text : Text) : Nat × Text :=
  match text with
  | '.' :: rest =>
      let digits := rest.takeWhile Char.isDigit
      if digits.isEmpty then (0, text) else (micros digits, rest.dropWhile Char.isDigit)
  | _ => (0, text)

def clock? (text : Text) : Option (Clock × Text) := do
  let (hour, rest) ← pair? 0 23 text
  let rest ← after? ':' rest
  let (minute, rest) ← pair? 0 59 rest
  let rest ← after? ':' rest
  let (second, rest) ← pair? 0 59 rest
  let (micro, rest) := fraction rest
  return (⟨hour, minute, second, micro⟩, rest)

/-- A date whose month and day are in range; the month may be shorter. -/
def date? (text : Text) : Option (Date × Text) := do
  let (year, rest) ← fixedDigits? 4 text
  let rest ← after? '-' rest
  let (month, rest) ← pair? 1 12 rest
  let rest ← after? '-' rest
  let (day, rest) ← pair? 1 31 rest
  return (⟨year, month, day⟩, rest)

/-- A distance from universal time, in minutes. -/
def offset? (text : Text) : Option (Int × Text) := do
  let c ← text.head?
  if c = '+' ∨ c = '-' then
    let (hours, rest) ← pair? 0 23 (text.drop 1)
    let rest ← after? ':' rest
    let (minutes, rest) ← pair? 0 59 rest
    let distance : Int := hours * 60 + minutes
    return (if c = '-' then -distance else distance, rest)
  else none

/-- The zone at the end of a point in time, if there is one. -/
def zone (text : Text) : Option Int × Text :=
  match text with
  | c :: rest =>
      if c = 'Z' ∨ c = 'z' then (some 0, rest)
      else match offset? text with
        | some (minutes, rest) => (some minutes, rest)
        | none => (none, text)
  | [] => (none, text)

/-- The time of day after a date, if there is one. -/
def dayClock? (text : Text) : Option (Clock × Text) := do
  let c ← text.head?
  if c = 'T' ∨ c = 't' ∨ c = ' ' then clock? (text.drop 1) else none

/-- A moment at the head of a text.  A date that the calendar does not have is
malformed. -/
def moment? (text : Text) : Except Flaw (Option (Moment × Text)) :=
  match date? text with
  | some (date, rest) =>
      if !date.isValid then .error .malformed
      else match dayClock? rest with
        | some (clock, rest) =>
            let (offset, rest) := zone rest
            .ok (some (.instant date clock offset, rest))
        | none => .ok (some (.day date, rest))
  | none =>
      match clock? text with
      | some (clock, rest) => .ok (some (.ofDay clock, rest))
      | none => .ok none

end Toml
end LineCensus
