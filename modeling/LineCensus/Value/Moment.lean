/-
# Value.Moment -- dates, times of day, and points in time

A moment is written in two ways: plainly, as in `1979-05-27 07:32:00+00:00`, and
as a constructor call with its parts, which is how it appears inside a list.
-/

set_option autoImplicit false

namespace LineCensus

structure Date where
  year : Nat
  month : Nat
  day : Nat
  deriving DecidableEq

structure Clock where
  hour : Nat
  minute : Nat
  second : Nat
  micro : Nat
  deriving DecidableEq

/-- A time as far as it is known; a zone is its distance from universal time in
minutes. -/
inductive Moment where
  | day (date : Date)
  | ofDay (time : Clock)
  | instant (date : Date) (time : Clock) (zone : Option Int)
  deriving DecidableEq

/-- A number in at least `width` digits. -/
def padded (width n : Nat) : String :=
  let digits := Nat.toDigits 10 n
  String.ofList (List.replicate (width - digits.length) '0' ++ digits)

namespace Date

def isLeap (year : Nat) : Bool :=
  year % 4 == 0 && (year % 100 != 0 || year % 400 == 0)

def daysIn (year month : Nat) : Nat :=
  if month = 2 then (if isLeap year then 29 else 28)
  else if month = 4 ∨ month = 6 ∨ month = 9 ∨ month = 11 then 30
  else 31

/-- Years have four digits and begin with one. -/
def isValid (d : Date) : Bool :=
  1 ≤ d.year && d.year ≤ 9999 && 1 ≤ d.month && d.month ≤ 12 && 1 ≤ d.day
    && d.day ≤ daysIn d.year d.month

def text (d : Date) : String :=
  padded 4 d.year ++ "-" ++ padded 2 d.month ++ "-" ++ padded 2 d.day

def parts (d : Date) : List String :=
  [toString d.year, toString d.month, toString d.day]

end Date

namespace Clock

def text (c : Clock) : String :=
  padded 2 c.hour ++ ":" ++ padded 2 c.minute ++ ":" ++ padded 2 c.second
    ++ (if c.micro = 0 then "" else "." ++ padded 6 c.micro)

/-- The parts, without seconds and microseconds that are zero. -/
def parts (c : Clock) : List String :=
  [toString c.hour, toString c.minute]
    ++ (if c.micro ≠ 0 then [toString c.second, toString c.micro]
        else if c.second ≠ 0 then [toString c.second] else [])

end Clock

namespace Moment

/-- A zone as it follows a time, `+01:00`. -/
def zoneText (minutes : Int) : String :=
  (if minutes < 0 then "-" else "+") ++ padded 2 (minutes.natAbs / 60) ++ ":"
    ++ padded 2 (minutes.natAbs % 60)

/-- A zone as a constructor call; a distance is counted up from whole days. -/
def zoneCall (minutes : Int) : String :=
  if minutes = 0 then "datetime.timezone.utc"
  else
    let distance :=
      if minutes < 0 then "days=-1, seconds=" ++ toString (86400 + 60 * minutes)
      else "seconds=" ++ toString (60 * minutes)
    "datetime.timezone(datetime.timedelta(" ++ distance ++ "))"

def text : Moment → String
  | .day date => date.text
  | .ofDay time => time.text
  | .instant date time zone =>
      date.text ++ " " ++ time.text ++ ((zone.map zoneText).getD "")

def callText (name : String) (arguments : List String) : String :=
  name ++ "(" ++ ", ".intercalate arguments ++ ")"

def call : Moment → String
  | .day date => callText "datetime.date" date.parts
  | .ofDay time => callText "datetime.time" time.parts
  | .instant date time zone =>
      callText "datetime.datetime"
        (date.parts ++ time.parts ++ ((zone.map fun z => ["tzinfo=" ++ zoneCall z]).getD []))

end Moment
end LineCensus
