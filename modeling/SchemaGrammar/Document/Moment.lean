/-!
# Days and times

Documents may write a day of the calendar, a time of day, or both, and with both the distance of
the clock from the standard time.
-/
namespace SchemaGrammar.Document

structure Day where
  year : Nat
  month : Nat
  day : Nat
  deriving DecidableEq, Repr

structure Clock where
  hour : Nat
  minute : Nat
  second : Nat
  microsecond : Nat
  deriving DecidableEq, Repr

inductive Moment where
  | day (d : Day)
  | clock (c : Clock)
  /-- A time on a day, by a clock that may be known to be so many minutes ahead. -/
  | both (d : Day) (c : Clock) (ahead : Option Int)
  deriving DecidableEq, Repr

/-- How many days a month has; leap years are those that four divides, except for centuries that
four hundred does not divide. -/
def daysOfMonth (year month : Nat) : Nat :=
  if month = 2 then
    if year % 4 = 0 && (year % 100 ≠ 0 || year % 400 = 0) then 29 else 28
  else if [4, 6, 9, 11].contains month then 30
  else 31

def Day.exists (d : Day) : Bool :=
  1 ≤ d.year && d.year ≤ 9999 && 1 ≤ d.month && d.month ≤ 12 && 1 ≤ d.day &&
    d.day ≤ daysOfMonth d.year d.month

def Clock.exists (c : Clock) : Bool := c.hour ≤ 23 && c.minute ≤ 59 && c.second ≤ 59

/-- The microseconds that the digits of a fraction of a second stand for; digits after the sixth do
not count. -/
def microseconds (digits : List Char) : Nat :=
  let six := digits.take 6
  six.foldl (fun n c => 10 * n + (c.toNat - 48)) 0 * Nat.pow 10 (6 - six.length)

def padded (width n : Nat) : String :=
  let digits := toString n
  String.ofList (List.replicate (width - digits.length) '0') ++ digits

def Day.text (d : Day) : String :=
  padded 4 d.year ++ "-" ++ padded 2 d.month ++ "-" ++ padded 2 d.day

def Clock.text (c : Clock) : String :=
  padded 2 c.hour ++ ":" ++ padded 2 c.minute ++ ":" ++ padded 2 c.second ++
    if c.microsecond = 0 then "" else "." ++ padded 6 c.microsecond

def distanceText (minutes : Int) : String :=
  (if minutes < 0 then "-" else "+") ++ padded 2 (minutes.natAbs / 60) ++ ":" ++
    padded 2 (minutes.natAbs % 60)

namespace Moment

def text : Moment → String
  | day d => d.text
  | clock c => c.text
  | both d c ahead => d.text ++ " " ++ c.text ++ (ahead.map distanceText).getD ""

/-- The parts of a clock that a message lists: seconds and microseconds only up to the last that is
not zero. -/
def shownClock (c : Clock) : List Nat :=
  [c.hour, c.minute] ++
    if c.microsecond ≠ 0 then [c.second, c.microsecond] else if c.second ≠ 0 then [c.second] else []

/-- A distance in minutes as a message shows it, in whole days and seconds. -/
def shownDistance (minutes : Int) : String :=
  if minutes = 0 then "datetime.timezone.utc"
  else
    let days := Int.fdiv minutes 1440
    let seconds := 60 * Int.fmod minutes 1440
    let parts := (if days = 0 then [] else [s!"days={days}"]) ++
      if seconds = 0 then [] else [s!"seconds={seconds}"]
    "datetime.timezone(datetime.timedelta(" ++ ", ".intercalate parts ++ "))"

def shown (m : Moment) : String :=
  let call (name : String) (parts : List String) : String :=
    "datetime." ++ name ++ "(" ++ ", ".intercalate parts ++ ")"
  match m with
  | day d => call "date" ([d.year, d.month, d.day].map toString)
  | clock c => call "time" ((shownClock c).map toString)
  | both d c ahead =>
    call "datetime" (([d.year, d.month, d.day] ++ shownClock c).map toString ++
      (ahead.map fun minutes => "tzinfo=" ++ shownDistance minutes).toList)

end Moment

end SchemaGrammar.Document
