import Lcm.Text.JsNumber
import Lcm.Text.JsString

namespace Lcm.Text

/-- The days from 1970-01-01 to a date of the Gregorian calendar. -/
def daysFromDate (year : Int) (month day : Int) : Int :=
  let shifted := if month ≤ 2 then year - 1 else year
  let era := shifted / 400
  let yearOfEra := shifted - era * 400
  let dayOfYear := (153 * ((month + 9) % 12) + 2) / 5 + day - 1
  let dayOfEra := yearOfEra * 365 + yearOfEra / 4 - yearOfEra / 100 + dayOfYear
  era * 146097 + dayOfEra - 719468

/-- The year, month and day of a number of days since 1970-01-01. -/
def dateFromDays (days : Int) : Int × Int × Int :=
  let shifted := days + 719468
  let era := shifted / 146097
  let dayOfEra := shifted - era * 146097
  let yearOfEra := (dayOfEra - dayOfEra / 1460 + dayOfEra / 36524 - dayOfEra / 146096) / 365
  let dayOfYear := dayOfEra - (365 * yearOfEra + yearOfEra / 4 - yearOfEra / 100)
  let shiftedMonth := (5 * dayOfYear + 2) / 153
  let day := dayOfYear - (153 * shiftedMonth + 2) / 5 + 1
  let month := if shiftedMonth < 10 then shiftedMonth + 3 else shiftedMonth - 9
  let year := yearOfEra + era * 400 + (if month ≤ 2 then 1 else 0)
  (year, month, day)

/-- A number with zeros before it up to a width. -/
def padded (width : Nat) (value : Int) : JsString :=
  let text := decimal value.toNat
  List.replicate (width - text.length) 48 ++ text

/-- The text of a time in milliseconds since 1970. -/
def toISOString (time : Int) : JsString :=
  let (year, month, day) := dateFromDays (time / 86400000)
  let rest := time % 86400000
  let yearText := if 0 ≤ year ∧ year ≤ 9999 then padded 4 year
    else if year < 0 then js "-" ++ padded 6 (-year) else js "+" ++ padded 6 year
  yearText ++ js "-" ++ padded 2 month ++ js "-" ++ padded 2 day ++ js "T" ++
    padded 2 (rest / 3600000) ++ js ":" ++ padded 2 (rest / 60000 % 60) ++ js ":" ++
      padded 2 (rest / 1000 % 60) ++ js "." ++ padded 3 (rest % 1000) ++ js "Z"

/-- The value of a field of digits. -/
def readField (text : JsString) : Option Int :=
  if text ≠ [] ∧ text.all Json.isDigit then some (readDigits text) else none

/-- The year of a text and the rest of the text; a sign stands before six digits. -/
def readYear (text : JsString) : Option (Int × JsString) :=
  match text with
  | 43 :: rest => (readField (rest.take 6)).map fun year => (year, rest.drop 6)
  | 45 :: rest => (readField (rest.take 6)).map fun year => (-year, rest.drop 6)
  | _ => (readField (text.take 4)).map fun year => (year, text.drop 4)

/-- The largest time of a date. -/
def maxTime : Int := 8640000000000000

/-- The time of a text in the date format of the language with all fields, in UTC. -/
def dateParse (text : JsString) : Option Int := do
  let (year, rest) ← readYear text
  let month ← readField ((rest.drop 1).take 2)
  let day ← readField ((rest.drop 4).take 2)
  let hour ← readField ((rest.drop 7).take 2)
  let minute ← readField ((rest.drop 10).take 2)
  let second ← readField ((rest.drop 13).take 2)
  let fraction ← readField ((rest.drop 16).take 3)
  let time := daysFromDate year month day * 86400000 + hour * 3600000 + minute * 60000 +
    second * 1000 + fraction
  if -maxTime ≤ time ∧ time ≤ maxTime then some time else none

/-- A text is a timestamp when it is the text of a time. -/
def isIsoTimestamp (text : JsString) : Bool :=
  (dateParse text).any fun time => toISOString time == text

/-- A timestamp is a text of a time. -/
abbrev IsoTimestamp := { text : JsString // isIsoTimestamp text = true }

def IsoTimestamp.time (timestamp : IsoTimestamp) : Int := (dateParse timestamp.1).getD 0

example : ["2026-08-12T12:00:01.000Z", "2024-02-29T23:59:59.999Z", "-000001-01-01T00:00:00.000Z",
    "2026-02-29T12:00:00.000Z", "2026-08-12T24:00:00.000Z", "2026-08-12T12:00:01Z"].map
      (fun text => isIsoTimestamp (js text)) = [true, true, true, false, false, false] := by
  decide

end Lcm.Text
