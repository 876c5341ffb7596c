/-!
# Problems with dates

Why a text or a number denotes no date.
-/

namespace WorkflowGraph

/-- What keeps a value from being a date. -/
inductive DateProblem where
  /-- The text has fewer characters than a date. -/
  | tooShort
  /-- The year is not written in digits. -/
  | yearDigit
  /-- A hyphen is missing. -/
  | separator
  /-- The month is not written in digits. -/
  | monthDigit
  /-- The day is not written in digits. -/
  | dayDigit
  /-- There is no such month. -/
  | monthRange
  /-- The month has no such day. -/
  | dayRange
  /-- The date is in the year before year 1. -/
  | yearZero
  /-- Something else follows the date. -/
  | extraCharacters
  /-- A number denotes a moment before that year. -/
  | tooEarly
  /-- A number denotes a moment after year 9999. -/
  | tooLate
  /-- NaN denotes no moment. -/
  | notANumber
  deriving DecidableEq

/-- The message for a problem. -/
def DateProblem.message : DateProblem → String
  | tooShort => "input is too short"
  | yearDigit => "invalid character in year"
  | separator => "invalid date separator, expected \x60-\x60"
  | monthDigit => "invalid character in month"
  | dayDigit => "invalid character in day"
  | monthRange => "month value is outside expected range of 1-12"
  | dayRange => "day value is outside expected range"
  | yearZero => "year 0 is out of range"
  | extraCharacters => "unexpected extra characters at the end of the input"
  | tooEarly => "dates before 0000 are not supported as unix timestamps"
  | tooLate => "dates after 9999 are not supported as unix timestamps"
  | notANumber => "NaN values not permitted"

end WorkflowGraph
