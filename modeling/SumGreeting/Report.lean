import SumGreeting.Text.Json

/-!
# Reports

A report has the sum and the greeting.  It is rendered as two lines of text or as one line with a
JSON object.  It is written in many small pieces, one after the other, that make up the rendering.

## Main definitions

* `Format` : the two ways to render a report.
* `Report` : a sum and a greeting.
* `Report.render` : the rendering of a report in a format.
* `Report.pieces` : the pieces in which a report is written in a format.
-/

namespace SumGreeting

/-- The ways to render a report. -/
inductive Format where
  /-- Two lines for a reader. -/
  | text
  /-- One line with a JSON object. -/
  | json
  deriving DecidableEq, Inhabited

/-- The name of a format in the description of the settings. -/
def Format.name : Format → String
  | text => "Text"
  | json => "Json"

/-- What a run reports. -/
structure Report where
  /-- The sum of the operands. -/
  sum : Int32
  /-- The greeting of the name. -/
  greeting : String
  deriving DecidableEq

namespace Report

/-- What stands in front of the sum in text. -/
def sumLabel : String := "Sum: "

/-- The two lines of a report in text. -/
def renderText (report : Report) : String :=
  sumLabel ++ report.sum.toInt.repr ++ "\n" ++ report.greeting ++ "\n"

/-- The line with the JSON object of a report, the sum first. -/
def renderJson (report : Report) : String :=
  "\x7b\"sum\":" ++ report.sum.toInt.repr ++ ",\"greeting\":" ++ Json.quote report.greeting ++
    "\x7d\n"

/-- The rendering of a report. -/
def render (report : Report) : Format → String
  | .text => report.renderText
  | .json => report.renderJson

/-- The pieces in which the two lines of text are written. -/
def textPieces (report : Report) : List String :=
  [sumLabel, report.sum.toInt.repr, "\n", report.greeting, "\n"]

/-- The pieces in which the line with the JSON object is written. -/
def jsonPieces (report : Report) : List String :=
  "\x7b" :: (Json.pieces "sum" ++ [":", report.sum.toInt.repr, ","] ++ Json.pieces "greeting" ++
    [":"] ++ Json.pieces report.greeting ++ ["\x7d", "\n"])

/-- The pieces in which a report is written. -/
def pieces (report : Report) : Format → List String
  | .text => report.textPieces
  | .json => report.jsonPieces

end Report

end SumGreeting
