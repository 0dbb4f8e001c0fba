import SamplingProfiler.Text.Pieces

/-!
# Lines

Text as lines. A line ends at the end of a line, or at a return right before it; a
return that stands alone ends nothing.
-/

namespace SamplingProfiler.Text

/-- A line without the return at its end. -/
def withoutReturn (line : List Char) : List Char :=
  if line.getLast? = some '\r' then line.dropLast else line

/-- The lines of a text. The last one need not be ended. -/
def lines (text : List Char) : List (List Char) :=
  let ended := pieces '\n' text
  (if ended.getLast? = some [] then ended.dropLast else ended).map withoutReturn

/-- The first line of a text. -/
def firstLine (text : String) : String :=
  String.ofList ((lines text.toList).head?.getD [])

end SamplingProfiler.Text
