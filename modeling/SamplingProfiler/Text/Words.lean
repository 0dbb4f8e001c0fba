import SamplingProfiler.Text.Pieces

/-!
# Words

Text as words, with any number of gaps around each. Only the blanks of the basic set
of characters are gaps, and the vertical tab is none of them.
-/

namespace SamplingProfiler.Text

/-- Whether a character stands between words. -/
def isGap (character : Char) : Bool :=
  character.isWhitespace || character = '\x0c'

/-- The words of a text, in their order. -/
def words (text : List Char) : List (List Char) :=
  (pieces ' ' (text.map fun character => if isGap character then ' ' else character)).filter
    (· ≠ [])

end SamplingProfiler.Text
