/-!
# Pieces between separators

A list is cut at every occurrence of a separator. Neighbouring separators leave an
empty piece between them, so joining the pieces again gives the list back.
-/

namespace SamplingProfiler.Text

variable {Element : Type} [DecidableEq Element]

/-- The pieces of a list between the occurrences of a separator. -/
def pieces (separator : Element) : List Element → List (List Element)
  | [] => [[]]
  | first :: rest =>
    if first = separator then [] :: pieces separator rest
    else match pieces separator rest with
      | [] => [[first]]
      | piece :: others => (first :: piece) :: others

end SamplingProfiler.Text
