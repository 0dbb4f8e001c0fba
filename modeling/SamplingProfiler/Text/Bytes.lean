/-!
# Text as bytes

Names of files are bytes. They are text where they are well-formed UTF-8.
-/

namespace SamplingProfiler.Text

/-- The text that bytes encode, if they encode any. -/
def ofBytes? (bytes : List UInt8) : Option String :=
  String.fromUTF8? ⟨bytes.toArray⟩

/-- The bytes that encode a text. -/
def toBytes (text : String) : List UInt8 :=
  text.toUTF8.data.toList

end SamplingProfiler.Text
