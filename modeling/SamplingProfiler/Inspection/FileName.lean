import SamplingProfiler.Text.Bytes
import SamplingProfiler.Text.Pieces

/-!
# File names

The name of a file is the last part of its path. Empty parts and parts that stand
for the same directory do not count, and a part that stands for the directory above
is no name.
-/

namespace SamplingProfiler.Inspection

/-- The byte between the parts of a path. -/
def slash : UInt8 := 0x2f

/-- The byte of a full stop. -/
def stop : UInt8 := 0x2e

/-- The parts of a path that lead somewhere. -/
def pathParts (path : List UInt8) : List (List UInt8) :=
  (Text.pieces slash path).filter fun part => part ≠ [] && part ≠ [stop]

/-- The last part of a path, if it is a name. -/
def fileName? (path : List UInt8) : Option (List UInt8) :=
  match (pathParts path).getLast? with
  | none => none
  | some part => if part = [stop, stop] then none else some part

/-- Whether a path names an interpreter of python or its library, such as
    `python3.11` or `libpython3.11.so.1.0`. The name has to be text. -/
def isPython (path : List UInt8) : Bool :=
  match (fileName? path).bind Text.ofBytes? with
  | none => false
  | some name => "python".isPrefixOf name || "libpython".isPrefixOf name

end SamplingProfiler.Inspection
