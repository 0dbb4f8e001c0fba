/-!
# Object files

What the loader finds in an object file: maps of some kind and capacity, and
programs of some kind, each under a name. Names are listed in their order as text.

A loaded object hands a map out once. After that the map is somebody else's, and
the object does not have it any more.
-/

namespace SamplingProfiler.Loader

/-- What a map is for. -/
inductive MapKind where
  | hash
  | stackTrace
  | progArray
  | perfEventArray
  /-- A kind that the loader has no use for. -/
  | other
deriving DecidableEq, Repr

/-- Where a program can be attached. -/
inductive ProgramKind where
  | perfEvent
  | probe
  /-- A kind that the loader has no use for. -/
  | other
deriving DecidableEq, Repr

/-- A map as the object file declares it. -/
structure MapShape where
  name : String
  kind : MapKind
  capacity : UInt32
deriving DecidableEq, Repr

/-- A program as the object file declares it. -/
structure ProgramShape where
  name : String
  kind : ProgramKind
deriving DecidableEq, Repr

/-- The maps that an object still has, and its programs. -/
structure ObjectFile where
  maps : List MapShape
  programs : List ProgramShape
deriving DecidableEq, Repr

namespace ObjectFile

/-- The map with a name, if the object still has it. -/
def map? (object : ObjectFile) (name : String) : Option MapShape :=
  object.maps.find? fun shape => shape.name == name

/-- The program with a name. -/
def program? (object : ObjectFile) (name : String) : Option ProgramShape :=
  object.programs.find? fun shape => shape.name == name

/-- The capacity that is declared for a map, zero for one that is not there. -/
def capacity (object : ObjectFile) (name : String) : UInt32 :=
  ((object.map? name).map MapShape.capacity).getD 0

/-- The object without a map. -/
def without (object : ObjectFile) (name : String) : ObjectFile :=
  { object with maps := object.maps.filter fun shape => shape.name != name }

end ObjectFile
end SamplingProfiler.Loader
