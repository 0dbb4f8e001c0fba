/-!
# Policies

A policy says how a process is profiled: which unwinder takes its samples, and
which sides of the stack are wanted. It is stored as four bytes, and a table may
hold bytes that name no unwinder, so the stored form keeps the bytes and the
reading of them is partial.
-/

namespace SamplingProfiler

/-- Who takes the samples of a process. -/
inductive PolicyKind where
  /-- Nobody yet: the process was seen but not looked at. -/
  | unknown
  | framePointers
  | python
  /-- Nobody: the process could not be looked at. -/
  | error
deriving DecidableEq, Repr

namespace PolicyKind

/-- The byte under which a kind is stored. -/
def code : PolicyKind → UInt8
  | .unknown => 1
  | .framePointers => 2
  | .python => 3
  | .error => 4

/-- Every kind, by ascending code. -/
def all : List PolicyKind :=
  [.unknown, .framePointers, .python, .error]

/-- The kind that a byte stands for. -/
def ofCode? (byte : UInt8) : Option PolicyKind :=
  all.find? fun kind => kind.code == byte

/-- The written name of a kind. -/
def name : PolicyKind → String
  | .unknown => "Unknown"
  | .framePointers => "FramePointers"
  | .python => "Python"
  | .error => "Error"

/-- Reading a code gives its kind back. -/
@[simp] theorem ofCode?_code (kind : PolicyKind) : ofCode? kind.code = some kind := by
  cases kind <;> rfl

end PolicyKind

/-- The stored disposition of a process. -/
structure Policy where
  kindByte : UInt8
  userByte : UInt8
  kernelByte : UInt8
  padding : UInt8
deriving DecidableEq, Repr

namespace Policy

/-- The number of bytes of a stored policy. -/
def byteSize : Nat := 4

/-- A yes is stored as one, a no as zero. -/
def flagByte (flag : Bool) : UInt8 :=
  if flag then 1 else 0

/-- The policy with a kind and the sides of the stack to collect. -/
def ofKind (kind : PolicyKind) (user kernel : Bool) : Policy :=
  ⟨kind.code, flagByte user, flagByte kernel, 0⟩

/-- The policy of a process that was only seen. -/
def undecided : Policy :=
  ofKind .unknown false false

/-- The policy of a process that could not be looked at. -/
def rejected : Policy :=
  ofKind .error false false

/-- The kind of a policy, unless its byte stands for none. -/
def kind? (policy : Policy) : Option PolicyKind :=
  PolicyKind.ofCode? policy.kindByte

/-- Any byte but zero asks for the side of user space. -/
def collectsUser (policy : Policy) : Bool :=
  policy.userByte != 0

/-- Any byte but zero asks for the kernel's side. -/
def collectsKernel (policy : Policy) : Bool :=
  policy.kernelByte != 0

@[simp] theorem kind?_ofKind (kind : PolicyKind) (user kernel : Bool) :
    (ofKind kind user kernel).kind? = some kind :=
  PolicyKind.ofCode?_code kind

end Policy
end SamplingProfiler
