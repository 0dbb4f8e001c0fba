import SamplingProfiler.Text.Blank
import SamplingProfiler.Text.Numeral
import SamplingProfiler.Text.Pieces

/-!
# Names of mapped memory

What stands at the end of a line of a process's memory map. It may be a path, a
name in brackets that the kernel gives, a segment of shared memory, or nothing. The
stack of a thread carries the thread's number, and a shared segment its key; a line
where these are no numbers cannot be read.
-/

namespace SamplingProfiler.Inspection

/-- Whether text is a decimal number of 32 bits. -/
def isThreadNumber (text : List Char) : Bool :=
  (Text.unsigned? 10 text).any (· < UInt32.size)

/-- Whether text is a number in base sixteen. -/
def isSegmentKey (text : List Char) : Bool :=
  (Text.unsigned? 16 text).isSome

/-- What a line of a memory map says is mapped. -/
inductive MappedName where
  /-- A file, by its path. -/
  | file (path : String)
  /-- Memory without a file. -/
  | memory
  /-- A name that cannot be read. -/
  | unreadable
deriving DecidableEq, Repr

namespace MappedName

/-- The text between an opening bracket and the last character. -/
def bracketed (text : List Char) : List Char :=
  (text.drop 1).dropLast

/-- Whether the stack of a thread has the thread's number after a colon. -/
def isThreadStack (text : List Char) : Bool :=
  match Text.pieces ':' (bracketed text) with
  | _ :: number :: _ => isThreadNumber number
  | _ => false

/-- Read the name at the end of a line, with blanks around it. -/
def ofText (text : String) : MappedName :=
  let name := Text.trim text.toList
  if name = [] then .memory
  else if "[stack:".toList.isPrefixOf name then
    if isThreadStack name then .memory else .unreadable
  else if name.head? = some '[' && name.getLast? = some ']' then .memory
  else if "/SYSV".toList.isPrefixOf name then
    if isSegmentKey ((name.drop 5).take 8) && 13 ≤ name.length then .memory else .unreadable
  else .file (String.ofList name)

end MappedName
end SamplingProfiler.Inspection
