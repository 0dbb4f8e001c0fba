import SamplingProfiler.Text.Quoted

/-!
# Errors of the loader

What can go wrong between the loader and the kernel, with the wording that is
shown. A call that the kernel refuses keeps the kernel's own wording, unless the
loader has a better one for what it was about.
-/

namespace SamplingProfiler.Loader

/-- Why a single call to the kernel failed. -/
inductive CallError where
  /-- The key is not in the map. -/
  | keyNotFound
  /-- Anything else, in the kernel's wording. -/
  | refused (wording : String)
deriving DecidableEq, Repr

namespace CallError

/-- The wording of a failed call. -/
def message : CallError → String
  | .keyNotFound => "key not found"
  | .refused wording => wording

end CallError

/-- Why the loader could not do what it was asked for. -/
inductive LoadError where
  | memoryLimit
  | unloadable (path : String)
  | noMap (name : String)
  | wrongMapKind
  | noProgram (name : String)
  | wrongProgramKind
  | noCpus
  | call (error : CallError)
deriving DecidableEq, Repr

namespace LoadError

/-- The wording of an error. -/
def message : LoadError → String
  | .memoryLimit => "Failed to increase rlimit"
  | .unloadable path => "unable to load " ++ Text.quoted path
  | .noMap name => name ++ " map not found"
  | .wrongMapKind => "invalid map type"
  | .noProgram name => name ++ " program not found"
  | .wrongProgramKind => "unexpected program type"
  | .noCpus => "unable to list cpus"
  | .call error => error.message

end LoadError
end SamplingProfiler.Loader
