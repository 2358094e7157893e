import FlowCheck.Files.Tree

/-!
# The system's own files

The few files of a system that commands count on: programs in the two usual directories, the devices
that give nothing and zeros, and a directory for temporary files.
-/

namespace FlowCheck

/-- A tree that holds the system's own files, with these programs. -/
def systemRoot (programs : List String) : Node :=
  let bin := Node.directory (programs.map fun name => (name, .program name))
  .directory [
    ("bin", bin),
    ("usr", .directory [("bin", bin), ("local", .directory [("bin", .directory [])])]),
    ("dev", .directory [("null", .device none), ("zero", .device (some 0)),
      ("stdin", .device none), ("stdout", .device none), ("stderr", .device none)]),
    ("etc", .directory []),
    ("home", .directory []),
    ("tmp", .directory [])]

end FlowCheck
