import FlowCheck.Files.Tree

/-!
# Projects

A project is the directory that holds the checker's own configuration file or, where there is none,
a repository.
-/

namespace FlowCheck

/-- The file that marks a project. -/
def projectMarker : String := ".flowconfig"

/-- What marks a repository. -/
def repositoryMarker : String := ".git"

/-- The project that a directory belongs to: the nearest directory with the project's file, or else
the nearest one with a repository. -/
def Files.projectOf? (files : Files) (start : String) : Option String :=
  let up := Path.ancestors start
  (up.find? fun directory => files.hasFile (Path.join directory projectMarker)).or
    (up.find? fun directory => files.has (Path.join directory repositoryMarker))

end FlowCheck
