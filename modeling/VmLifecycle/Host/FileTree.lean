import VmLifecycle.PathText
import VmLifecycle.SystemError
import VmLifecycle.Text.Utf8

namespace VmLifecycle

/-!
Files by name, as far as starting a program looks at them. A path is walked name by name from the
root or from the working directory; a program named without a slash is looked for in one directory.
-/

inductive FileTree where
  | file (isProgram : Bool)
  | directory (entries : List (String × FileTree))

namespace FileTree

def maxNameLength : Nat := 255

def maxPathLength : Nat := 4095

def isTooLong (name : List Char) : Bool :=
  decide (maxNameLength < (Utf8.encodeChars name).length)

/-- Names that stay where they are; repeated slashes and a slash at the end leave empty names. -/
def staysHere (name : List Char) : Bool :=
  name == [] || name == ['.']

/-- Walks along names; the directories above are kept innermost first. -/
def walk : List (List Char) → List FileTree → FileTree → Except SystemError FileTree
  | [], _, here => .ok here
  | _ :: _, _, file _ => .error .notDirectory
  | name :: rest, above, directory entries =>
      if staysHere name then walk rest above (directory entries)
      else if name = ['.', '.'] then
        match above with
        | [] => walk rest [] (directory entries)
        | parent :: outer => walk rest outer parent
      else if isTooLong name then .error .nameTooLong
      else
        match entries.find? fun entry => entry.1.toList == name with
        | none => .error .noEntry
        | some (_, child) => walk rest (directory entries :: above) child

def allowStart : FileTree → Except SystemError Unit
  | file true => .ok ()
  | _ => .error .accessDenied

end FileTree

/-- The files a program sees: all of them, the names that lead from the root to its working
directory, and the directory where programs named without a slash are looked for. -/
structure Files where
  root : FileTree
  working : List String
  programs : FileTree

def Files.find (files : Files) (program : String) : Except SystemError FileTree :=
  let names := PathText.segments program.toList
  if !program.toList.contains '/' then FileTree.walk names [] files.programs
  else if (PathText.mk program).isAbsolute then FileTree.walk names [] files.root
  else FileTree.walk (files.working.map (·.toList) ++ names) [] files.root

def Files.start (files : Files) (program : String) : Except SystemError Unit :=
  if program.isEmpty then .error .noEntry
  else if FileTree.maxPathLength < program.utf8ByteSize then .error .nameTooLong
  else
    match files.find program with
    | .error error => .error error
    | .ok found => found.allowStart

end VmLifecycle
