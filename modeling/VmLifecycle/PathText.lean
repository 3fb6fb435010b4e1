namespace VmLifecycle

/-- A path as it was written. Two paths are the same when their parts are. -/
structure PathText where
  text : String
  deriving DecidableEq, Repr

namespace PathText

def segments : List Char → List (List Char)
  | [] => [[]]
  | c :: rest =>
      match segments rest with
      | [] => [[c]]
      | segment :: more => if c = '/' then [] :: segment :: more else (c :: segment) :: more

def isAbsolute (path : PathText) : Bool :=
  path.text.toList.head? = some '/'

/-- The names along the path; repeated slashes and dots between them do not count, and a dot
counts only where a relative path begins. -/
def names (path : PathText) : List (List Char) :=
  let inner (segments : List (List Char)) := segments.filter fun s => s != [] && s != ['.']
  match segments path.text.toList with
  | ['.'] :: rest => ['.'] :: inner rest
  | segments => inner segments

def sameAs (a b : PathText) : Bool :=
  a.isAbsolute == b.isAbsolute && a.names == b.names

end PathText

end VmLifecycle
