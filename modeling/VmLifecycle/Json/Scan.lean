import VmLifecycle.Json.Fault

namespace VmLifecycle.Json

/-!
Scanners take a form off the front of a text. Where one stops is told by what it leaves unread, so
that a scanner means the same wherever in a text it starts.
-/

/-- A stop either knows how many bytes it left unread, or waits for the enclosing form to end
behind the given rest. -/
inductive Place where
  | left (bytes : Nat)
  | behind (rest : List Char)
  deriving Repr

structure Stop where
  fault : Fault
  place : Place
  deriving Repr

abbrev Scan (α : Type) := List Char → Except Stop (α × List Char)

def width (cs : List Char) : Nat :=
  cs.foldl (fun bytes c => bytes + c.utf8Size) 0

def stopBefore (fault : Fault) (cs : List Char) : Except Stop α :=
  .error ⟨fault, .left (width cs)⟩

def stopAfter (fault : Fault) (cs : List Char) : Except Stop α :=
  .error ⟨fault, .left (width cs - 1)⟩

def stopBehind (fault : Fault) (rest : List Char) : Except Stop α :=
  .error ⟨fault, .behind rest⟩

def Stop.settle (close : List Char → List Char) (stop : Stop) : Stop :=
  match stop.place with
  | .left _ => stop
  | .behind rest => { stop with place := .left (width (close rest)) }

def isSpace (c : Char) : Bool :=
  c = ' ' || c = '\n' || c = '\t' || c = '\r'

def skipSpace (cs : List Char) : List Char :=
  cs.dropWhile isSpace

def word : List Char → List Char → Except Stop (List Char)
  | [], cs => .ok cs
  | _ :: _, [] => stopBefore .endInValue []
  | expected :: more, c :: cs =>
      if c = expected then word more cs else stopAfter .expectedWord (c :: cs)

def scanAll (scan : Scan α) (cs : List Char) : Except Stop α :=
  match scan cs with
  | .error stop => .error stop
  | .ok (value, rest) =>
      match skipSpace rest with
      | [] => .ok value
      | rest => stopAfter .trailingCharacters rest

def Stop.locate (text : List Char) (stop : Stop) : Error :=
  match stop.place with
  | .left bytes => ⟨stop.fault, some (Position.ofOffset text (width text - bytes))⟩
  | .behind _ => ⟨stop.fault, none⟩

def read (scan : Scan α) (text : String) : Except Error α :=
  match scanAll scan text.toList with
  | .ok value => .ok value
  | .error stop => .error (stop.locate text.toList)

end VmLifecycle.Json
