import VmLifecycle.Json.Compound
import VmLifecycle.Json.Number

namespace VmLifecycle.Json

/-!
Skipping a value of any depth. The open brackets are kept on a list, so that each round goes from
the start of one value to the start of the next or to the end of the outermost.
-/

inductive Frame where
  | list
  | object
  deriving DecidableEq, Repr

namespace Frame

def close : Frame → Char
  | list => ']'
  | object => '\x7d'

def atEnd : Frame → Fault
  | list => .endInList
  | object => .endInObject

def expectedEnd : Frame → Fault
  | list => .expectedListEnd
  | object => .expectedObjectEnd

end Frame

inductive Ascent where
  | finished (rest : List Char)
  | item (frames : List Frame) (rest : List Char)
  deriving Repr

/-- Goes up through closing brackets to the next item or out of the outermost value. -/
def ascend : Bool → List Frame → List Char → Except Stop Ascent
  | _, [], cs => .ok (.finished cs)
  | _, frame :: _, [] => stopAfter frame.atEnd []
  | afterItem, frame :: outer, c :: cs =>
      if isSpace c then ascend afterItem (frame :: outer) cs
      else if c = ',' && afterItem then .ok (.item (frame :: outer) cs)
      else if c = frame.close then ascend true outer cs
      else if afterItem then stopAfter frame.expectedEnd (c :: cs)
      else .ok (.item (frame :: outer) (c :: cs))

def skipKey (cs : List Char) : Except Stop (List Char) :=
  match skipSpace cs with
  | [] => stopAfter .endInObject []
  | '"' :: rest =>
      match skipString rest with
      | .error stop => .error stop
      | .ok rest => skipColon rest
  | rest => stopAfter .keyNotString rest

def skipLeaf (cs : List Char) : Except Stop (List Char) :=
  match cs with
  | [] => stopAfter .endInValue []
  | 'n' :: rest => word ['u', 'l', 'l'] rest
  | 't' :: rest => word ['r', 'u', 'e'] rest
  | 'f' :: rest => word ['a', 'l', 's', 'e'] rest
  | '-' :: rest => skipNumber rest
  | '"' :: rest => skipString rest
  | c :: rest =>
      if Numeral.isDigit c then skipNumber (c :: rest) else stopAfter .expectedValue (c :: rest)

def skipHead (frames : List Frame) (cs : List Char) : Except Stop Ascent :=
  match skipSpace cs with
  | '[' :: rest => ascend false (.list :: frames) rest
  | '\x7b' :: rest => ascend false (.object :: frames) rest
  | cs =>
      match skipLeaf cs with
      | .error stop => .error stop
      | .ok rest => ascend true frames rest

def enter (frames : List Frame) (cs : List Char) : Except Stop (List Char) :=
  match frames with
  | .object :: _ => skipKey cs
  | _ => .ok cs

def skipRounds : Nat → List Frame → List Char → Except Stop (List Char)
  | 0, _, cs => stopAfter .endInValue cs
  | rounds + 1, frames, cs =>
      match skipHead frames cs with
      | .error stop => .error stop
      | .ok (.finished rest) => .ok rest
      | .ok (.item frames rest) =>
          match enter frames rest with
          | .error stop => .error stop
          | .ok rest => skipRounds rounds frames rest

/-- The rest behind a value. Every round takes a character, so any bound above the length of the
text will do. -/
def skipValue (bound : Nat) (cs : List Char) : Except Stop (List Char) :=
  skipRounds bound [] cs

end VmLifecycle.Json
