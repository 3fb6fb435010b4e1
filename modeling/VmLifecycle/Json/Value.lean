import VmLifecycle.Json.Compound
import VmLifecycle.Json.Number

namespace VmLifecycle.Json

inductive Value where
  | null
  | bool (value : Bool)
  | number (value : Number)
  | string (text : String)
  | list (items : List Value)
  | object (members : List (String × Value))

/-- Reads the elements of a list up to its closing bracket. Each is read with a bound above the
length of the text. -/
def elements (element : Nat → Scan α) : Nat → Bool → List α → Scan (List α)
  | 0, _, _, cs => stopAfter .endInList cs
  | rounds + 1, isFirst, read, cs =>
      match nextElement isFirst cs with
      | .error stop => .error stop
      | .ok none => .ok (read.reverse, cs)
      | .ok (some cs) =>
          match element (rounds + 1) cs with
          | .error stop => .error stop
          | .ok (value, rest) => elements element rounds false (value :: read) rest

def members (member : Nat → Scan α) : Nat → Bool → List (String × α) → Scan (List (String × α))
  | 0, _, _, cs => stopAfter .endInObject cs
  | rounds + 1, isFirst, read, cs =>
      match nextKey isFirst cs with
      | .error stop => .error stop
      | .ok none => .ok (read.reverse, cs)
      | .ok (some (key, rest)) =>
          match skipColon rest with
          | .error stop => .error stop
          | .ok rest =>
              match member rounds rest with
              | .error stop => .error stop
              | .ok (value, rest) => members member rounds false ((key, value) :: read) rest

namespace Value

def ofWord (rest : List Char) (expected : List Char) (value : Value) :
    Except Stop (Value × List Char) :=
  match word expected rest with
  | .error stop => .error stop
  | .ok rest => .ok (value, rest)

def ofNumber (positive : Bool) (cs : List Char) : Except Stop (Value × List Char) :=
  match readNumber positive cs with
  | .error stop => .error stop
  | .ok (value, rest) => .ok (.number value, rest)

def ofString (cs : List Char) : Except Stop (Value × List Char) :=
  match readString cs with
  | .error stop => .error stop
  | .ok (text, rest) => .ok (.string text, rest)

def leaf (cs : List Char) : Except Stop (Value × List Char) :=
  match cs with
  | [] => stopAfter .endInValue []
  | 'n' :: rest => ofWord rest ['u', 'l', 'l'] .null
  | 't' :: rest => ofWord rest ['r', 'u', 'e'] (.bool true)
  | 'f' :: rest => ofWord rest ['a', 'l', 's', 'e'] (.bool false)
  | '-' :: rest => ofNumber false rest
  | '"' :: rest => ofString rest
  | c :: rest =>
      if Numeral.isDigit c then ofNumber true (c :: rest)
      else stopAfter .expectedValue (c :: rest)

def scan : Nat → Nat → Scan Value
  | 0, _, cs => stopAfter .tooDeep cs
  | depth + 1, bound, cs =>
      match skipSpace cs with
      | '[' :: rest =>
          if depth = 0 then stopAfter .tooDeep ('[' :: rest)
          else
            match elements (scan depth) bound true [] rest with
            | .error stop => .error stop
            | .ok (items, rest) =>
                match endList rest with
                | .error stop => .error stop
                | .ok rest => .ok (.list items, rest)
      | '\x7b' :: rest =>
          if depth = 0 then stopAfter .tooDeep ('\x7b' :: rest)
          else
            match members (scan depth) bound true [] rest with
            | .error stop => .error stop
            | .ok (found, rest) =>
                match endObject rest with
                | .error stop => .error stop
                | .ok rest => .ok (.object found, rest)
      | cs => leaf cs

/-- Lists and objects may lie in one another up to a depth of 127. -/
def read (text : String) : Except Error Value :=
  Json.read (fun cs => scan 128 (cs.length + 1) cs) text

end Value

end VmLifecycle.Json
