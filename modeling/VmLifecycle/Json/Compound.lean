import VmLifecycle.Json.Literal

namespace VmLifecycle.Json

/-- Where the next element starts; nothing at the bracket that ends the list. -/
def nextElement (isFirst : Bool) (cs : List Char) : Except Stop (Option (List Char)) :=
  match skipSpace cs with
  | [] => stopAfter .endInList []
  | ']' :: _ => .ok none
  | c :: rest =>
      if isFirst then .ok (some (c :: rest))
      else if c = ',' then
        match skipSpace rest with
        | [] => stopAfter .endInValue []
        | ']' :: rest => stopAfter .trailingComma (']' :: rest)
        | rest => .ok (some rest)
      else stopAfter .expectedListEnd (c :: rest)

def endList (cs : List Char) : Except Stop (List Char) :=
  match skipSpace cs with
  | [] => stopAfter .endInList []
  | ']' :: rest => .ok rest
  | ',' :: rest =>
      match skipSpace rest with
      | ']' :: rest => stopAfter .trailingComma (']' :: rest)
      | rest => stopAfter .trailingCharacters rest
  | rest => stopAfter .trailingCharacters rest

/-- As far as the end of a list is read when its items were given up. -/
def pastList (cs : List Char) : List Char :=
  match skipSpace cs with
  | ']' :: rest => rest
  | ',' :: rest => skipSpace rest
  | rest => rest

def nextKeyStart (isFirst : Bool) (cs : List Char) : Except Stop (Option (List Char)) :=
  match skipSpace cs with
  | [] => stopAfter .endInObject []
  | '\x7d' :: _ => .ok none
  | c :: rest =>
      if isFirst then
        if c = '"' then .ok (some rest) else stopAfter .keyNotString (c :: rest)
      else if c = ',' then
        match skipSpace rest with
        | [] => stopAfter .endInValue []
        | '"' :: rest => .ok (some rest)
        | '\x7d' :: rest => stopAfter .trailingComma ('\x7d' :: rest)
        | rest => stopAfter .keyNotString rest
      else stopAfter .expectedObjectEnd (c :: rest)

def nextKey (isFirst : Bool) (cs : List Char) : Except Stop (Option (String × List Char)) :=
  match nextKeyStart isFirst cs with
  | .error stop => .error stop
  | .ok none => .ok none
  | .ok (some rest) =>
      match readString rest with
      | .error stop => .error stop
      | .ok (key, rest) => .ok (some (key, rest))

def skipColon (cs : List Char) : Except Stop (List Char) :=
  match skipSpace cs with
  | [] => stopAfter .endInObject []
  | ':' :: rest => .ok rest
  | rest => stopAfter .expectedColon rest

def endObject (cs : List Char) : Except Stop (List Char) :=
  match skipSpace cs with
  | [] => stopAfter .endInObject []
  | '\x7d' :: rest => .ok rest
  | ',' :: rest => stopAfter .trailingComma (',' :: rest)
  | rest => stopAfter .trailingCharacters rest

def pastObject (cs : List Char) : List Char :=
  match skipSpace cs with
  | '\x7d' :: rest => rest
  | rest => rest

end VmLifecycle.Json
