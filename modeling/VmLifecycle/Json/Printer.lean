import VmLifecycle.Text.Quoted

namespace VmLifecycle.Json

def lowHex (n : Nat) : Char :=
  if n < 10 then Char.ofNat ('0'.toNat + n) else Char.ofNat ('a'.toNat + (n - 10))

def writeChar (c : Char) : List Char :=
  match c with
  | '"' => ['\\', '"']
  | '\\' => ['\\', '\\']
  | '\x08' => ['\\', 'b']
  | '\x0c' => ['\\', 'f']
  | '\n' => ['\\', 'n']
  | '\r' => ['\\', 'r']
  | '\t' => ['\\', 't']
  | c =>
      if c.toNat < 0x20 then ['\\', 'u', '0', '0', lowHex (c.toNat / 16), lowHex (c.toNat % 16)]
      else [c]

def writeString (text : String) : List Char :=
  '"' :: text.toList.flatMap writeChar ++ ['"']

def writeText? : Option String → List Char
  | none => ['n', 'u', 'l', 'l']
  | some text => writeString text

def writeMembers : List (String × List Char) → List Char
  | [] => []
  | [(key, value)] => writeString key ++ ':' :: value
  | (key, value) :: more => writeString key ++ ':' :: value ++ ',' :: writeMembers more

def writeObject (members : List (String × List Char)) : List Char :=
  '\x7b' :: writeMembers members ++ ['\x7d']

end VmLifecycle.Json
