import VmLifecycle.Error
import VmLifecycle.Json.Printer
import VmLifecycle.Json.Record

namespace VmLifecycle

inductive NameFault where
  | empty
  | tooLong
  | badCharacter
  deriving DecidableEq, Repr

def NameFault.message : NameFault → String
  | .empty => "Instance name cannot be empty"
  | .tooLong => "Instance name too long (max 64 chars)"
  | .badCharacter =>
      "Instance name can only contain alphanumeric, dash, underscore, and dot"

def NameFault.toError (fault : NameFault) : Error :=
  .invalidConfig fault.message

namespace InstanceName

def maxLength : Nat := 64

def isNameChar (c : Char) : Bool :=
  c.isAlphanum || c = '-' || c = '_' || c = '.'

/-- The first fault of a text as a name; its length is the length of its encoding. -/
def fault? (text : String) : Option NameFault :=
  if text.isEmpty then some .empty
  else if maxLength < text.utf8ByteSize then some .tooLong
  else if text.toList.all isNameChar then none
  else some .badCharacter

end InstanceName

structure InstanceName where
  text : String
  faultless : InstanceName.fault? text = none

namespace InstanceName

instance : DecidableEq InstanceName := fun a b =>
  if h : a.text = b.text then
    .isTrue (by cases a; cases b; simp_all)
  else
    .isFalse fun same => h (congrArg text same)

instance : Repr InstanceName where
  reprPrec name precedence := reprPrec name.text precedence

def parse (text : String) : Except NameFault InstanceName :=
  match h : fault? text with
  | none => .ok ⟨text, h⟩
  | some fault => .error fault

def standard : InstanceName :=
  ⟨"nimbus", by decide +kernel⟩

def scan : Json.Scan InstanceName := fun cs =>
  match Json.text "a string" cs with
  | .error stop => .error stop
  | .ok (text, rest) =>
      match parse text with
      | .ok name => .ok (name, rest)
      | .error fault => Json.stopBehind (.rejected fault.toError.message) rest

def read (text : String) : Except Json.Error InstanceName :=
  Json.read scan text

def write (name : InstanceName) : String :=
  String.ofList (Json.writeString name.text)

def describe (name : InstanceName) : String :=
  "InstanceName(" ++ quoted name.text ++ ")"

end InstanceName

end VmLifecycle
