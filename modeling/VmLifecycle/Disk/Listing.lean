import VmLifecycle.Error
import VmLifecycle.Json.Record
import VmLifecycle.Text.Blank
import VmLifecycle.Text.Utf8

namespace VmLifecycle

/-- A disk as the tool lists it; the holder is empty when no instance holds it. -/
structure Disk where
  name : String := ""
  holder : String := ""
  mountPoint : String := ""
  deriving DecidableEq, Repr

namespace Disk

structure Draft where
  name : Option String := none
  holder : Option String := none
  mountPoint : Option String := none

namespace Draft

def nameField : Json.Field Draft :=
  .of "name" (Json.text "a string") (·.name) fun draft text => { draft with name := some text }

def holderField : Json.Field Draft :=
  .of "instance" (Json.text "a string") (·.holder) fun draft text =>
    { draft with holder := some text }

def mountPointField : Json.Field Draft :=
  .of "mountPoint" (Json.text "a string") (·.mountPoint) fun draft text =>
    { draft with mountPoint := some text }

def shape : Json.Shape Draft where
  title := "struct LimaDisk"
  fields := [nameField, holderField, mountPointField]
  short _ := none

def finish (draft : Draft) : Except Json.Fault Disk :=
  .ok
    { name := draft.name.getD ""
      holder := draft.holder.getD ""
      mountPoint := draft.mountPoint.getD "" }

end Draft

def scan : Json.Scan Disk :=
  Draft.shape.scan {} Draft.finish

def read (text : String) : Except Json.Error Disk :=
  Json.read scan text

/-- The lines of a listing that hold more than blanks, without the blanks around them. -/
def entryLines (output : Bytes) : List (List Char) :=
  ((lines (Utf8.decodeLossyChars output)).map trimChars).filter (!·.isEmpty)

/-- The first disk of the name; a line before it that is no disk is an error. -/
def find (name : String) : List (List Char) → Except Json.Error (Option Disk)
  | [] => .ok none
  | line :: rest =>
      match read (String.ofList line) with
      | .error error => .error error
      | .ok disk => if disk.name = name then .ok (some disk) else find name rest

def findInListing (output : Bytes) (name : String) : Except Json.Error (Option Disk) :=
  find name (entryLines output)

end Disk

end VmLifecycle
