import VmLifecycle.Host
import VmLifecycle.Json.Value

namespace VmLifecycle

namespace Json.Value

def member? (name : String) : Value → Option Value
  | object members => members.lookup name
  | _ => none

def items? : Value → Option (List Value)
  | list items => some items
  | _ => none

def text? : Value → Option String
  | string text => some text
  | _ => none

def texts? (value : Value) : Option (List String) :=
  value.items?.bind fun items => items.mapM text?

end Json.Value

namespace Host.Document

open Json (Value)

def writeOf? (value : Value) : Option Write :=
  match value.member? "out", value.member? "err" with
  | some out, none => out.text?.map fun text => .out (Utf8.encode text)
  | none, some err => err.text?.map fun text => .err (Utf8.encode text)
  | _, _ => none

/-- A run that names no exit code exits with zero. -/
def endingOf? (value : Value) : Option Ending :=
  match value.member? "signal", value.member? "exit" with
  | some (.bool true), _ => some .signal
  | _, some (.number (.integer code)) => some (.exit (UInt8.ofInt code))
  | _, some _ => none
  | _, none => some (.exit 0)

def entryOf? (value : Value) : Option (List String × Behaviour) := do
  let args ← (← value.member? "args").texts?
  let writes ← (← (← value.member? "writes").items?).mapM writeOf?
  let ending ← endingOf? value
  return (args, ⟨writes, ending⟩)

def ofValue? (value : Value) : Option Host := do
  let programs ← (← value.member? "programs").texts?
  let table ← (← (← value.member? "runs").items?).mapM entryOf?
  return {
    start := fun program => if programs.contains program then .ok () else .error .noEntry
    behaviour := lookUp table
  }

def read? (text : String) : Option Host :=
  (Value.read text).toOption.bind ofValue?

end Host.Document

end VmLifecycle
