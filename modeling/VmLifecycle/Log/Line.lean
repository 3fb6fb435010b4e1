import VmLifecycle.Log
import VmLifecycle.Text.Terminal

namespace VmLifecycle.Record

/-!
A record as a line of the log: its time, its level in five columns, the message, and the fields.
Only the message is kept from driving the terminal.
-/

def levelColumn (level : Level) : String :=
  "".pushn ' ' (5 - level.name.length) ++ level.name

def levelCode : Level → String
  | .error => "31"
  | .warn => "33"
  | .info => "32"
  | .debug => "34"
  | .trace => "35"

def fieldText (isColored : Bool) (field : String × String) : String :=
  if isColored then
    " " ++ Terminal.coded ["3"] field.1 ++ Terminal.coded ["2"] "=" ++ field.2
  else
    " " ++ field.1 ++ "=" ++ field.2

def line (isColored : Bool) (time : String) (record : Record) : String :=
  let head :=
    if isColored then
      Terminal.coded ["2"] time ++ " " ++
        Terminal.coded [levelCode record.level] (levelColumn record.level)
    else
      time ++ " " ++ levelColumn record.level
  head ++ " " ++ Terminal.spellControls record.message ++
    String.join (record.fields.map (fieldText isColored)) ++ "\n"

end VmLifecycle.Record
