import VmLifecycle.Json.Printer
import VmLifecycle.Json.Record
import VmLifecycle.Text.Blank

namespace VmLifecycle

inductive Status where
  | running
  | stopped
  | nonexistent
  | unrecognized
  deriving DecidableEq, Repr

namespace Status

/-- The tool prints one word for an instance it knows and nothing for any other. -/
def classify (output : String) : Status :=
  if output = "Running" then running
  else if output = "Stopped" then stopped
  else if output = "" then nonexistent
  else unrecognized

def word : Status → String
  | running => "Running"
  | stopped => "Stopped"
  | nonexistent => "Nonexistent"
  | unrecognized => "Unrecognized"

def name : Status → String
  | running => "Running"
  | stopped => "Stopped"
  | nonexistent => "NonExistent"
  | unrecognized => "Unrecognized"

def all : List Status :=
  [running, stopped, nonexistent, unrecognized]

def ofName? (text : String) : Option Status :=
  all.find? (·.name == text)

def write (status : Status) : String :=
  String.ofList (Json.writeString status.name)

def scanName : Json.Scan Status := fun cs =>
  match Json.readString cs with
  | .error stop => .error stop
  | .ok (text, rest) =>
      match ofName? text with
      | some status => .ok (status, rest)
      | none => Json.stopBefore (.unknownVariant text (all.map name)) rest

def scanNull (cs : List Char) : Except Json.Stop (List Char) :=
  match Json.skipSpace cs with
  | 'n' :: rest => Json.word ['u', 'l', 'l'] rest
  | rest => Json.wrongKind "unit" rest

def scanObject : Json.Scan Status := fun cs =>
  match Json.skipSpace cs with
  | [] => Json.stopAfter .endInObject []
  | '"' :: rest =>
      match scanName rest with
      | .error stop => .error stop
      | .ok (status, rest) =>
          match Json.skipColon rest with
          | .error stop => .error stop
          | .ok rest =>
              match scanNull rest with
              | .error stop => .error stop
              | .ok rest =>
                  match Json.skipSpace rest with
                  | [] => Json.stopBefore .endInObject []
                  | '\x7d' :: rest => .ok (status, rest)
                  | rest => Json.stopBefore .expectedValue rest
  | '\x7d' :: rest => Json.stopAfter .expectedValue ('\x7d' :: rest)
  | rest => Json.stopAfter .keyNotString rest

/-- A state is a string, or an object that maps its name to `null`. -/
def scan : Json.Scan Status := fun cs =>
  match Json.skipSpace cs with
  | [] => Json.stopAfter .endInValue []
  | '"' :: rest => scanName rest
  | '\x7b' :: rest => scanObject rest
  | rest => Json.stopAfter .expectedValue rest

def read (text : String) : Except Json.Error Status :=
  Json.read scan text

end Status

end VmLifecycle
