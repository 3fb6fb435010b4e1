import VmLifecycle.Config
import VmLifecycle.SystemError

namespace VmLifecycle

inductive Write where
  | out (bytes : Bytes)
  | err (bytes : Bytes)
  deriving DecidableEq, Repr

namespace Write

def bytes : Write → Bytes
  | out bytes => bytes
  | err bytes => bytes

def outBytes : Write → Bytes
  | out bytes => bytes
  | err _ => []

def errBytes : Write → Bytes
  | out _ => []
  | err bytes => bytes

end Write

inductive Ending where
  | exit (code : UInt8)
  | signal
  deriving DecidableEq, Repr

/-- What a program does when it is run: its writes in order, and how it ends. -/
structure Behaviour where
  writes : List Write := []
  ending : Ending := .exit 0
  deriving DecidableEq, Repr

namespace Behaviour

def stdout (behaviour : Behaviour) : Bytes :=
  behaviour.writes.flatMap Write.outBytes

def stderr (behaviour : Behaviour) : Bytes :=
  behaviour.writes.flatMap Write.errBytes

def merged (behaviour : Behaviour) : Bytes :=
  behaviour.writes.flatMap Write.bytes

/-- The end of a shell that does not find its command. -/
def unknown : Behaviour where
  ending := .exit 127

end Behaviour

/-- A run of a program as the program saw it. -/
structure Call where
  program : String
  args : List String
  home : Option Bytes
  stdin : Bytes
  deriving DecidableEq, Repr

structure Host where
  start : String → Except SystemError Unit
  behaviour : List String → Behaviour
  home : Option Bytes := none

/-- The first entry for the arguments decides what the tool does. -/
def Host.lookUp (table : List (List String × Behaviour)) (args : List String) : Behaviour :=
  ((table.find? fun entry => entry.1 == args).map (·.2)).getD .unknown

namespace Host

def hasZeroByte (text : String) : Bool :=
  text.toList.contains '\x00'

/-- The room for one argument or variable, with the zero byte behind it. -/
def textRoom : Nat := 131072

def isTooLong (text : String) : Bool :=
  decide (textRoom ≤ text.utf8ByteSize)

def homeEntry (home : String) : String :=
  Config.toolHomeVariable ++ "=" ++ home

def launch (host : Host) (program : String) (args : List String) (home : Option String) :
    Except SystemError Unit :=
  if hasZeroByte program || args.any hasZeroByte || home.any hasZeroByte then
    .error .zeroByte
  else
    match host.start program with
    | .error error => .error error
    | .ok () =>
        if args.any isTooLong || home.any fun home => isTooLong (homeEntry home) then
          .error .listTooLong
        else .ok ()

/-- Runs a program with closed input; a home of its own takes the place of the inherited one. -/
def run (host : Host) (program : String) (args : List String) (home : Option String) :
    Except SystemError (Behaviour × Call) :=
  match host.launch program args home with
  | .error error => .error error
  | .ok () =>
      .ok (host.behaviour args,
        { program, args, home := (home.map Utf8.encode).or host.home, stdin := [] })

end Host

end VmLifecycle
