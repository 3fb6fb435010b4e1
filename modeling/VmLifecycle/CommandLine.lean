namespace VmLifecycle

inductive Command where
  | stop (isForced : Bool)
  | status
  deriving DecidableEq, Repr

structure CommandLine where
  command : Command
  isVerbose : Bool
  deriving DecidableEq, Repr

namespace CommandLine

inductive Flag where
  | verbose
  | force
  | help
  | version
  deriving DecidableEq, Repr

namespace Flag

def long : Flag → String
  | verbose => "verbose"
  | force => "force"
  | help => "help"
  | version => "version"

def short : Flag → Char
  | verbose => 'v'
  | force => 'f'
  | help => 'h'
  | version => 'V'

def spelling (flag : Flag) : String :=
  "--" ++ flag.long

end Flag

/-- The part of a command line that knows its own flags. -/
inductive Scope where
  | top
  | stop
  | status
  | help
  deriving DecidableEq, Repr

namespace Scope

def flags : Scope → List Flag
  | top => [.verbose, .help, .version]
  | stop => [.force, .verbose, .help]
  | status => [.verbose, .help]
  | help => []

def path : Scope → String
  | top => "nimbus"
  | stop => "nimbus stop"
  | status => "nimbus status"
  | help => "nimbus help"

def commands : Scope → List (String × Scope)
  | top => [("stop", stop), ("status", status), ("help", help)]
  | _ => []

def command? (scope : Scope) (word : String) : Option Scope :=
  (scope.commands.find? (·.1 == word)).map (·.2)

/-- A flag that is shown with its group once it was given. -/
def groupedFlag? : Scope → Option Flag
  | top => some .verbose
  | stop => some .force
  | _ => none

end Scope

inductive Token where
  | dashes
  | long (name : String) (value : Option String)
  | cluster (letters : List Char)
  | word (text : String)
  deriving DecidableEq, Repr

def Token.splitLong (cs : List Char) : Token :=
  let name := String.ofList (cs.takeWhile (· != '='))
  match cs.dropWhile (· != '=') with
  | [] => .long name none
  | _ :: value => .long name (some (String.ofList value))

def Token.ofArgument (argument : String) : Token :=
  match argument.toList with
  | ['-', '-'] => .dashes
  | '-' :: '-' :: rest => splitLong rest
  | '-' :: c :: rest => .cluster (c :: rest)
  | _ => .word argument

end CommandLine

end VmLifecycle
