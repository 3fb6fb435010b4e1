namespace VmLifecycle

inductive Level where
  | error
  | warn
  | info
  | debug
  | trace
  deriving DecidableEq, Repr

namespace Level

def rank : Level → Nat
  | error => 0
  | warn => 1
  | info => 2
  | debug => 3
  | trace => 4

def name : Level → String
  | error => "ERROR"
  | warn => "WARN"
  | info => "INFO"
  | debug => "DEBUG"
  | trace => "TRACE"

end Level

structure Record where
  level : Level
  message : String
  fields : List (String × String) := []
  deriving DecidableEq, Repr

def Record.isShown (record : Record) (upTo : Level) : Bool :=
  record.level.rank ≤ upTo.rank

end VmLifecycle
