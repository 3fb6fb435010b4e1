import VmLifecycle.Json.Fault
import VmLifecycle.SystemError

namespace VmLifecycle

inductive Error where
  | system (cause : SystemError)
  | commandFailed (command reason : String)
  | alreadyStopped (name : String)
  | notExist (name : String)
  | unrecognizedStatus
  | disk (message : String)
  | invalidConfig (message : String)
  | document (cause : Json.Error)
  deriving Repr

namespace Error

def message : Error → String
  | system cause => "I/O error: " ++ cause.message
  | commandFailed command reason => "command `" ++ command ++ "` failed: " ++ reason
  | alreadyStopped name => "the instance " ++ quoted name ++ " is already stopped"
  | notExist name => "the instance " ++ quoted name ++ " does not exist"
  | unrecognizedStatus => "unrecognized system status"
  | disk message => "Disk error: " ++ message
  | invalidConfig message => "Invalid configuration: " ++ message
  | document cause => "JSON error: " ++ cause.message

/-- The failure beneath this one, where it only passes one on. -/
def source? : Error → Option String
  | system cause => some cause.message
  | document cause => some cause.message
  | _ => none

end Error

end VmLifecycle
