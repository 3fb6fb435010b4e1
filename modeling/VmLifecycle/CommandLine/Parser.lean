import VmLifecycle.CommandLine.Refusal
import VmLifecycle.Text.Similarity

namespace VmLifecycle.CommandLine

def flagOfLong? (scope : Scope) (name : String) : Option Flag :=
  scope.flags.find? (·.long == name)

def flagOfShort? (scope : Scope) (letter : Char) : Option Flag :=
  scope.flags.find? (·.short == letter)

def closestFlag? (scope : Scope) (name : String) : Option Flag :=
  ((Similarity.closeTo name (scope.flags.map Flag.long)).getLast?).bind (flagOfLong? scope)

def hintsAhead (scope : Scope) (name : String) (ahead : List String) : List (Nat × Hint) :=
  scope.commands.filterMap fun (command, inner) =>
    match closestFlag? inner name, ahead.findIdx? (· == command) with
    | some flag, some distance => some (distance, .under command flag)
    | _, _ => none

def nearest? : List (Nat × Hint) → Option Hint
  | [] => none
  | (distance, hint) :: rest =>
      if rest.all fun other => distance ≤ other.1 then some hint else nearest? rest

def hint? (scope : Scope) (name : String) (ahead : List String) : Option Hint :=
  match closestFlag? scope name with
  | some flag => some (.here flag)
  | none => nearest? (hintsAhead scope name ahead)

/-- Takes one flag; each is taken once, and help and version end the reading. -/
def takeFlag (scope : Scope) (given : List Flag) (flag : Flag) : Except Refusal (List Flag) :=
  match flag with
  | .help => .error (.help scope)
  | .version => .error .version
  | flag =>
      if given.contains flag then .error (.repeated scope flag) else .ok (given ++ [flag])

def takeLong (scope : Scope) (given : List Flag) (name : String) (value : Option String)
    (ahead : List String) : Except Refusal (List Flag) :=
  match flagOfLong? scope name, value with
  | some flag, none => takeFlag scope given flag
  | some flag, some value => .error (.unexpectedValue scope flag value given)
  | none, _ => .error (.unknownLong scope name given (hint? scope name ahead))

def takeCluster (scope : Scope) : List Flag → List Char → Except Refusal (List Flag)
  | given, [] => .ok given
  | given, letter :: rest =>
      match flagOfShort? scope letter with
      | none => .error (.unknownArgument scope (String.ofList ['-', letter]))
      | some flag =>
          match takeFlag scope given flag with
          | .error refusal => .error refusal
          | .ok given => takeCluster scope given rest

def readFlags (scope : Scope) : List Flag → List String → Except Refusal (List Flag)
  | given, [] => .ok given
  | given, argument :: rest =>
      match Token.ofArgument argument with
      | .dashes =>
          match rest with
          | [] => .ok given
          | word :: _ => .error (.unknownArgument scope word)
      | .word text => .error (.unknownArgument scope text)
      | .long name value =>
          match takeLong scope given name value rest with
          | .error refusal => .error refusal
          | .ok given => readFlags scope given rest
      | .cluster letters =>
          match takeCluster scope given letters with
          | .error refusal => .error refusal
          | .ok given => readFlags scope given rest

def helpFor (scope : Scope) : List String → Refusal
  | [] => .help scope
  | word :: rest =>
      match scope.command? word with
      | some inner => helpFor inner rest
      | none => .unknownCommand scope word []

def unknownCommand (word : String) : Refusal :=
  .unknownCommand .top word (Similarity.closeTo word (Scope.top.commands.map (·.1)))

def withoutCommand (given : List Flag) : Refusal :=
  if given.isEmpty then .nothingGiven else .missingCommand

/-- Behind two dashes no command is looked for. -/
def behindDashes (given : List Flag) : List String → Refusal
  | [] => withoutCommand given
  | word :: _ =>
      if (Scope.top.command? word).isSome then .commandBehindDashes word else unknownCommand word

def readCommand (given : List Flag) (inner : Scope) (rest : List String) :
    Except Refusal CommandLine :=
  match inner with
  | .stop =>
      (readFlags .stop [] rest).map fun flags =>
        ⟨.stop (flags.contains .force), given.contains .verbose || flags.contains .verbose⟩
  | .status =>
      (readFlags .status [] rest).map fun flags =>
        ⟨.status, given.contains .verbose || flags.contains .verbose⟩
  | .help => .error (helpFor .top rest)
  | .top => .error (withoutCommand given)

def readTop : List Flag → List String → Except Refusal CommandLine
  | given, [] => .error (withoutCommand given)
  | given, argument :: rest =>
      match Token.ofArgument argument with
      | .dashes => .error (behindDashes given rest)
      | .word text =>
          match Scope.top.command? text with
          | some inner => readCommand given inner rest
          | none => .error (unknownCommand text)
      | .long name value =>
          match takeLong .top given name value rest with
          | .error refusal => .error refusal
          | .ok given => readTop given rest
      | .cluster letters =>
          match takeCluster .top given letters with
          | .error refusal => .error refusal
          | .ok given => readTop given rest

def parse (arguments : List String) : Except Refusal CommandLine :=
  readTop [] arguments

end VmLifecycle.CommandLine
