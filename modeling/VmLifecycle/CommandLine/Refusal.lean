import VmLifecycle.CommandLine.Help

namespace VmLifecycle.CommandLine

inductive Hint where
  | here (flag : Flag)
  | under (command : String) (flag : Flag)
  deriving DecidableEq, Repr

/-- Why a command line is not carried out. The flags given before are kept in order where the usage
shown repeats them. -/
inductive Refusal where
  | help (scope : Scope)
  | version
  | nothingGiven
  | missingCommand
  | unknownCommand (scope : Scope) (word : String) (similar : List String)
  | commandBehindDashes (word : String)
  | unknownArgument (scope : Scope) (word : String)
  | unknownLong (scope : Scope) (name : String) (given : List Flag) (hint : Option Hint)
  | unexpectedValue (scope : Scope) (flag : Flag) (value : String) (given : List Flag)
  | repeated (scope : Scope) (flag : Flag)
  deriving DecidableEq, Repr

namespace Refusal

def quoted (span : Span) : Styled :=
  [.plain "'", span, .plain "'"]

def tip (what : Styled) : Styled :=
  [.plain "\n\n  ", .valid "tip:", .plain " "] ++ what

def listed (items : List Styled) : Styled :=
  (items.intersperse [.plain ", "]).flatten

def similarTip : List String → Styled
  | [] => []
  | [word] => tip (.plain "a similar subcommand exists: " :: quoted (.valid word))
  | words =>
      tip (.plain "some similar subcommands exist: " ::
        listed (words.map fun word => quoted (.valid word)))

def hintTip : Option Hint → Styled
  | none => []
  | some (.here flag) =>
      tip (.plain "a similar argument exists: " :: quoted (.valid flag.spelling))
  | some (.under command flag) =>
      tip (quoted (.valid (command ++ " " ++ flag.spelling)) ++ [.plain " exists"])

def spellings (flags : List Flag) : Styled :=
  flags.eraseDups.map fun flag => .literal flag.spelling

def hintParts (given : List Flag) (hint : Option Hint) : Styled :=
  match hint with
  | some (.here flag) => spellings (given ++ [flag])
  | _ => spellings given

def groupedParts (scope : Scope) (given : List Flag) (flag : Flag) : Styled :=
  match scope.groupedFlag? with
  | none => spellings (given ++ [flag])
  | some grouped =>
      if given.contains grouped then
        spellings ((given ++ [flag]).filter (· != grouped)) ++
          [.plain ("<" ++ grouped.spelling ++ ">")]
      else spellings (given ++ [flag])

def errorText (scope : Scope) (what tip usage : Styled) : Styled :=
  [.failure "error:", .plain " "] ++ what ++ tip ++ [.plain "\n\n"] ++ Scope.usageLine usage ++
    scope.pointer

def unexpected (word : String) : Styled :=
  [.plain "unexpected argument "] ++ quoted (.invalid word) ++ [.plain " found"]

def message : Refusal → Styled
  | help scope => scope.helpText
  | version => versionText
  | nothingGiven => Scope.top.helpText
  | missingCommand =>
      errorText .top
        (quoted (.invalid Scope.top.path) ++
          [.plain " requires a subcommand but one was not provided\n  [subcommands: "] ++
          listed (Scope.top.commands.map fun (word, _) => [.valid word]) ++ [.plain "]"])
        [] Scope.top.usage
  | unknownCommand scope word similar =>
      errorText scope (.plain "unrecognized subcommand " :: quoted (.invalid word))
        (similarTip similar) scope.usage
  | commandBehindDashes word =>
      errorText .top (unexpected word)
        (tip ([.plain "subcommand "] ++ quoted (.valid word) ++
          [.plain " exists; to use it, remove the "] ++ quoted (.invalid "--") ++
          [.plain " before it"]))
        Scope.top.usage
  | unknownArgument scope word => errorText scope (unexpected word) [] scope.usage
  | unknownLong scope name given hint =>
      errorText scope (unexpected ("--" ++ name)) (hintTip hint)
        (scope.usageWith (hintParts given hint))
  | unexpectedValue scope flag value given =>
      errorText scope
        ([.plain "unexpected value "] ++ quoted (.invalid value) ++ [.plain " for "] ++
          quoted (.literal flag.spelling) ++ [.plain " found; no more were expected"])
        [] (scope.usageWith (groupedParts scope given flag))
  | repeated scope flag =>
      errorText scope
        ([.plain "the argument "] ++ quoted (.invalid flag.spelling) ++
          [.plain " cannot be used multiple times"])
        [] scope.usage

def isRequest : Refusal → Bool
  | help _ => true
  | version => true
  | _ => false

def exitCode (refusal : Refusal) : UInt8 :=
  if refusal.isRequest then 0 else 2

end Refusal

end VmLifecycle.CommandLine
