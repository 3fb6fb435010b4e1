import VmLifecycle.CommandLine
import VmLifecycle.Text.Styled

namespace VmLifecycle.CommandLine

structure Entry where
  name : Styled
  about : String

namespace Entry

def line (width : Nat) (entry : Entry) : Styled :=
  let gap := "".pushn ' ' (width + 2 - entry.name.width)
  [.plain "  "] ++ entry.name ++ [.plain (gap ++ entry.about ++ "\n")]

def lines (entries : List Entry) : Styled :=
  let width := entries.foldl (fun width entry => max width entry.name.width) 0
  entries.flatMap (line width)

def titled (title : String) (entries : List Entry) : Styled :=
  if entries.isEmpty then []
  else [.plain "\n", .heading (title ++ ":"), .plain "\n"] ++ lines entries

end Entry

namespace Flag

def about : Flag → String
  | verbose => "Enable verbose logging"
  | force => "Forcibly stop the virtual machine"
  | help => "Print help"
  | version => "Print version"

def entry (flag : Flag) : Entry where
  name := [.literal (String.ofList ['-', flag.short]), .plain ", ", .literal flag.spelling]
  about := flag.about

end Flag

namespace Scope

def about : Scope → String
  | top => "Nimbus virtual machine lifecycle controller"
  | stop => "Stop the virtual machine"
  | status => "Show the status of the virtual machine"
  | help => "Print this message or the help of the given subcommand(s)"

def usageOf (scope : Scope) (parts : Styled) : Styled :=
  .literal scope.path :: parts.flatMap fun part => [.plain " ", part]

def usage : Scope → Styled
  | top => top.usageOf [.plain "[OPTIONS]", .plain "<COMMAND>"]
  | stop => stop.usageOf [.plain "[OPTIONS]"]
  | status => status.usageOf [.plain "[OPTIONS]"]
  | help => help.usageOf [.plain "[COMMAND]..."]

def usageWith (scope : Scope) (parts : Styled) : Styled :=
  match parts with
  | [] => scope.usage
  | parts => scope.usageOf (parts ++ if scope = top then [.plain "<COMMAND>"] else [])

def usageLine (usage : Styled) : Styled :=
  [.heading "Usage:", .plain " "] ++ usage ++ [.plain "\n"]

def parameters : Scope → List Entry
  | help => [⟨[.plain "[COMMAND]..."], "Print help for the subcommand(s)"⟩]
  | _ => []

def helpText (scope : Scope) : Styled :=
  [.plain (scope.about ++ "\n\n")] ++ usageLine scope.usage ++
    Entry.titled "Commands"
      (scope.commands.map fun (word, inner) => ⟨[.literal word], inner.about⟩) ++
    Entry.titled "Arguments" scope.parameters ++
    Entry.titled "Options" (scope.flags.map Flag.entry)

/-- Where to look for more; the help command has no help flag of its own. -/
def pointer : Scope → Styled
  | help => []
  | _ => [.plain "\nFor more information, try '", .literal Flag.help.spelling, .plain "'.\n"]

end Scope

def versionText : Styled :=
  [.plain "nimbus 0.1.0\n"]

end VmLifecycle.CommandLine
