import VmLifecycle.Config
import VmLifecycle.Gateway
import VmLifecycle.Host
import VmLifecycle.Text.Blank

namespace VmLifecycle

structure Tool where
  program : String
  home : Option String := none
  deriving DecidableEq, Repr

def Tool.ofConfig (config : Config) : Tool where
  program := config.tool.text
  home := config.toolHome.map (·.text)

namespace Tool

structure State where
  commands : List (List String) := []
  calls : List Call := []

def State.empty : State := {}

def commandLine (tool : Tool) (args : List String) : String :=
  " ".intercalate (tool.program :: args)

def runningRecord (tool : Tool) (args : List String) : Record where
  level := .debug
  message := "Running command"
  fields := [("command", tool.commandLine args)]

def runningMergedRecord (tool : Tool) (args : List String) : Record where
  level := .debug
  message := "Running command (combined output)"
  fields := [("command", tool.commandLine args)]

def stderrRecord (stderr : Bytes) : Record where
  level := .trace
  message := "Command stderr"
  fields := [("stderr", trim (Utf8.decodeLossy stderr))]

def reason : Ending → String
  | .exit code => "exit status " ++ toString code.toNat
  | .signal => "terminated by signal"

def check (tool : Tool) (args : List String) (ending : Ending) : Except Error Unit :=
  if ending = .exit 0 then .ok ()
  else .error (.commandFailed (tool.commandLine args) (reason ending))

def build (args : List String) (state : State) : Handle × List Record × State :=
  (state.commands.length, [], { state with commands := state.commands ++ [args] })

def State.args (state : State) (handle : Handle) : List String :=
  state.commands[handle]?.getD []

def State.called (state : State) (call : Call) : State :=
  { state with calls := state.calls ++ [call] }

/-- The standard output of a successful run; what went to the other stream is logged only. -/
def output (tool : Tool) (host : Host) (handle : Handle) (state : State) :
    Except Error Bytes × List Record × State :=
  let args := state.args handle
  match host.run tool.program args tool.home with
  | .error error => (.error (.system error), [tool.runningRecord args], state)
  | .ok (behaviour, call) =>
      let result := (tool.check args behaviour.ending).map fun () => behaviour.stdout
      let stderr := behaviour.stderr
      (result, tool.runningRecord args :: if stderr.isEmpty then [] else [stderrRecord stderr],
        state.called call)

def combinedOutput (tool : Tool) (host : Host) (handle : Handle) (state : State) :
    CombinedOutput × List Record × State :=
  let args := state.args handle
  match host.run tool.program args tool.home with
  | .error error => (.failure [] (.system error), [tool.runningMergedRecord args], state)
  | .ok (behaviour, call) =>
      (⟨behaviour.merged, tool.check args behaviour.ending⟩, [tool.runningMergedRecord args],
        state.called call)

def gateway (tool : Tool) (host : Host) : Gateway State where
  build := build
  output := tool.output host
  combinedOutput := tool.combinedOutput host

end Tool

end VmLifecycle
