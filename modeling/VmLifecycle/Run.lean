import VmLifecycle.CommandLine.Parser
import VmLifecycle.Disk.Manager
import VmLifecycle.Gateway.Tool
import VmLifecycle.Log.Line
import VmLifecycle.Stop

namespace VmLifecycle

/-- What the user sees of a run, and the runs of the tool. -/
structure Report where
  exitCode : UInt8
  stdout : String
  stderr : String
  calls : List Call

namespace Command

def stoppingRecord (config : Config) (isForced : Bool) : Record where
  level := .debug
  message := "Stopping virtual machine"
  fields := [("instance", config.instanceName.text), ("force", toString isForced)]

/-- Carries out a command; a state is shown to the user unless it is unrecognized. -/
def execute (config : Config) (gateway : Gateway σ) : Command → Control σ (Option Status)
  | stop isForced => do
      Control.log (stoppingRecord config isForced)
      Stop.run ⟨config.instanceName⟩ gateway (Disk.detach gateway config.dataDisk) isForced
      return none
  | status => do
      match ← Probe.run ⟨config.instanceName⟩ gateway with
      | .unrecognized => Control.fail .unrecognizedStatus
      | shown => return some shown

end Command

namespace Report

structure Execution where
  result : Except Error (Option Status)
  records : List Record
  calls : List Call

def execute (environment : String → Option Bytes) (host : Host) (command : Command) : Execution :=
  match Config.load (Config.textLookup environment) with
  | (.error error, records) => ⟨.error error, records, []⟩
  | (.ok config, records) =>
      let gateway := (Tool.ofConfig config).gateway host
      let outcome := command.execute config gateway Tool.State.empty
      ⟨outcome.result, records ++ Event.recordsOf outcome.trace, outcome.state.calls⟩

def plainVariable : String := "NO_COLOR"

def colorVariable : String := "CLICOLOR_FORCE"

/-- The log is in colors unless the variable against them is a text that is not empty. -/
def colorsLog (environment : String → Option Bytes) : Bool :=
  match Config.textLookup environment plainVariable with
  | none => true
  | some value => value.isEmpty

def isGiven (environment : String → Option Bytes) (name : String) : Bool :=
  match environment name with
  | none => false
  | some value => !value.isEmpty

def colorsUsage (environment : String → Option Bytes) : Bool :=
  isGiven environment colorVariable && !isGiven environment plainVariable

def upTo (isVerbose : Bool) : Level :=
  if isVerbose then .debug else .info

def log (isColored : Bool) (time : String) (level : Level) (records : List Record) : String :=
  String.join ((records.filter (·.isShown level)).map (Record.line isColored time))

def ofExecution (isColored isVerbose : Bool) (time : String) (execution : Execution) : Report :=
  let log := log isColored time (upTo isVerbose) execution.records
  match execution.result with
  | .ok none => ⟨0, log, "", execution.calls⟩
  | .ok (some status) => ⟨0, log ++ status.word ++ "\n", "", execution.calls⟩
  | .error error => ⟨1, log, "❌ Error: " ++ error.message ++ "\n", execution.calls⟩

def ofRefusal (isColored : Bool) (refusal : CommandLine.Refusal) : Report :=
  let message :=
    if isColored then refusal.message.colored else refusal.message.stripped .stream
  if refusal.isRequest then ⟨refusal.exitCode, message, "", []⟩
  else ⟨refusal.exitCode, "", message, []⟩

end Report

/-- Runs the program; `time` stands at the head of every log line. The tool inherits the home
directory of the environment unless the configuration sets one. -/
def run (arguments : List String) (environment : String → Option Bytes) (host : Host)
    (time : String) : Report :=
  match CommandLine.parse arguments with
  | .error refusal => .ofRefusal (Report.colorsUsage environment) refusal
  | .ok line =>
      let inheriting := { host with home := environment Config.toolHomeVariable }
      .ofExecution (Report.colorsLog environment) line.isVerbose time
        (Report.execute environment inheriting line.command)

end VmLifecycle
