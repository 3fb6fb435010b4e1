import VmLifecycle.Proofs.Run.Calls
import VmLifecycle.Proofs.Stop.Verdict

namespace VmLifecycle

def Tool.told (tool : Tool) (host : Host) (name : InstanceName) : Except Error Status :=
  (tool.answer host (Probe.args name)).map fun bytes => Status.classify (Probe.shown bytes)

theorem Probe.result_run (probe : Probe) (tool : Tool) (host : Host) (state : Tool.State) :
    (probe.run (tool.gateway host) state).result = tool.told host probe.instanceName := by
  have hgiven : ((tool.gateway host).outputOf (args probe.instanceName) state).1 =
      tool.answer host (args probe.instanceName) :=
    (Tool.outputOf_gateway state).1
  cases hanswer : tool.answer host (args probe.instanceName) with
  | error error =>
      rw [run_of_error (hgiven.trans hanswer), Tool.told, hanswer]
      rfl
  | ok bytes =>
      rw [run_of_ok (hgiven.trans hanswer), Tool.told, hanswer]
      rfl

def Stop.stagesWith (config : Config) (tool : Tool) (host : Host) (isForced : Bool) : Stages :=
  stages ⟨config.instanceName⟩ (tool.gateway host)
    (Disk.detach (tool.gateway host) config.dataDisk) isForced Tool.State.empty

namespace Command

variable (config : Config) (tool : Tool) (host : Host) (isForced : Bool)

theorem result_status :
    (status.execute config (tool.gateway host) Tool.State.empty).result =
      match tool.told host config.instanceName with
      | .error error => .error error
      | .ok .unrecognized => .error .unrecognizedStatus
      | .ok shown => .ok (some shown) := by
  rw [execute, ← Probe.result_run ⟨config.instanceName⟩ tool host Tool.State.empty]
  cases hresult : (Probe.run ⟨config.instanceName⟩ (tool.gateway host)
      Tool.State.empty).result with
  | error error => rw [Control.bind_of_error hresult]
  | ok shown =>
      rw [Control.bind_of_ok hresult]
      cases shown with
      | running => rfl
      | stopped => rfl
      | nonexistent => rfl
      | unrecognized => rfl

theorem commands_status :
    (status.execute config (tool.gateway host) Tool.State.empty).state.commands =
      [Probe.args config.instanceName] := by
  rw [(execute_faithful config status).built, trace_status, Probe.commandsOf_run]
  rfl

theorem result_stop :
    ((stop isForced).execute config (tool.gateway host) Tool.State.empty).result =
      ((Stop.stagesWith config tool host isForced).verdict config.instanceName
        isForced).map fun _ => none := by
  have course := Stop.run_course ⟨config.instanceName⟩ (tool.gateway host)
    (Disk.detach (tool.gateway host) config.dataDisk) isForced Tool.State.empty
  rw [execute, Control.bind_of_ok rfl, Control.log_apply, Stop.stagesWith, ← course.result_eq]
  cases hresult : (Stop.run ⟨config.instanceName⟩ (tool.gateway host)
      (Disk.detach (tool.gateway host) config.dataDisk) isForced Tool.State.empty).result with
  | error error =>
      rw [Control.bind_of_error hresult]
      rfl
  | ok _ =>
      rw [Control.bind_of_ok hresult]
      rfl

theorem commands_stop :
    ((stop isForced).execute config (tool.gateway host) Tool.State.empty).state.commands =
      (Stop.stagesWith config tool host isForced).issued config.instanceName isForced := by
  have course := Stop.run_course ⟨config.instanceName⟩ (tool.gateway host)
    (Disk.detach (tool.gateway host) config.dataDisk) isForced Tool.State.empty
  rw [(execute_faithful config (stop isForced)).built, commandsOf_stop, course.args_eq]
  rfl

end Command

namespace Stop

variable (config : Config) (tool : Tool) (host : Host) (isForced : Bool)

theorem stagesWith_probe :
    (stagesWith config tool host isForced).probe =
      tool.answer host (Probe.args config.instanceName) :=
  (Tool.outputOf_gateway _).1

theorem stagesWith_command :
    (stagesWith config tool host isForced).command =
      tool.mergedAnswer host (args config.instanceName isForced) :=
  (Tool.combinedOf_gateway _).1

theorem stagesWith_inside :
    ∃ given : Disk.Stages,
      given.listing = tool.answer host (Disk.listArgs config.dataDisk) ∧
      Disk.Course config.dataDisk given (stagesWith config tool host isForced).inside
        (stagesWith config tool host isForced).detach :=
  ⟨_, (Tool.outputOf_gateway _).1, Disk.detach_course _ _ _⟩

end Stop

namespace Report

/-- A run that fails, and says why on its error stream. -/
def FailsWith (report : Report) (message : String) : Prop :=
  report.exitCode = 1 ∧ report.stderr = "❌ Error: " ++ message ++ "\n"

section Execute

variable {environment : String → Option Bytes} {host : Host} {command : Command}

theorem execute_of_fault {fault : NameFault}
    (hfault : Config.ofLookup (Config.textLookup environment) = .error fault) :
    execute environment host command = ⟨.error fault.toError, [], []⟩ := by
  simp only [execute, Config.load, hfault]

theorem execute_of_config {config : Config}
    (hconfig : Config.ofLookup (Config.textLookup environment) = .ok config) :
    execute environment host command =
      let outcome := command.execute config ((Tool.ofConfig config).gateway host)
        Tool.State.empty
      ⟨outcome.result, config.loadedRecord :: Event.recordsOf outcome.trace,
        outcome.state.calls⟩ := by
  simp only [execute, Config.load, hconfig]
  rfl

theorem shown_of_execute {shown : Option Status}
    (hresult : (execute environment host command).result = .ok shown) :
    (∃ isForced, command = .stop isForced ∧ shown = none) ∨
      ∃ status, command = .status ∧ status ≠ .unrecognized ∧ shown = some status := by
  cases hconfig : Config.ofLookup (Config.textLookup environment) with
  | error fault =>
      rw [execute_of_fault hconfig] at hresult
      cases hresult
  | ok config =>
      rw [execute_of_config hconfig] at hresult
      cases command with
      | stop isForced =>
          simp only [Command.result_stop] at hresult
          cases hverdict : (Stop.stagesWith config (Tool.ofConfig config) host
              isForced).verdict config.instanceName isForced with
          | error error =>
              rw [hverdict] at hresult
              cases hresult
          | ok _ =>
              rw [hverdict] at hresult
              cases hresult
              exact .inl ⟨isForced, rfl, rfl⟩
      | status =>
          simp only [Command.result_status] at hresult
          split at hresult
          · cases hresult
          · cases hresult
          · next status hrecognized htold =>
              cases hresult
              exact .inr ⟨status, rfl, hrecognized, rfl⟩

end Execute

section OfExecution

variable (isColored isVerbose : Bool) (time : String) (execution : Execution)

theorem ofExecution_ending :
    let report := ofExecution isColored isVerbose time execution
    (∃ shown, execution.result = .ok shown ∧ report.exitCode = 0 ∧ report.stderr = "") ∨
      ∃ error, execution.result = .error error ∧ report.FailsWith error.message := by
  intro report
  simp only [report, ofExecution]
  cases execution.result with
  | error error => exact .inr ⟨error, rfl, rfl, rfl⟩
  | ok shown =>
      cases shown with
      | none => exact .inl ⟨none, rfl, rfl, rfl⟩
      | some status => exact .inl ⟨some status, rfl, rfl, rfl⟩

theorem ofExecution_exit_iff :
    (ofExecution isColored isVerbose time execution).exitCode = 0 ↔
      ∃ shown, execution.result = .ok shown := by
  rcases ofExecution_ending isColored isVerbose time execution with
    ⟨shown, hresult, hexit, -⟩ | ⟨error, hresult, hexit, -⟩
  · simp [hresult, hexit]
  · simp [hresult, hexit]

theorem ofExecution_failsWith_iff {message : String} :
    (ofExecution isColored isVerbose time execution).FailsWith message ↔
      ∃ error, execution.result = .error error ∧ error.message = message := by
  rcases ofExecution_ending isColored isVerbose time execution with
    ⟨shown, hresult, hexit, -⟩ | ⟨error, hresult, hexit, hstderr⟩
  · simp [FailsWith, hresult, hexit]
  · simp [FailsWith, hresult, hexit, hstderr]

end OfExecution

end Report

section Run

variable {arguments : List String} {environment : String → Option Bytes} {host : Host}
  {time : String} {command : Command} {isVerbose : Bool}

theorem run_of_line (hline : CommandLine.parse arguments = .ok ⟨command, isVerbose⟩) :
    run arguments environment host time =
      .ofExecution (Report.colorsLog environment) isVerbose time
        (Report.execute environment
          { host with home := environment Config.toolHomeVariable } command) := by
  simp only [run, hline]

theorem run_failsWith_iff {config : Config} {message : String}
    (hline : CommandLine.parse arguments = .ok ⟨command, isVerbose⟩)
    (hconfig : Config.ofLookup (Config.textLookup environment) = .ok config) :
    (run arguments environment host time).FailsWith message ↔
      ∃ error,
        (command.execute config
          ((Tool.ofConfig config).gateway
            { host with home := environment Config.toolHomeVariable })
          Tool.State.empty).result = .error error ∧ error.message = message := by
  rw [run_of_line hline, Report.ofExecution_failsWith_iff, Report.execute_of_config hconfig]

theorem run_failsWith_of_fault {fault : NameFault}
    (hline : CommandLine.parse arguments = .ok ⟨command, isVerbose⟩)
    (hfault : Config.ofLookup (Config.textLookup environment) = .error fault) :
    (run arguments environment host time).FailsWith fault.toError.message := by
  rw [run_of_line hline, Report.ofExecution_failsWith_iff, Report.execute_of_fault hfault]
  exact ⟨_, rfl, rfl⟩

theorem run_calls_eq {config : Config}
    (hline : CommandLine.parse arguments = .ok ⟨command, isVerbose⟩)
    (hconfig : Config.ofLookup (Config.textLookup environment) = .ok config) :
    let tool := Tool.ofConfig config
    let inheriting := { host with home := environment Config.toolHomeVariable }
    (run arguments environment host time).calls =
      (command.execute config (tool.gateway inheriting)
        Tool.State.empty).state.commands.filterMap (tool.call? inheriting) := by
  intro tool inheriting
  rw [run_calls_of_config hline hconfig]
  exact (Command.execute_faithful config command).calls_eq

end Run

end VmLifecycle
