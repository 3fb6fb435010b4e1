import VmLifecycle.Proofs.Disk.Release
import VmLifecycle.Proofs.Run.Result
import VmLifecycle.Proofs.Tool.Meaning

namespace VmLifecycle

theorem Disk.Course.head_of_args {name : String} {given : Stages} {inside : List Event}
    {result : Except Error Unit} (course : Course name given inside result)
    {command : List String} (hcommand : command ∈ (Event.commandsOf inside).map (·.1)) :
    command.head? = some "disk" := by
  rw [course.args_eq] at hcommand
  rcases List.mem_cons.mp hcommand with rfl | hunlock
  · rfl
  · split at hunlock
    · rw [List.mem_singleton.mp hunlock]
      rfl
    · cases hunlock

theorem Stop.stop_mem_issued_iff {config : Config} {tool : Tool} {host : Host}
    {isForced : Bool} :
    let given := stagesWith config tool host isForced
    args config.instanceName isForced ∈ given.issued config.instanceName isForced ↔
      given.admission config.instanceName isForced = .ok () ∧ given.detach = .ok () := by
  intro given
  have hhead : (args config.instanceName isForced).head? = some "stop" := by
    cases isForced <;> rfl
  have hentry : args config.instanceName isForced ∉
      if isForced then [] else [Probe.args config.instanceName] := by
    cases isForced <;> simp [args, Probe.args]
  have hinside : args config.instanceName isForced ∉
      (Event.commandsOf given.inside).map (·.1) := by
    intro hdisk
    obtain ⟨_, -, course⟩ := stagesWith_inside config tool host isForced
    have hother := course.head_of_args hdisk
    rw [hhead] at hother
    exact absurd hother (by decide)
  rw [Stages.issued, List.mem_append, or_iff_right hentry]
  cases given.admission config.instanceName isForced with
  | error error => simp
  | ok _ =>
      cases given.detach with
      | error error => simpa using hinside
      | ok _ => simp

theorem Command.stop_ok_iff_stages (config : Config) (isForced : Bool) (tool : Tool)
    (host : Host) :
    let given := Stop.stagesWith config tool host isForced
    ((stop isForced).execute config (tool.gateway host) Tool.State.empty).result = .ok none ↔
      given.admission config.instanceName isForced = .ok () ∧ given.detach = .ok () ∧
        given.command.status = .ok () := by
  intro given
  rw [result_stop, ← Stop.Stages.verdict_eq_ok_iff_stages]
  cases given.verdict config.instanceName isForced with
  | error error => simp [Except.map]
  | ok _ => simp [Except.map]

theorem Command.stop_ok_iff (config : Config) (isForced : Bool) (tool : Tool) (host : Host) :
    let outcome := (stop isForced).execute config (tool.gateway host) Tool.State.empty
    outcome.result = .ok none ↔
      ∃ call, outcome.state.calls.getLast? = some call ∧
        call.args = Stop.args config.instanceName isForced ∧
        (host.behaviour call.args).ending = .exit 0 := by
  intro outcome
  have faithful : tool.Faithful host ((stop isForced).execute config (tool.gateway host)) :=
    execute_faithful config (stop isForced)
  have hcalls : outcome.state.calls = _ := faithful.calls_eq
  refine (stop_ok_iff_stages config isForced tool host).trans ?_
  rw [hcalls, commands_stop, Stop.stagesWith_command, Tool.mergedAnswer_status_eq_ok_iff]
  constructor
  · rintro ⟨hadmission, hdetach, ⟨call, hcall⟩, hending⟩
    refine ⟨call, ?_, Tool.args_of_call? hcall, ?_⟩
    · rw [Stop.Stages.issued, hadmission, hdetach]
      simp [hcall]
    · rw [Tool.args_of_call? hcall]
      exact hending
  · -- The last run shows that the stop command was issued, and so that all before it went well.
    rintro ⟨call, hlast, hargs, hending⟩
    obtain ⟨command, hissued, hcall⟩ := List.mem_filterMap.mp (List.mem_of_getLast? hlast)
    have hsame : command = Stop.args config.instanceName isForced :=
      (Tool.args_of_call? hcall).symm.trans hargs
    rw [hsame] at hissued hcall
    rw [hargs] at hending
    obtain ⟨hadmission, hdetach⟩ := Stop.stop_mem_issued_iff.mp hissued
    exact ⟨hadmission, hdetach, ⟨call, hcall⟩, hending⟩

theorem Probe.shownRecords_run (probe : Probe) (tool : Tool) (host : Host) (state : Tool.State) :
    Event.shownRecords (probe.run (tool.gateway host) state).trace = [] := by
  cases hanswer : ((tool.gateway host).outputOf (args probe.instanceName) state).1 with
  | error error =>
      rw [run_of_error hanswer]
      simp [Event.shownRecords, Tool.shown_outputOf]
  | ok bytes =>
      have hhidden : (statusRecord (shown bytes)).isShown .info = false := rfl
      rw [run_of_ok hanswer]
      simp [Event.shownRecords, Tool.shown_outputOf, hhidden]

namespace Report

theorem shownRecords_of_status {environment : String → Option Bytes} {host : Host} :
    (execute environment host .status).records.filter (·.isShown .info) = [] := by
  cases hconfig : Config.ofLookup (Config.textLookup environment) with
  | error fault => rw [execute_of_fault hconfig]; rfl
  | ok config =>
      rw [execute_of_config hconfig]
      simp only [Command.trace_status]
      exact Probe.shownRecords_run ⟨config.instanceName⟩ (Tool.ofConfig config) host
        Tool.State.empty

theorem ofExecution_stdout (isColored isVerbose : Bool) (time : String) (execution : Execution) :
    let report := ofExecution isColored isVerbose time execution
    let log := log isColored time (upTo isVerbose) execution.records
    report.stdout = log ∨
      ∃ status, execution.result = .ok (some status) ∧
        report.stdout = log ++ status.word ++ "\n" := by
  intro report log
  simp only [report, ofExecution]
  cases execution.result with
  | error error => exact .inl rfl
  | ok shown =>
      cases shown with
      | none => exact .inl rfl
      | some status => exact .inr ⟨status, rfl, rfl⟩

theorem ofExecution_of_status (isColored : Bool) (time : String)
    (environment : String → Option Bytes) (host : Host) :
    let report := ofExecution isColored false time (execute environment host .status)
    report.exitCode = 0 ∧ report.stdout ∈ ["Running\n", "Stopped\n", "Nonexistent\n"] ∨
      report.exitCode = 1 ∧ report.stdout = "" := by
  intro report
  have hlog : log isColored time .info (execute environment host .status).records = "" := by
    rw [log, shownRecords_of_status]
    rfl
  simp only [report, ofExecution, upTo, Bool.false_eq_true, if_false, hlog]
  cases hresult : (execute environment host .status).result with
  | error error => exact .inr ⟨rfl, rfl⟩
  | ok shown =>
      rcases shown_of_execute hresult with ⟨_, hstop, -⟩ | ⟨status, -, hrecognized, rfl⟩
      · cases hstop
      · refine .inl ⟨rfl, ?_⟩
        show "" ++ status.word ++ "\n" ∈ _
        cases status with
        | running => decide
        | stopped => decide
        | nonexistent => decide
        | unrecognized => exact absurd rfl hrecognized

theorem execute_stop_ok_iff {environment : String → Option Bytes} {host : Host}
    {isForced : Bool} :
    let given := execute environment host (.stop isForced)
    (∃ shown, given.result = .ok shown) ↔
      ∃ config, Config.ofLookup (Config.textLookup environment) = .ok config ∧
        ∃ call, given.calls.getLast? = some call ∧
          call.args = Stop.args config.instanceName isForced ∧
          (host.behaviour call.args).ending = .exit 0 := by
  intro given
  cases hconfig : Config.ofLookup (Config.textLookup environment) with
  | error fault => simp [given, execute_of_fault hconfig]
  | ok config =>
      have hshown : (∃ shown, given.result = .ok shown) ↔ given.result = .ok none := by
        refine ⟨?_, fun hresult => ⟨none, hresult⟩⟩
        rintro ⟨shown, hresult⟩
        rcases shown_of_execute hresult with ⟨_, -, rfl⟩ | ⟨_, hstatus, -⟩
        · exact hresult
        · cases hstatus
      rw [hshown]
      simp only [given, execute_of_config hconfig, Except.ok.injEq, exists_eq_left']
      exact Command.stop_ok_iff config isForced (Tool.ofConfig config) host

end Report

/-- Of every run: a command line that is refused leads to no run of the tool. Otherwise the program
ends well and silently, or fails with the one error that its command gave; besides its log it prints
at most a state; a stop ends well exactly when the last run of the tool is its stop command and ends
well; and without a wish for more, a command for the state prints one line or nothing. -/
theorem run_exit_and_streams (arguments : List String) (environment : String → Option Bytes)
    (host : Host) (time : String) :
    let report := run arguments environment host time
    (∀ refusal, CommandLine.parse arguments = .error refusal → report.calls = []) ∧
    ∀ command isVerbose, CommandLine.parse arguments = .ok ⟨command, isVerbose⟩ →
      let given := Report.execute environment
        { host with home := environment Config.toolHomeVariable } command
      let log := Report.log (Report.colorsLog environment) time (Report.upTo isVerbose)
        given.records
      ((∃ shown, given.result = .ok shown ∧ report.exitCode = 0 ∧ report.stderr = "") ∨
        ∃ error, given.result = .error error ∧ report.FailsWith error.message) ∧
      (report.stdout = log ∨
        ∃ status, command = .status ∧ status ≠ .unrecognized ∧
          given.result = .ok (some status) ∧ report.stdout = log ++ status.word ++ "\n") ∧
      (∀ isForced, command = .stop isForced →
        (report.exitCode = 0 ↔
          ∃ config, Config.ofLookup (Config.textLookup environment) = .ok config ∧
            ∃ call, report.calls.getLast? = some call ∧
              call.args = (if isForced then ["stop", "--force", config.instanceName.text]
                else ["stop", config.instanceName.text]) ∧
              (host.behaviour call.args).ending = .exit 0)) ∧
      (command = .status → isVerbose = false →
        report.exitCode = 0 ∧ report.stdout ∈ ["Running\n", "Stopped\n", "Nonexistent\n"] ∨
          report.exitCode = 1 ∧ report.stdout = "") := by
  intro report
  refine ⟨fun refusal hrefusal => run_calls_of_refusal hrefusal, ?_⟩
  intro command isVerbose hline given log
  have hreport : report =
      .ofExecution (Report.colorsLog environment) isVerbose time given := run_of_line hline
  rw [hreport]
  refine ⟨Report.ofExecution_ending _ _ _ _, ?_, ?_, ?_⟩
  · rcases Report.ofExecution_stdout _ _ _ given with hlog | ⟨status, hresult, hword⟩
    · exact .inl hlog
    · rcases Report.shown_of_execute hresult with
        ⟨_, -, hnone⟩ | ⟨_, hstatus, hrecognized, hsome⟩
      · cases hnone
      · cases hsome
        exact .inr ⟨status, hstatus, hrecognized, hresult, hword⟩
  · rintro isForced rfl
    rw [Report.ofExecution_exit_iff, Report.ofExecution_calls]
    exact Report.execute_stop_ok_iff
  · rintro rfl rfl
    exact Report.ofExecution_of_status _ _ _ _

theorem held_stop_ends_well :
    let report := run ["stop"] (fun _ => none) (Stop.hostOfListing Stop.heldListing) "now"
    CommandLine.parse ["stop"] = .ok ⟨.stop false, false⟩ ∧
      (∃ call, report.calls.getLast? = some call ∧ call.args = ["stop", "nimbus"]) ∧
      report.exitCode = 0 := by
  intro report
  have hline : CommandLine.parse ["stop"] = .ok ⟨.stop false, false⟩ := rfl
  have hlast : ∃ call, report.calls.getLast? = some call ∧ call.args = ["stop", "nimbus"] :=
    Option.map_eq_some_iff.mp (by decide +kernel)
  refine ⟨hline, hlast, ?_⟩
  obtain ⟨-, -, hstop, -⟩ := (run_exit_and_streams ["stop"] (fun _ => none)
    (Stop.hostOfListing Stop.heldListing) "now").2 _ _ hline
  obtain ⟨call, hcall, hargs⟩ := hlast
  refine (hstop false rfl).mpr ⟨.standard, rfl, call, hcall, hargs, ?_⟩
  rw [hargs]
  decide +kernel

end VmLifecycle
