import VmLifecycle.Proofs.Disk.Release
import VmLifecycle.Proofs.Run.Result
import VmLifecycle.Proofs.Stop.Refusal

namespace VmLifecycle

/-!
A command for the state and a stop without force begin with the same probe. Each reads the answer
on its own, and they agree on what it says.
-/

theorem Tool.mergedAnswer_error {tool : Tool} {host : Host} {args : List String} {error : Error}
    (hstatus : (tool.mergedAnswer host args).status = .error error) : ¬ error.TellsState := by
  rcases run_cases tool host args with ⟨cause, hrun⟩ | ⟨call, hrun, -⟩
  · rw [mergedAnswer, hrun] at hstatus
    cases hstatus
    exact id
  · simp only [mergedAnswer, hrun, check] at hstatus
    split at hstatus
    · cases hstatus
    · cases hstatus
      exact id

theorem Tool.answer_error {tool : Tool} {host : Host} {args : List String} {error : Error}
    (hanswer : tool.answer host args = .error error) : ¬ error.TellsState := by
  rw [answer_eq_map] at hanswer
  cases hstatus : (tool.mergedAnswer host args).status with
  | error cause =>
      rw [hstatus] at hanswer
      cases hanswer
      exact mergedAnswer_error hstatus
  | ok _ =>
      rw [hstatus] at hanswer
      cases hanswer

theorem Tool.calls_of_one (tool : Tool) (host : Host) (args : List String) :
    ([args].filterMap (tool.call? host)).map (·.args) <+: [args] := by
  cases hcall : tool.call? host args with
  | none => simp [hcall]
  | some call => simp [hcall, args_of_call? hcall]

theorem Disk.Course.error_of_tool {name : String} {given : Stages} {inside : List Event}
    {tool : Tool} {host : Host} {error : Error}
    (course : Course name given inside (.error error))
    (hlisting : given.listing = tool.answer host (listArgs name)) : ¬ error.TellsState := by
  cases course with
  | listingFailed hfailed => exact Tool.answer_error (hlisting.symm.trans hfailed)
  | listingMalformed hlisted hfind => exact id
  | unlockFailed hlisted hfind hholder hstatus => exact id

namespace Command

/-- What the two commands give together, from the answer to their probe: the command for the
state, then the stop with all the commands that it builds. -/
inductive Agree (config : Config) (answer : Except Error Bytes) :
    Except Error (Option Status) → Except Error (Option Status) → List (List String) → Prop
  | running (hlater : ∀ error, result = .error error → ¬ error.TellsState)
      (hlisted : Disk.listArgs config.dataDisk ∈ built) :
      Agree config answer (.ok (some .running)) result built
  | refused (hrefusal : Stop.refusal? config.instanceName told = some error)
      (htells : error.TellsState) :
      Agree config answer (.ok (some told)) (.error error) [Probe.args config.instanceName]
  | failed (hcause : error = .unrecognizedStatus ∨ answer = .error error)
      (hquiet : ¬ error.TellsState) :
      Agree config answer (.error error) (.error error) [Probe.args config.instanceName]

theorem agree_of_admission {config : Config} {tool : Tool} {host : Host}
    {answer : Except Error Bytes}
    (hadmission : (Stop.stagesWith config tool host false).admission config.instanceName false =
      .ok ()) :
    Agree config answer (.ok (some .running))
      ((stop false).execute config (tool.gateway host) Tool.State.empty).result
      ((stop false).execute config (tool.gateway host) Tool.State.empty).state.commands := by
  obtain ⟨listed, hlisting, course⟩ := Stop.stagesWith_inside config tool host false
  have hinside := course.args_eq
  have hcommand := Stop.stagesWith_command config tool host false
  rw [result_stop, commands_stop, Stop.Stages.verdict, Stop.Stages.issued, hadmission]
  generalize Stop.stagesWith config tool host false = given at *
  apply Agree.running
  · intro error herror
    cases hdetach : given.detach with
    | error cause =>
        rw [hdetach] at course herror
        cases herror
        exact course.error_of_tool hlisting
    | ok _ =>
        rw [hdetach] at herror
        cases hstatus : given.command.status with
        | error cause =>
            rw [hstatus] at herror
            cases herror
            rw [hcommand] at hstatus
            exact Tool.mergedAnswer_error hstatus
        | ok _ =>
            rw [hstatus] at herror
            cases herror
  · rw [hinside]
    cases given.detach with
    | error cause => simp
    | ok _ => simp

theorem agree_of_refusal {config : Config} {tool : Tool} {host : Host} {error : Error}
    (hadmission : (Stop.stagesWith config tool host false).admission config.instanceName false =
      .error error) :
    ((stop false).execute config (tool.gateway host) Tool.State.empty).result = .error error ∧
      ((stop false).execute config (tool.gateway host) Tool.State.empty).state.commands =
        [Probe.args config.instanceName] := by
  rw [result_stop, commands_stop, Stop.Stages.verdict, Stop.Stages.issued, hadmission]
  exact ⟨rfl, rfl⟩

theorem agree (config : Config) (tool : Tool) (host : Host) :
    Agree config (tool.answer host (Probe.args config.instanceName))
      (status.execute config (tool.gateway host) Tool.State.empty).result
      ((stop false).execute config (tool.gateway host) Tool.State.empty).result
      ((stop false).execute config (tool.gateway host) Tool.State.empty).state.commands := by
  have hprobe := Stop.stagesWith_probe config tool host false
  rw [result_status, Tool.told]
  cases hanswer : tool.answer host (Probe.args config.instanceName) with
  | error error =>
      have hadmission : (Stop.stagesWith config tool host false).admission
          config.instanceName false = .error error := by
        simp [Stop.Stages.admission, hprobe, hanswer]
      obtain ⟨hresult, hbuilt⟩ := agree_of_refusal hadmission
      rw [hresult, hbuilt]
      exact .failed (.inr rfl) (Tool.answer_error hanswer)
  | ok bytes =>
      have hadmission : (Stop.stagesWith config tool host false).admission
          config.instanceName false =
            Stop.Stages.ofWord config.instanceName (Probe.shown bytes) := by
        simp [Stop.Stages.admission, hprobe, hanswer, Probe.shown]
      simp only [Except.map]
      cases hrefusal : Stop.refusal? config.instanceName
          (Status.classify (Probe.shown bytes)) with
      | none =>
          have hrunning := Stop.refusal?_eq_none_iff.mp hrefusal
          rw [hrunning]
          apply agree_of_admission
          rw [hadmission, Stop.Stages.ofWord_eq_ok_iff]
          exact Status.classify_eq_running_iff.mp hrunning
      | some error =>
          rw [Stop.Stages.ofWord_of_refusal hrefusal] at hadmission
          obtain ⟨hresult, hbuilt⟩ := agree_of_refusal hadmission
          rw [hresult, hbuilt]
          generalize Status.classify (Probe.shown bytes) = told at hrefusal
          cases told with
          | running => cases hrefusal
          | stopped =>
              have htells : error.TellsState := by cases hrefusal; exact trivial
              exact .refused hrefusal htells
          | nonexistent =>
              have htells : error.TellsState := by cases hrefusal; exact trivial
              exact .refused hrefusal htells
          | unrecognized =>
              cases hrefusal
              exact .failed (.inl rfl) id

namespace Agree

variable {config : Config} {answer : Except Error Bytes}
  {shown result : Except Error (Option Status)} {built : List (List String)}

theorem running_iff (agree : Agree config answer shown result built) :
    shown = .ok (some .running) ↔ Disk.listArgs config.dataDisk ∈ built := by
  cases agree with
  | running hlater hlisted => simp [hlisted]
  | @refused told error hrefusal htells =>
      have htold : told ≠ .running := by
        rintro rfl
        cases hrefusal
      simp [htold, Disk.listArgs, Probe.args]
  | failed hcause hquiet => simp [Disk.listArgs, Probe.args]

theorem built_of_unlisted (agree : Agree config answer shown result built)
    (hunlisted : Disk.listArgs config.dataDisk ∉ built) :
    built = [Probe.args config.instanceName] := by
  cases agree with
  | running hlater hlisted => exact absurd hlisted hunlisted
  | refused hrefusal htells => rfl
  | failed hcause hquiet => rfl

theorem refused_iff (agree : Agree config answer shown result built) {status : Status}
    {refusal : Error} (hrefusal : Stop.refusal? config.instanceName status = some refusal)
    (htells : refusal.TellsState) :
    shown = .ok (some status) ↔
      ∃ error, result = .error error ∧ error.message = refusal.message := by
  cases agree with
  | running hlater hlisted =>
      refine iff_of_false ?_ ?_
      · rintro ⟨⟩
        cases hrefusal
      · rintro ⟨error, herror, hmessage⟩
        exact Error.message_ne_of_quiet (hlater error herror) htells hmessage
  | @refused other error hother hothers =>
      constructor
      · rintro ⟨⟩
        rw [hrefusal] at hother
        cases hother
        exact ⟨refusal, rfl, rfl⟩
      · rintro ⟨_, ⟨⟩, hmessage⟩
        rw [(Stop.eq_of_refusal_message hother hrefusal hothers htells hmessage).2]
  | failed hcause hquiet =>
      refine iff_of_false nofun ?_
      rintro ⟨_, ⟨⟩, hmessage⟩
      exact Error.message_ne_of_quiet hquiet htells hmessage

theorem failed_of_unshown (agree : Agree config answer shown result built)
    (hunshown : ∀ status, status ≠ .unrecognized → shown ≠ .ok (some status)) :
    ∃ error, shown = .error error ∧ result = .error error ∧
      (error = .unrecognizedStatus ∨ answer = .error error) := by
  cases agree with
  | running hlater hlisted => exact absurd rfl (hunshown .running (by decide))
  | @refused told error hrefusal htells =>
      refine absurd rfl (hunshown told ?_)
      rintro rfl
      cases hrefusal
      cases htells
  | @failed error hcause hquiet => exact ⟨error, rfl, rfl, hcause⟩

end Agree

end Command

namespace Report

/-- A run that ends well and whose last line of output is a word. -/
def Prints (report : Report) (word : String) : Prop :=
  report.exitCode = 0 ∧
    ∃ log, (log = "" ∨ ∃ earlier, log = earlier ++ "\n") ∧ report.stdout = log ++ word ++ "\n"

theorem log_ends_line (isColored : Bool) (time : String) (level : Level)
    (records : List Record) :
    log isColored time level records = "" ∨
      ∃ earlier, log isColored time level records = earlier ++ "\n" := by
  rw [log]
  rcases List.eq_nil_or_concat (records.filter (·.isShown level)) with
    hnone | ⟨before, last, hshown⟩
  · rw [hnone]
    exact .inl rfl
  · rw [hshown, List.concat_eq_append, List.map_append, String.join_append, List.map_singleton,
      String.join_cons, String.join_nil, String.append_empty]
    exact .inr ⟨_, String.append_assoc.symm⟩

theorem eq_of_last_letter {first second : Status} (hfirst : first ≠ .unrecognized)
    (hsecond : second ≠ .unrecognized)
    (hlast : first.word.toList.getLast? = second.word.toList.getLast?) : first = second := by
  revert hlast
  cases first <;> cases second <;> first | contradiction | decide

theorem Prints.unique {report : Report} {first second : Status}
    (prints : report.Prints first.word) (others : report.Prints second.word)
    (hfirst : first ≠ .unrecognized) (hsecond : second ≠ .unrecognized) : first = second := by
  obtain ⟨-, log, -, hlog⟩ := prints
  obtain ⟨-, other, -, hother⟩ := others
  have hsame : log ++ first.word = other ++ second.word :=
    (String.append_left_inj "\n").mp (hlog.symm.trans hother)
  -- Whatever stands before them, the words of two states differ in their last letters.
  have hword (status : Status) (before : Option Char) :
      status.word.toList.getLast?.or before = status.word.toList.getLast? := by
    cases status <;> rfl
  have hlast := congrArg (fun text : String => text.toList.getLast?) hsame
  simp only [String.toList_append, List.getLast?_append, hword] at hlast
  exact eq_of_last_letter hfirst hsecond hlast

theorem prints_iff {environment : String → Option Bytes} {host : Host} {status : Status}
    (hknown : status ≠ .unrecognized) (isColored isVerbose : Bool) (time : String) :
    (ofExecution isColored isVerbose time (execute environment host .status)).Prints
        status.word ↔
      (execute environment host .status).result = .ok (some status) := by
  cases hresult : (execute environment host .status).result with
  | error error =>
      refine iff_of_false ?_ nofun
      rintro ⟨hexit, -⟩
      obtain ⟨shown, hok⟩ := (ofExecution_exit_iff _ _ _ _).mp hexit
      rw [hresult] at hok
      cases hok
  | ok shown =>
      rcases shown_of_execute hresult with ⟨_, hstop, -⟩ | ⟨told, -, htold, rfl⟩
      · cases hstop
      · have prints : (ofExecution isColored isVerbose time
            (execute environment host .status)).Prints told.word := by
          rw [ofExecution, hresult]
          exact ⟨rfl, _, log_ends_line _ _ _ _, rfl⟩
        constructor
        · intro others
          rw [prints.unique others htold hknown]
        · intro hsame
          cases hsame
          exact prints

end Report

section Run

variable {environment : String → Option Bytes} {host : Host} {time later : String}
  {asking stopping : List String} {isVerbose isWordy : Bool}

theorem run_prints_iff {config : Config} {status : Status} (hknown : status ≠ .unrecognized)
    (hasking : CommandLine.parse asking = .ok ⟨.status, isVerbose⟩)
    (hconfig : Config.ofLookup (Config.textLookup environment) = .ok config) :
    (run asking environment host time).Prints status.word ↔
      (Command.status.execute config
        ((Tool.ofConfig config).gateway
          { host with home := environment Config.toolHomeVariable })
        Tool.State.empty).result = .ok (some status) := by
  rw [run_of_line hasking, Report.prints_iff hknown, Report.execute_of_config hconfig]

/-- A command for the state and a stop without force, on the same host in the same environment. The
first prints that the instance is running exactly when the second goes on to list the disk, and
that it is stopped or does not exist exactly when the second fails with that; in every other case
both fail with the same message. The first runs the tool for its probe alone, and the second runs
nothing else unless it goes on. -/
theorem status_and_stop_agree
    (hasking : CommandLine.parse asking = .ok ⟨.status, isVerbose⟩)
    (hstopping : CommandLine.parse stopping = .ok ⟨.stop false, isWordy⟩) :
    let told := run asking environment host time
    let stopped := run stopping environment host later
    (∀ fault, Config.ofLookup (Config.textLookup environment) = .error fault →
      told.FailsWith fault.toError.message ∧ stopped.FailsWith fault.toError.message ∧
        told.calls = [] ∧ stopped.calls = []) ∧
    ∀ config, Config.ofLookup (Config.textLookup environment) = .ok config →
      let name := config.instanceName
      let tool := Tool.ofConfig config
      let inheriting := { host with home := environment Config.toolHomeVariable }
      let probe := ["ls", "-f", "\x7b\x7b.Status\x7d\x7d", name.text]
      let listing := ["disk", "ls", config.dataDisk, "--json"]
      let built := ((Command.stop false).execute config (tool.gateway inheriting)
        Tool.State.empty).state.commands
      (told.Prints "Running" ↔ listing ∈ built) ∧
      (told.Prints "Stopped" ↔
        stopped.FailsWith ("the instance \"" ++ name.text ++ "\" is already stopped")) ∧
      (told.Prints "Nonexistent" ↔
        stopped.FailsWith ("the instance \"" ++ name.text ++ "\" does not exist")) ∧
      (¬ told.Prints "Running" → ¬ told.Prints "Stopped" → ¬ told.Prints "Nonexistent" →
        ∃ error, told.FailsWith error.message ∧ stopped.FailsWith error.message ∧
          (error = .unrecognizedStatus ∨
            tool.answer inheriting probe = .error error)) ∧
      told.calls.map (·.args) <+: [probe] ∧
      (listing ∉ built → told.calls = stopped.calls) := by
  intro told stopped
  refine ⟨?_, ?_⟩
  · intro fault hfault
    exact ⟨run_failsWith_of_fault hasking hfault, run_failsWith_of_fault hstopping hfault,
      run_calls_of_fault hfault, run_calls_of_fault hfault⟩
  · intro config hconfig name tool inheriting probe listing built
    have agree := Command.agree config tool inheriting
    have hprints (status : Status) (hknown : status ≠ .unrecognized) :
        told.Prints status.word ↔ _ := run_prints_iff hknown hasking hconfig
    have hcalls : told.calls = _ := run_calls_eq hasking hconfig
    rw [Command.commands_status] at hcalls
    refine ⟨?_, ?_, ?_, ?_, ?_, ?_⟩
    · exact (hprints .running (by decide)).trans agree.running_iff
    · rw [← Error.message_alreadyStopped, run_failsWith_iff hstopping hconfig]
      exact (hprints .stopped (by decide)).trans (agree.refused_iff rfl trivial)
    · rw [← Error.message_notExist, run_failsWith_iff hstopping hconfig]
      exact (hprints .nonexistent (by decide)).trans (agree.refused_iff rfl trivial)
    · intro hrunning hidle hmissing
      have hunshown (status : Status) (hknown : status ≠ .unrecognized) :
          (Command.status.execute config (tool.gateway inheriting)
            Tool.State.empty).result ≠ .ok (some status) := by
        intro hshown
        have prints := (hprints status hknown).mpr hshown
        cases status with
        | running => exact hrunning prints
        | stopped => exact hidle prints
        | nonexistent => exact hmissing prints
        | unrecognized => exact hknown rfl
      obtain ⟨error, hshown, hresult, hcause⟩ := agree.failed_of_unshown hunshown
      exact ⟨error, (run_failsWith_iff hasking hconfig).mpr ⟨error, hshown, rfl⟩,
        (run_failsWith_iff hstopping hconfig).mpr ⟨error, hresult, rfl⟩, hcause⟩
    · rw [hcalls]
      exact tool.calls_of_one inheriting _
    · intro hunlisted
      rw [hcalls, ← agree.built_of_unlisted hunlisted]
      exact (run_calls_eq hstopping hconfig).symm

end Run

def idleHost : Host where
  start _ := .ok ()
  behaviour := Host.lookUp
    [(Probe.args .standard, { writes := [.out (Utf8.encode " Stopped\n")] })]

theorem idle_instance_agreed :
    let told := run ["status", "--verbose"] (fun _ => none) idleHost "now"
    let stopped := run ["stop"] (fun _ => none) idleHost "later"
    CommandLine.parse ["status", "--verbose"] = .ok ⟨.status, true⟩ ∧
      CommandLine.parse ["stop"] = .ok ⟨.stop false, false⟩ ∧
      told.Prints "Stopped" ∧
      stopped.FailsWith "the instance \"nimbus\" is already stopped" ∧
      told.calls.length = 1 ∧ told.calls = stopped.calls := by
  intro told stopped
  have hasking : CommandLine.parse ["status", "--verbose"] = .ok ⟨.status, true⟩ := rfl
  have hstopping : CommandLine.parse ["stop"] = .ok ⟨.stop false, false⟩ := rfl
  have hconfig : Config.ofLookup (Config.textLookup fun _ => none) = .ok .standard := rfl
  obtain ⟨-, hstopped, -, -, -, hcalls⟩ :=
    (status_and_stop_agree hasking hstopping).2 .standard hconfig
  have hfails : stopped.FailsWith "the instance \"nimbus\" is already stopped" :=
    ⟨by decide +kernel, by decide +kernel⟩
  refine ⟨hasking, hstopping, hstopped.mpr hfails, hfails, by decide +kernel, ?_⟩
  exact hcalls (by decide +kernel)

end VmLifecycle
