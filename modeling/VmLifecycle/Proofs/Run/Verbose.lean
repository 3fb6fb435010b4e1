import VmLifecycle.Proofs.CommandLine.Verbose
import VmLifecycle.Proofs.Run.Result

namespace VmLifecycle

/-!
A run with the verbose flag and the same run without it. The flag gets no further than the log,
where it lets debug records through; nothing else that the run does or writes hangs on it.
-/

namespace Record

theorem isShown_debug_iff {record : Record} :
    record.isShown .debug = true ↔ record.level ≠ .trace := by
  cases hlevel : record.level <;> simp [isShown, Level.rank, hlevel]

theorem isShown_info_iff {record : Record} :
    record.isShown .info = true ↔ record.level ∈ [.error, .warn, .info] := by
  cases hlevel : record.level <;> simp [isShown, Level.rank, hlevel]

end Record

namespace Report

def Execution.shown? (execution : Execution) : Option Status :=
  match execution.result with
  | .ok shown => shown
  | .error _ => none

def text (isColored : Bool) (time : String) (shown : Option Status) (records : List Record) :
    String :=
  String.join (records.map (Record.line isColored time)) ++
    shown.elim "" fun status => status.word ++ "\n"

theorem filter_not_debug (records : List Record) :
    (records.filter (·.isShown .debug)).filter (·.level ≠ .debug) =
      records.filter (·.isShown .info) := by
  rw [List.filter_filter]
  apply List.filter_congr
  intro record _
  rw [Bool.eq_iff_iff, Bool.and_eq_true, decide_eq_true_iff, Record.isShown_debug_iff,
    Record.isShown_info_iff]
  cases record.level <;> simp

section OfExecution

variable (isColored isVerbose : Bool) (time : String) (execution : Execution)

theorem ofExecution_stdout_eq :
    (ofExecution isColored isVerbose time execution).stdout =
      text isColored time execution.shown?
        (execution.records.filter (·.isShown (upTo isVerbose))) := by
  simp only [ofExecution, text, log, Execution.shown?]
  cases execution.result with
  | error error => simp
  | ok shown =>
      cases shown with
      | none => simp
      | some status => simp [String.append_assoc]

theorem ofExecution_besides_stdout :
    let report := ofExecution isColored isVerbose time execution
    let quiet := ofExecution isColored false time execution
    report.exitCode = quiet.exitCode ∧ report.stderr = quiet.stderr ∧
      report.calls = quiet.calls := by
  simp only [ofExecution]
  cases execution.result with
  | error error => exact ⟨rfl, rfl, rfl⟩
  | ok shown => cases shown <;> exact ⟨rfl, rfl, rfl⟩

end OfExecution

end Report

section Run

variable {arguments longer : List String} {environment : String → Option Bytes} {host : Host}
  {time : String} {command : Command} {line : CommandLine}

/-- A command line, and the line with the verbose flag added in a place where it is still accepted.
Both are read as the same command, and the two runs end in the same way, with the same error text
and the same runs of the tool. The quiet one writes its errors, warnings and infos and the state
behind them; the verbose one writes these very records and that state, with debug records between
them, and without the debug records it is what the quiet one writes. -/
theorem verbose_adds_debug_records
    (hquiet : CommandLine.parse arguments = .ok ⟨command, false⟩)
    (hadds : CommandLine.AddsVerbose arguments longer)
    (hverbose : CommandLine.parse longer = .ok line) :
    let quiet := run arguments environment host time
    let verbose := run longer environment host time
    let given := Report.execute environment
      { host with home := environment Config.toolHomeVariable } command
    let briefly := given.records.filter (·.isShown .info)
    let fully := given.records.filter (·.isShown .debug)
    let text := Report.text (Report.colorsLog environment) time given.shown?
    line = ⟨command, true⟩ ∧ verbose.exitCode = quiet.exitCode ∧
      verbose.stderr = quiet.stderr ∧ verbose.calls = quiet.calls ∧
      quiet.stdout = text briefly ∧ verbose.stdout = text fully ∧
      fully.filter (·.level ≠ .debug) = briefly ∧
      ∀ record ∈ briefly, record.level ∈ [.error, .warn, .info] := by
  intro quiet verbose given briefly fully text
  obtain rfl := CommandLine.parse_of_addsVerbose hquiet hadds hverbose
  have hrunQuiet : quiet = .ofExecution (Report.colorsLog environment) false time given :=
    run_of_line hquiet
  have hrunVerbose : verbose = .ofExecution (Report.colorsLog environment) true time given :=
    run_of_line hverbose
  obtain ⟨hexit, hstderr, hcalls⟩ :=
    Report.ofExecution_besides_stdout (Report.colorsLog environment) true time given
  rw [hrunQuiet, hrunVerbose]
  refine ⟨rfl, hexit, hstderr, hcalls, Report.ofExecution_stdout_eq _ _ _ _,
    Report.ofExecution_stdout_eq _ _ _ _, Report.filter_not_debug _, ?_⟩
  intro record hrecord
  exact Record.isShown_info_iff.mp (List.mem_filter.mp hrecord).2

end Run

def stuckHost : Host where
  start _ := .ok ()
  behaviour := Host.lookUp
    [(Disk.listArgs "nimbus",
        { writes := [.err (Utf8.encode "old\n"), .out (Utf8.encode Stop.heldListing)] }),
      (Disk.unlockArgs "nimbus", {}),
      (Stop.args .standard true,
        { writes := [.out (Utf8.encode "stop\n"), .err (Utf8.encode "stuck\n")],
          ending := .exit 1 })]

def plainEnvironment (name : String) : Option Bytes :=
  if name = Report.plainVariable then some (Utf8.encode "1") else none

theorem stuck_stop_told_in_detail :
    let quiet := run ["stop", "-f"] plainEnvironment stuckHost "now"
    let verbose := run ["stop", "-fv"] plainEnvironment stuckHost "now"
    let given := Report.execute plainEnvironment
      { stuckHost with home := plainEnvironment Config.toolHomeVariable } (.stop true)
    let briefly := given.records.filter (·.isShown .info)
    let fully := given.records.filter (·.isShown .debug)
    CommandLine.parse ["stop", "-f"] = .ok ⟨.stop true, false⟩ ∧
      CommandLine.AddsVerbose ["stop", "-f"] ["stop", "-fv"] ∧
      CommandLine.parse ["stop", "-fv"] = .ok ⟨.stop true, true⟩ ∧
      verbose.exitCode = 1 ∧ quiet.exitCode = 1 ∧ verbose.stderr = quiet.stderr ∧
      verbose.calls = quiet.calls ∧ quiet.calls.length = 3 ∧
      briefly.map (·.level) = [.info, .info, .error] ∧ fully.length = 8 ∧
      fully.filter (·.level ≠ .debug) = briefly ∧
      quiet.stdout = Report.text false "now" none briefly ∧
      verbose.stdout = Report.text false "now" none fully := by
  intro quiet verbose given briefly fully
  have hquiet : CommandLine.parse ["stop", "-f"] = .ok ⟨.stop true, false⟩ := rfl
  have hverbose : CommandLine.parse ["stop", "-fv"] = .ok ⟨.stop true, true⟩ := rfl
  have hadds : CommandLine.AddsVerbose ["stop", "-f"] ["stop", "-fv"] :=
    @CommandLine.AddsVerbose.letter ['f'] [] [.force] ["stop"] [] (.force .nil) (by decide)
  obtain ⟨-, hexit, hstderr, hcalls, hbriefly, hfully, hkept, -⟩ :=
    @verbose_adds_debug_records _ _ plainEnvironment stuckHost "now" _ _ hquiet hadds hverbose
  have hfailed : quiet.exitCode = 1 := by decide +kernel
  have hstate : given.shown? = none := by decide +kernel
  have hplain : Report.colorsLog plainEnvironment = false := by decide +kernel
  rw [hplain, hstate] at hbriefly hfully
  exact ⟨hquiet, hadds, hverbose, hexit.trans hfailed, hfailed, hstderr, hcalls,
    by decide +kernel, by decide +kernel, by decide +kernel, hkept, hbriefly, hfully⟩

end VmLifecycle
