import VmLifecycle.Proofs.Run.Calls
import VmLifecycle.Proofs.Tool.Meaning

namespace VmLifecycle

section Alike

variable {tool : Tool} {host : Host} {other : List String → Behaviour}

theorem Probe.run_alike (probe : Probe) :
    tool.Alike host other Eq (probe.run (tool.gateway host))
      (probe.run (tool.gateway (host.behaving other))) := by
  refine .bind (.output (fun first second =>
    Status.classify (trim (Utf8.decodeLossy first)) =
      Status.classify (trim (Utf8.decodeLossy second))) ?_) ?_
  · intro hfirst hsecond hmeaning
    rw [Behaviour.meaning_probe, Behaviour.meaning_probe, if_pos hfirst,
      if_pos hsecond] at hmeaning
    exact Meaning.status.inj hmeaning
  · intro first second hstatus
    exact .bind (.log_hidden rfl rfl) fun _ _ _ => .pure hstatus

namespace Disk

theorem look_alike (name : String) :
    tool.Alike host other Eq (look (tool.gateway host) name)
      (look (tool.gateway (host.behaving other)) name) := by
  refine .bind (.output (fun first second =>
    Meaning.ofListing (findInListing first name) =
      Meaning.ofListing (findInListing second name)) ?_) ?_
  · intro hfirst hsecond hmeaning
    rwa [Behaviour.meaning_listing, Behaviour.meaning_listing, if_pos hfirst,
      if_pos hsecond] at hmeaning
  · intro first second hfound
    generalize findInListing first name = one at hfound
    generalize findInListing second name = two at hfound
    cases one with
    | error cause =>
        cases two with
        | error same =>
            exact .fail (congrArg ("JSON error: " ++ ·) (Meaning.malformed.inj hfound))
        | ok found => cases hfound
    | ok found =>
        cases two with
        | error cause => cases hfound
        | ok same => exact .pure (Meaning.listing.inj hfound)

theorem unlock_alike (name : String) :
    tool.Alike host other Eq (unlock (tool.gateway host) name)
      (unlock (tool.gateway (host.behaving other)) name) := by
  refine .bind (.combinedOutput (fun output => trim (Utf8.decodeLossy output)) ?_) ?_
  · intro hfirst hsecond hmeaning
    rw [Behaviour.meaning_unlock, Behaviour.meaning_unlock, hfirst, hsecond] at hmeaning
    exact Meaning.failure.inj hmeaning
  · rintro ⟨output, status⟩ ⟨same, _⟩ ⟨rfl, hread⟩
    cases status with
    | error error =>
        have htext : trim (Utf8.decodeLossy output) = trim (Utf8.decodeLossy same) :=
          hread error rfl
        simp only [CombinedOutput.text, htext]
        exact .fail rfl
    | ok _ => exact .pure rfl

theorem detach_alike (name : String) :
    tool.Alike host other Eq (detach (tool.gateway host) name)
      (detach (tool.gateway (host.behaving other)) name) := by
  refine .bind (look_alike name) ?_
  rintro found _ rfl
  cases found with
  | none => exact .log _
  | some disk =>
      by_cases hholder : disk.holder.isEmpty
      · simp only [if_pos hholder]
        exact .log _
      · simp only [if_neg hholder]
        exact .bind (.log _) fun _ _ _ => unlock_alike name

end Disk

namespace Stop

theorem permit_alike (name : InstanceName) (status : Status) :
    tool.Alike host other Eq (permit name status) (permit name status) := by
  cases status with
  | running => exact .pure rfl
  | stopped => exact .fail rfl
  | nonexistent => exact .fail rfl
  | unrecognized => exact .fail rfl

theorem issue_alike (name : InstanceName) (isForced : Bool) :
    tool.Alike host other Eq (issue (tool.gateway host) (args name isForced))
      (issue (tool.gateway (host.behaving other)) (args name isForced)) := by
  refine .bind (.combinedOutput Utf8.decodeLossy ?_) ?_
  · intro hfirst hsecond hmeaning
    rw [Behaviour.meaning_stop, Behaviour.meaning_stop, hfirst, hsecond] at hmeaning
    exact Meaning.failure.inj hmeaning
  · rintro ⟨output, status⟩ ⟨same, _⟩ ⟨rfl, hread⟩
    cases status with
    | error error =>
        have htext : Utf8.decodeLossy output = Utf8.decodeLossy same := hread error rfl
        simp only [CombinedOutput.text, htext]
        exact .bind (.log _) fun _ _ _ => .fail rfl
    | ok _ => exact .pure rfl

theorem detachAndStop_alike (stop : Stop) (name : String) (isForced : Bool) :
    tool.Alike host other Eq
      (stop.detachAndStop (tool.gateway host) (Disk.detach (tool.gateway host) name) isForced)
      (stop.detachAndStop (tool.gateway (host.behaving other))
        (Disk.detach (tool.gateway (host.behaving other)) name) isForced) := by
  refine .bind (Tool.Alike.request (Disk.detach_alike name)) fun _ _ _ => ?_
  refine .bind (.log _) fun _ _ _ => ?_
  exact .bind (issue_alike _ _) fun _ _ _ => .log _

theorem run_alike (stop : Stop) (name : String) (isForced : Bool) :
    tool.Alike host other Eq
      (stop.run (tool.gateway host) (Disk.detach (tool.gateway host) name) isForced)
      (stop.run (tool.gateway (host.behaving other))
        (Disk.detach (tool.gateway (host.behaving other)) name) isForced) := by
  cases isForced with
  | true => exact stop.detachAndStop_alike name true
  | false =>
      refine .bind (Probe.run_alike _) ?_
      rintro status _ rfl
      refine .bind (permit_alike _ status) fun _ _ _ => ?_
      exact stop.detachAndStop_alike name false

end Stop

theorem Command.execute_alike (config : Config) (command : Command) :
    tool.Alike host other Eq (command.execute config (tool.gateway host))
      (command.execute config (tool.gateway (host.behaving other))) := by
  cases command with
  | stop isForced =>
      refine .bind (.log _) fun _ _ _ => ?_
      exact .bind (Stop.run_alike _ _ isForced) fun _ _ _ => .pure rfl
  | status =>
      refine .bind (Probe.run_alike _) ?_
      rintro status _ rfl
      cases status with
      | unrecognized => exact .fail rfl
      | running => exact .pure rfl
      | stopped => exact .pure rfl
      | nonexistent => exact .pure rfl

end Alike

theorem Report.ofExecution_eq_of_alike {isColored : Bool} {time : String}
    {first second : Execution} (hresult : ResultsAlike Eq first.result second.result)
    (hshown : first.records.filter (·.isShown .info) =
      second.records.filter (·.isShown .info))
    (hcalls : first.calls = second.calls) :
    ofExecution isColored false time first = ofExecution isColored false time second := by
  obtain ⟨one, records, calls⟩ := first
  obtain ⟨two, others, _⟩ := second
  cases hcalls
  have hlog : log isColored time .info records = log isColored time .info others := by
    rw [log, log, hshown]
  cases hresult with
  | ok hvalues =>
      cases hvalues
      simp only [ofExecution, upTo, Bool.false_eq_true, if_false, hlog]
  | error hmessage =>
      simp only [ofExecution, upTo, Bool.false_eq_true, if_false, hlog, hmessage]

/-- Without the wish for more detail, the report is the same over every behaviour of the tool that
means the same for each command of the run and ends it in the same way. -/
theorem raw_output_hidden {arguments : List String} {environment : String → Option Bytes}
    {host : Host} {time : String} {command : Command} {other : List String → Behaviour}
    (hline : CommandLine.parse arguments = .ok ⟨command, false⟩)
    (hsame : ∀ call ∈ (run arguments environment host time).calls,
      (host.behaviour call.args).ending = (other call.args).ending ∧
        (host.behaviour call.args).meaning call.args =
          (other call.args).meaning call.args) :
    run arguments environment { host with behaviour := other } time =
      run arguments environment host time := by
  cases hconfig : Config.ofLookup (Config.textLookup environment) with
  | error fault =>
      simp only [run, hline, Report.execute, Config.load, hconfig]
  | ok config =>
      let inheriting := { host with home := environment Config.toolHomeVariable }
      have first : (Tool.ofConfig config).Faithful inheriting
          (command.execute config ((Tool.ofConfig config).gateway inheriting)) :=
        Command.execute_faithful config command
      have second : (Tool.ofConfig config).Faithful (inheriting.behaving other)
          (command.execute config
            ((Tool.ofConfig config).gateway (inheriting.behaving other))) :=
        Command.execute_faithful config command
      rw [run_calls_of_config hline hconfig, first.calls] at hsame
      have alike := Command.execute_alike config command Tool.State.empty
        Tool.State.empty hsame
      simp only [run, hline, Report.execute, Config.load, hconfig]
      refine (Report.ofExecution_eq_of_alike alike.result ?_ ?_).symm
      · simp only [List.filter_append]
        exact congrArg _ alike.shown
      · have hcalls := Tool.callsOf_behaving (Tool.ofConfig config) inheriting other
          alike.args
        exact (first.calls _).trans ((congrArg _ hcalls).trans (second.calls _).symm)

def busyHost : Host where
  start _ := .ok ()
  behaviour := Host.lookUp
    [(Probe.args .standard, { writes := [.out (Utf8.encode "Running\n")] }),
      (Disk.listArgs "nimbus",
        { writes := [.out (Utf8.encode
          "\x7b\"name\":\"nimbus\",\"instance\":\"nimbus\"\x7d\n")] }),
      (Disk.unlockArgs "nimbus", {}),
      (Stop.args .standard false,
        { writes := [.out (Utf8.encode "in use\n")], ending := .exit 1 })]

def wordyBehaviour : List String → Behaviour :=
  Host.lookUp
    [(Probe.args .standard,
        { writes := [.err (Utf8.encode "secret"), .out (Utf8.encode " Running\r\n")] }),
      (Disk.listArgs "nimbus",
        { writes := [.out (Utf8.encode
          "\n\x7b\"instance\":\"nimbus\",\"name\":\"nimbus\",\"dir\":\"secret\"\x7d\nsecret")] }),
      (Disk.unlockArgs "nimbus", { writes := [.out (Utf8.encode "secret")] }),
      (Stop.args .standard false,
        { writes := [.err (Utf8.encode "in "), .out (Utf8.encode "use\n")], ending := .exit 1 })]

theorem wordy_stop_hidden :
    CommandLine.parse ["stop"] = .ok ⟨.stop false, false⟩ ∧
      (run ["stop"] (fun _ => none) busyHost "now").calls.length = 4 ∧
      (∀ call ∈ (run ["stop"] (fun _ => none) busyHost "now").calls,
        (busyHost.behaviour call.args).ending = (wordyBehaviour call.args).ending ∧
          (busyHost.behaviour call.args).meaning call.args =
            (wordyBehaviour call.args).meaning call.args) ∧
      run ["stop"] (fun _ => none) { busyHost with behaviour := wordyBehaviour } "now" =
        run ["stop"] (fun _ => none) busyHost "now" := by
  have hline : CommandLine.parse ["stop"] = .ok ⟨.stop false, false⟩ := rfl
  have hsame : ∀ call ∈ (run ["stop"] (fun _ => none) busyHost "now").calls,
      (busyHost.behaviour call.args).ending = (wordyBehaviour call.args).ending ∧
        (busyHost.behaviour call.args).meaning call.args =
          (wordyBehaviour call.args).meaning call.args := by
    decide +kernel
  exact ⟨hline, by decide +kernel, hsame, raw_output_hidden hline hsame⟩

end VmLifecycle
