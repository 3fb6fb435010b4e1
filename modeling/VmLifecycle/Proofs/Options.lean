import VmLifecycle.Config
import VmLifecycle.Gateway.Script
import VmLifecycle.Proofs.Control.Recorded
import VmLifecycle.Proofs.Disk.Course
import VmLifecycle.Proofs.Stop.Course

namespace VmLifecycle

/-- The tool reads an argument that begins with a dash as an option. -/
def isOption (argument : String) : Bool :=
  argument.toList.head? == some '-'

/-- An argument list that a part of the controller gives the gateway to build: a probe, a stop with
whatever disk manager, or a detach by the tool. -/
inductive Handed (config : Config) (isForced : Bool) (gateway : Gateway σ)
    (args : List String) : Prop
  | probe (state : σ)
      (hbuilt : args ∈ Deed.lists
        (Probe.run ⟨config.instanceName⟩ gateway.recorded (state, [])).state.2)
  | stop (disk : DiskManager σ) (state : σ)
      (hbuilt : args ∈ Deed.lists
        (Stop.run ⟨config.instanceName⟩ gateway.recorded disk.recorded isForced
          (state, [])).state.2)
  | detach (state : σ)
      (hbuilt : args ∈ Deed.lists
        (Disk.detach gateway.recorded config.dataDisk (state, [])).state.2)

/-- The lists that may be handed over, each with its options in order: those that the controller
writes itself, and `named` for a configured name in its place. -/
def optionTable (config : Config) (isForced : Bool) (named : String → List String) :
    List (List String × List String) :=
  let name := config.instanceName.text
  let disk := config.dataDisk
  [(["ls", "-f", "\x7b\x7b.Status\x7d\x7d", name], "-f" :: named name),
    (["disk", "ls", disk, "--json"], named disk ++ ["--json"]),
    (["disk", "unlock", disk], named disk),
    (if isForced then (["stop", "--force", name], "--force" :: named name)
      else (["stop", name], named name))]

theorem Probe.lists_run (probe : Probe) (gateway : Gateway σ) (state : σ) :
    Deed.lists (Probe.run probe gateway.recorded (state, [])).state.2 =
      [Probe.args probe.instanceName] := by
  have kept := ((Probe.run_uniform probe).recorded gateway).kept state
  rw [kept.ran_commands.lists_eq]
  cases hanswer : (gateway.outputOf (Probe.args probe.instanceName) state).1 with
  | error error => rw [Probe.run_of_error hanswer]; rfl
  | ok bytes => rw [Probe.run_of_ok hanswer]; rfl

theorem Stop.Course.mem_ownArgs {name : InstanceName} {isForced : Bool}
    {given : Stop.Stages} {trace : List Event} {result : Except Error Unit}
    {command : List String} (course : Stop.Course name isForced given trace result)
    (hcommand : command ∈ Event.ownArgs trace) :
    command = Probe.args name ∨ command = Stop.args name isForced := by
  cases course with
  | probeFailed hforced hprobe => exact .inl (by simpa using hcommand)
  | refused hforced hprobe hrefusal => exact .inl (by simpa using hcommand)
  | entered entry finish =>
      rw [Event.ownArgs_append, List.mem_append] at hcommand
      rcases hcommand with hbefore | hafter
      · cases entry with
        | forced hforced => simp at hbefore
        | probed hforced hprobe hrunning => exact .inl (by simpa using hbefore)
      · cases finish with
        | detachFailed hdetach => simp at hafter
        | stopFailed hdetach hstatus => exact .inr (by simpa using hafter)
        | stopped hdetach hstatus => exact .inr (by simpa using hafter)

theorem Disk.Course.mem_args {name : String} {given : Disk.Stages}
    {trace : List Event} {result : Except Error Unit} {command : List String}
    (course : Disk.Course name given trace result)
    (hcommand : command ∈ (Event.commandsOf trace).map (·.1)) :
    command = Disk.listArgs name ∨ command = Disk.unlockArgs name := by
  cases course with
  | listingFailed hlisting => exact .inl (by simpa using hcommand)
  | listingMalformed hlisting hfind => exact .inl (by simpa using hcommand)
  | missing hlisting hfind => exact .inl (by simpa using hcommand)
  | unheld hlisting hfind hholder => exact .inl (by simpa using hcommand)
  | unlockFailed hlisting hfind hholder hstatus => simpa using hcommand
  | unlocked hlisting hfind hholder hstatus => simpa using hcommand

theorem Handed.cases_args {config : Config} {isForced : Bool} {gateway : Gateway σ}
    {args : List String} (handed : Handed config isForced gateway args) :
    args = Probe.args config.instanceName ∨
      args = Stop.args config.instanceName isForced ∨
      args = Disk.listArgs config.dataDisk ∨
      args = Disk.unlockArgs config.dataDisk := by
  cases handed with
  | probe state hbuilt =>
      rw [Probe.lists_run] at hbuilt
      exact .inl (by simpa using hbuilt)
  | stop disk state hbuilt =>
      have kept := (Stop.run_recorded ⟨config.instanceName⟩ gateway disk isForced).kept state
      rw [kept.lists_eq] at hbuilt
      rcases (Stop.run_course _ _ _ _ _).mem_ownArgs hbuilt with hprobe | hstop
      · exact .inl hprobe
      · exact .inr (.inl hstop)
  | detach state hbuilt =>
      have kept := ((Disk.detach_uniform config.dataDisk).recorded gateway).kept state
      rw [kept.ran_commands.lists_eq] at hbuilt
      exact .inr (.inr ((Disk.detach_course _ _ _).mem_args hbuilt))

theorem options_in_table {config : Config} {isForced : Bool} {gateway : Gateway σ}
    {args : List String} (handed : Handed config isForced gateway args) :
    (args, args.filter isOption) ∈ optionTable config isForced
      fun name => [name].filter isOption := by
  have hls : isOption "ls" = false := by decide
  have hf : isOption "-f" = true := by decide
  have hformat : isOption "\x7b\x7b.Status\x7d\x7d" = false := by decide
  have hdisk : isOption "disk" = false := by decide
  have hunlock : isOption "unlock" = false := by decide
  have hjson : isOption "--json" = true := by decide
  have hstop : isOption "stop" = false := by decide
  have hforce : isOption "--force" = true := by decide
  rcases handed.cases_args with rfl | rfl | rfl | rfl
  · simp [optionTable, Probe.args, Probe.statusFormat, List.filter_cons, *]
  · cases isForced with
    | true => simp [optionTable, Stop.args, List.filter_cons, *]
    | false => simp [optionTable, Stop.args, List.filter_cons, *]
  · cases hname : isOption config.dataDisk with
    | true => simp [optionTable, Disk.listArgs, List.filter_cons, *]
    | false => simp [optionTable, Disk.listArgs, List.filter_cons, *]
  · simp [optionTable, Disk.unlockArgs, List.filter_cons, *]

theorem options_written {config : Config} {isForced : Bool} {gateway : Gateway σ}
    {args : List String} (handed : Handed config isForced gateway args)
    (hname : isOption config.instanceName.text = false)
    (hdisk : isOption config.dataDisk = false) :
    (args, args.filter isOption) ∈ optionTable config isForced fun _ => [] := by
  have htable := options_in_table handed
  simpa [optionTable, List.filter_cons, hname, hdisk] using htable

theorem named_force {config : Config} {gateway : Gateway σ} {args : List String}
    (handed : Handed config false gateway args) (hforce : "--force" ∈ args) :
    config.instanceName.text = "--force" ∨ config.dataDisk = "--force" := by
  rcases handed.cases_args with rfl | rfl | rfl | rfl
  · simp [Probe.args, Probe.statusFormat] at hforce
    exact .inl hforce.symm
  · simp [Stop.args] at hforce
    exact .inl hforce.symm
  · simp [Disk.listArgs] at hforce
    exact .inr hforce.symm
  · simp [Disk.unlockArgs] at hforce
    exact .inr hforce.symm

/-- Every option in a list that is handed over is the controller's own or a configured name in its
place that begins with a dash. So where neither name begins with a dash only the controller's own
options are left, and `--force` is in a list of a run without force only by such a name. -/
theorem options_written_or_named (config : Config) (isForced : Bool)
    (gateway : Gateway σ) {args : List String}
    (handed : Handed config isForced gateway args) :
    (args, args.filter isOption) ∈
      optionTable config isForced (fun name => [name].filter isOption) ∧
    (isOption config.instanceName.text = false →
      isOption config.dataDisk = false →
      (args, args.filter isOption) ∈ optionTable config isForced fun _ => []) ∧
    (isForced = false → "--force" ∈ args →
      config.instanceName.text = "--force" ∨ config.dataDisk = "--force") := by
  refine ⟨options_in_table handed, options_written handed, ?_⟩
  intro hforced hforce
  subst hforced
  exact named_force handed hforce

def dashedDisk : Config :=
  Config.standard.withDataDisk "--json"

theorem options_of_dashed_disk :
    Handed dashedDisk false Script.gateway ["disk", "ls", "--json", "--json"] ∧
    (["disk", "ls", "--json", "--json"], ["--json", "--json"]) ∈
      optionTable dashedDisk false fun name => [name].filter isOption := by
  have handed : Handed dashedDisk false Script.gateway
      ["disk", "ls", "--json", "--json"] :=
    .detach .empty (by decide +kernel)
  exact ⟨handed, (options_written_or_named dashedDisk false Script.gateway handed).1⟩

def namedForce : Config where
  instanceName := ⟨"--force", by decide +kernel⟩
  tool := ⟨"limactl"⟩
  toolHome := none
  dataDisk := "nimbus"

def namedForceScript : Script.State where
  expected :=
    [⟨["ls", "-f", "\x7b\x7b.Status\x7d\x7d", "--force"],
        .output (.ok (Utf8.encode "Running"))⟩,
      ⟨["disk", "ls", "nimbus", "--json"], .output (.ok [])⟩,
      ⟨["stop", "--force"], .combined (.success [])⟩]

/-- An instance may be named like an option, so a stop without force can pass `--force`. -/
theorem force_passed_by_name :
    ¬ ∀ (lookup : String → Option String) (config : Config) (isForced : Bool)
        (gateway : Gateway Script.State) (args : List String),
      Config.ofLookup lookup = .ok config →
      Handed config isForced gateway args →
      (args, args.filter isOption) ∈ optionTable config isForced (fun _ => []) ∧
        (isForced = false → "--force" ∉ args) := by
  intro honlyOwn
  have hconfig : Config.ofLookup
      (fun key => if key = "NIMBUS_INSTANCE" then some "--force" else none) =
        .ok namedForce := by
    rfl
  have handed : Handed namedForce false Script.gateway ["stop", "--force"] :=
    .stop (Disk.detach Script.gateway "nimbus") namedForceScript (by decide +kernel)
  have hnever := (honlyOwn _ _ _ _ _ hconfig handed).2 rfl
  exact hnever (by decide)

end VmLifecycle
