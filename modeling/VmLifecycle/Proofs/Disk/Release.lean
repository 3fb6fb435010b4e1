import VmLifecycle.Proofs.Run.Calls
import VmLifecycle.Proofs.Stop.Verdict

namespace VmLifecycle

namespace Disk

def Stages.showsHeld (given : Stages) (name : String) : Bool :=
  match given.listing with
  | .ok bytes => isHeld bytes name
  | .error _ => false

theorem Stages.showsHeld_iff {given : Stages} {name : String} :
    given.showsHeld name = true ↔
      ∃ bytes, given.listing = .ok bytes ∧ isHeld bytes name = true := by
  unfold showsHeld
  split
  · next bytes hlisting => simp [hlisting]
  · next error hlisting => simp [hlisting]

theorem isHeld_eq_true_iff {listing : Bytes} {name : String} :
    isHeld listing name = true ↔
      ∃ disk, findInListing listing name = .ok (some disk) ∧ disk.holder ≠ "" := by
  unfold isHeld
  split
  · next disk hfind => simp [hfind]
  · next hother =>
      simp only [Bool.false_eq_true, false_iff]
      rintro ⟨disk, hfind, -⟩
      exact hother disk hfind

theorem Course.args_eq {name : String} {given : Stages} {inside : List Event}
    {result : Except Error Unit} (course : Course name given inside result) :
    (Event.commandsOf inside).map (·.1) =
      listArgs name :: if given.showsHeld name then [unlockArgs name] else [] := by
  cases course with
  | listingFailed hlisting => simp [Stages.showsHeld, hlisting]
  | listingMalformed hlisting hfind => simp [Stages.showsHeld, hlisting, isHeld, hfind]
  | missing hlisting hfind =>
      simp [Stages.showsHeld, hlisting, isHeld_of_find hfind]
  | unheld hlisting hfind hholder =>
      simp [Stages.showsHeld, hlisting, isHeld_of_find hfind, hholder]
  | unlockFailed hlisting hfind hholder hstatus =>
      simp [Stages.showsHeld, hlisting, isHeld_of_find hfind, hholder]
  | unlocked hlisting hfind hholder hstatus =>
      simp [Stages.showsHeld, hlisting, isHeld_of_find hfind, hholder]

end Disk

namespace Stop

theorem Course.mem_disk_args {name : InstanceName} {isForced : Bool} {given : Stages}
    {trace : List Event} {result : Except Error Unit} {command : List String}
    (course : Course name isForced given trace result)
    (hdisk : command.head? = some "disk") :
    command ∈ (Event.commandsOf trace).map (·.1) ↔
      given.admission name isForced = .ok () ∧
        command ∈ (Event.commandsOf given.inside).map (·.1) := by
  have hprobe : command ≠ Probe.args name := by
    rintro rfl
    simp [Probe.args] at hdisk
  have hstop : command ≠ args name isForced := by
    rintro rfl
    cases isForced <;> simp [args] at hdisk
  rw [course.args_eq, Stages.issued]
  cases given.admission name isForced with
  | error error => cases isForced <;> simp [hprobe]
  | ok _ =>
      cases given.detach with
      | error error => cases isForced <;> simp [hprobe]
      | ok _ => cases isForced <;> simp [hprobe, hstop]

theorem run_unlocks_iff (config : Config) (gateway : Gateway σ) (isForced : Bool) (state : σ) :
    let ready := ready ⟨config.instanceName⟩ gateway isForced state
    let commands := Event.commandsOf (run ⟨config.instanceName⟩ gateway
      (Disk.detach gateway config.dataDisk) isForced state).trace
    Disk.unlockArgs config.dataDisk ∈ commands.map (·.1) ↔
      Disk.listArgs config.dataDisk ∈ commands.map (·.1) ∧
        (Disk.stages gateway config.dataDisk ready).showsHeld config.dataDisk = true := by
  intro ready commands
  have stopCourse := run_course ⟨config.instanceName⟩ gateway
    (Disk.detach gateway config.dataDisk) isForced state
  have inside := (Disk.detach_course gateway config.dataDisk ready).args_eq
  rw [stopCourse.mem_disk_args rfl, stopCourse.mem_disk_args rfl]
  have hinside : (stages ⟨config.instanceName⟩ gateway
      (Disk.detach gateway config.dataDisk) isForced state).inside =
        (Disk.detach gateway config.dataDisk ready).trace := rfl
  rw [hinside, inside]
  cases (Disk.stages gateway config.dataDisk ready).showsHeld config.dataDisk with
  | true => simp
  | false => simp [Disk.unlockArgs, Disk.listArgs]

theorem execute_unlocks_iff (config : Config) (isForced : Bool) (tool : Tool) (host : Host) :
    let issued := ((Command.stop isForced).execute config (tool.gateway host)
      Tool.State.empty).state.calls.map (·.args)
    let listed := host.behaviour (Disk.listArgs config.dataDisk)
    Disk.unlockArgs config.dataDisk ∈ issued ↔
      Disk.listArgs config.dataDisk ∈ issued ∧ listed.ending = .exit 0 ∧
        Disk.isHeld listed.stdout config.dataDisk = true := by
  intro issued listed
  have faithful : tool.Faithful host
      ((Command.stop isForced).execute config (tool.gateway host)) :=
    Command.execute_faithful config (.stop isForced)
  have hissued : issued = (tool.callsOf host (Event.commandsOf
      ((Command.stop isForced).execute config (tool.gateway host)
        Tool.State.empty).trace)).map (·.args) := by
    simp only [issued, faithful.calls]
    rfl
  have hlisting : ∀ state, (Disk.stages (tool.gateway host) config.dataDisk state).listing =
      tool.answer host (Disk.listArgs config.dataDisk) :=
    fun state => (Tool.outputOf_gateway state).1
  have hunlocks := run_unlocks_iff config (tool.gateway host) isForced Tool.State.empty
  simp only [Disk.Stages.showsHeld_iff, hlisting] at hunlocks
  rw [hissued, Command.commandsOf_stop, Tool.mem_callsOf_args_iff,
    Tool.mem_callsOf_args_iff, hunlocks]
  constructor
  · rintro ⟨⟨hlist, bytes, hanswer, hheld⟩, -⟩
    obtain ⟨hstarted, hending, rfl⟩ := Tool.answer_eq_ok_iff.mp hanswer
    exact ⟨⟨hlist, hstarted⟩, hending, hheld⟩
  · rintro ⟨⟨hlist, hstarted⟩, hending, hheld⟩
    have hanswer := Tool.answer_eq_ok_iff.mpr ⟨hstarted, hending, rfl⟩
    refine ⟨⟨hlist, _, hanswer, hheld⟩, ?_⟩
    -- The unlock has no argument that the listing does not have, but for one plain word.
    refine Tool.exists_call?_iff.mpr (Host.launch_of_launch (Tool.exists_call?_iff.mp hstarted) ?_)
    intro argument hargument
    simp only [Disk.unlockArgs, List.mem_cons, List.not_mem_nil, or_false] at hargument
    rcases hargument with rfl | rfl | rfl
    · exact .inl (by simp [Disk.listArgs])
    · exact .inr (by decide)
    · exact .inl (by simp [Disk.listArgs])

/-- A stop unlocks the data disk exactly when its own listing of the disk succeeds and shows a
holder, be that the instance of the stop or any other. -/
theorem unlocks_iff_listed_held {arguments : List String}
    {environment : String → Option Bytes} {host : Host} {time : String}
    {isForced isVerbose : Bool} {config : Config}
    (hline : CommandLine.parse arguments = .ok ⟨.stop isForced, isVerbose⟩)
    (hconfig : Config.ofLookup (Config.textLookup environment) = .ok config) :
    let issued := (VmLifecycle.run arguments environment host time).calls.map (·.args)
    let listed := host.behaviour ["disk", "ls", config.dataDisk, "--json"]
    ["disk", "unlock", config.dataDisk] ∈ issued ↔
      ["disk", "ls", config.dataDisk, "--json"] ∈ issued ∧ listed.ending = .exit 0 ∧
        ∃ disk, Disk.findInListing listed.stdout config.dataDisk = .ok (some disk) ∧
          disk.holder ≠ "" := by
  intro issued listed
  rw [← Disk.isHeld_eq_true_iff]
  simp only [issued, run_calls_of_config hline hconfig]
  exact execute_unlocks_iff config isForced (Tool.ofConfig config)
    { host with home := environment Config.toolHomeVariable }

def devConfig : Config :=
  Config.standard.withInstance ⟨"dev", by decide +kernel⟩

/-- A host where that instance is running, and the disk is held by the standard instance. -/
def sharedDiskHost : Host where
  start _ := .ok ()
  behaviour := Host.lookUp
    [(Order.probe.args devConfig false, { writes := [.out (Utf8.encode "Running\n")] }),
      (Order.listing.args devConfig false,
        { writes := [.out (Utf8.encode
          "\x7b\"name\":\"nimbus\",\"instance\":\"nimbus\"\x7d\n")] }),
      (Order.unlock.args devConfig false, {}),
      (Order.stop.args devConfig false, {})]

theorem eq_ok_of_toOption {result : Except ε α} {value : α}
    (hvalue : result.toOption = some value) : result = .ok value := by
  cases result with
  | error error => cases hvalue
  | ok _ => cases hvalue; rfl

theorem devConfig_of_environment :
    Config.ofLookup (Config.textLookup (Config.instanceOnly (Utf8.encode "dev"))) =
      .ok devConfig :=
  eq_ok_of_toOption (by decide +kernel)

theorem sharedDisk_found :
    Disk.findInListing
      (sharedDiskHost.behaviour ["disk", "ls", devConfig.dataDisk, "--json"]).stdout
      devConfig.dataDisk = .ok (some { name := "nimbus", holder := "nimbus" }) :=
  eq_ok_of_toOption (by decide +kernel)

theorem shared_disk_unlocked :
    CommandLine.parse ["stop"] = .ok ⟨.stop false, false⟩ ∧
      Config.ofLookup (Config.textLookup (Config.instanceOnly (Utf8.encode "dev"))) =
        .ok devConfig ∧
      ["disk", "unlock", "nimbus"] ∈
        (VmLifecycle.run ["stop"] (Config.instanceOnly (Utf8.encode "dev")) sharedDiskHost
          "now").calls.map (·.args) := by
  have hline : CommandLine.parse ["stop"] = .ok ⟨.stop false, false⟩ := rfl
  refine ⟨hline, devConfig_of_environment,
    (unlocks_iff_listed_held hline devConfig_of_environment).mpr ?_⟩
  refine ⟨?_, ?_, { name := "nimbus", holder := "nimbus" }, sharedDisk_found, ?_⟩
  · decide +kernel
  · decide +kernel
  · decide

/-- The holder is not compared with the instance that is stopped, so the disk of another one is
unlocked too. -/
theorem other_holder_not_spared :
    ¬ ∀ (arguments : List String) (environment : String → Option Bytes) (host : Host)
      (time : String) (isForced isVerbose : Bool) (config : Config) (disk : Disk),
      CommandLine.parse arguments = .ok ⟨.stop isForced, isVerbose⟩ →
      Config.ofLookup (Config.textLookup environment) = .ok config →
      Disk.findInListing
        (host.behaviour ["disk", "ls", config.dataDisk, "--json"]).stdout
        config.dataDisk = .ok (some disk) →
      disk.holder ≠ "" → disk.holder ≠ config.instanceName.text →
      ["disk", "unlock", config.dataDisk] ∉
        (VmLifecycle.run arguments environment host time).calls.map (·.args) := by
  intro hspared
  have hunissued := hspared ["stop"] (Config.instanceOnly (Utf8.encode "dev"))
    sharedDiskHost "now" false false devConfig { name := "nimbus", holder := "nimbus" } rfl
    devConfig_of_environment sharedDisk_found (by decide) (by decide)
  revert hunissued
  decide +kernel

end Stop

end VmLifecycle
