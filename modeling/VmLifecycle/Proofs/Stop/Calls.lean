import VmLifecycle.Proofs.Stop.Plan
import VmLifecycle.Proofs.Tool.Calls

namespace VmLifecycle

def Disk.isListedHeld (behaviour : List String → Behaviour) (name : String) : Bool :=
  isHeld (behaviour (listArgs name)).stdout name

namespace Stop

/-! The runs of the tool in a whole run of the program: a prefix of the plan, of which every run but
the last succeeds and is accepted. -/

namespace Order

def Reads (config : Config) : Order → Bytes → Prop
  | probe, bytes => trim (Utf8.decodeLossy bytes) = "Running"
  | listing, bytes => ∃ found, Disk.findInListing bytes config.dataDisk = .ok found
  | unlock, _ => True
  | stop, _ => True

def AcceptedWith (config : Config) (isForced : Bool)
    (behaviour : List String → Behaviour) (order : Order) : Prop :=
  (behaviour (order.args config isForced)).ending = .exit 0 ∧
    order.Reads config (behaviour (order.args config isForced)).stdout

theorem accepted_with_tool {config : Config} {isForced : Bool} {tool : Tool}
    {host : Host} {order : Order} {response : Response}
    (haccepted : order.Accepts config response)
    (hgives : tool.Gives host (order.args config isForced) response) :
    (∃ call, tool.call? host (order.args config isForced) = some call) ∧
      order.AcceptedWith config isForced host.behaviour := by
  cases response with
  | output result =>
      cases result with
      | error error => cases order <;> cases haccepted
      | ok bytes =>
          obtain ⟨hcall, hending, rfl⟩ := Tool.answer_eq_ok_iff.mp hgives.symm
          refine ⟨hcall, hending, ?_⟩
          cases order with
          | probe => exact haccepted
          | listing => exact haccepted
          | unlock => trivial
          | stop => trivial
  | combined combined =>
      cases order with
      | probe => cases haccepted
      | listing => cases haccepted
      | unlock =>
          rw [Accepts, hgives] at haccepted
          obtain ⟨hcall, hending⟩ := Tool.mergedAnswer_status_eq_ok_iff.mp haccepted
          exact ⟨hcall, hending, trivial⟩
      | stop =>
          rw [Accepts, hgives] at haccepted
          obtain ⟨hcall, hending⟩ := Tool.mergedAnswer_status_eq_ok_iff.mp haccepted
          exact ⟨hcall, hending, trivial⟩

end Order

/-- Runs of the tool that keep to a plan: they are its first commands in order, and each but the
last is accepted. -/
structure Keeps (config : Config) (isForced : Bool)
    (behaviour : List String → Behaviour) (orders issued : List Order)
    (calls : List Call) : Prop where
  initial : issued <+: orders
  args : calls.map (·.args) = issued.map (Order.args config isForced)
  accepted : ∀ order ∈ issued.dropLast,
    order.AcceptedWith config isForced behaviour

section Keeps

variable {config : Config} {isForced isHeld : Bool} {tool : Tool} {host : Host}
  {behaviour : List String → Behaviour} {orders issued : List Order} {calls : List Call}

theorem Follows.keeps {commands : List (List String × Response)}
    (follows : Follows config isForced orders commands)
    (hgives : ∀ command ∈ commands, tool.Gives host command.1 command.2) :
    ∃ issued,
      Keeps config isForced host.behaviour orders issued
        (tool.callsOf host commands) := by
  induction follows with
  | done => exact ⟨[], List.nil_prefix, rfl, by simp⟩
  | @halted order response rest hrefused =>
      -- The tool may not have been started for this command at all.
      cases hcall : tool.call? host (order.args config isForced) with
      | none =>
          exact ⟨[], List.nil_prefix, by simp [Tool.callsOf, hcall], by simp⟩
      | some call =>
          refine ⟨[order], ⟨rest, rfl⟩, ?_, by simp⟩
          simp [Tool.callsOf, hcall, Tool.args_of_call? hcall]
  | @next order response rest commands haccepted follows ih =>
      obtain ⟨issued, kept⟩ := ih fun command hcommand =>
        hgives command (List.mem_cons_of_mem _ hcommand)
      obtain ⟨⟨call, hcall⟩, hon⟩ :=
        order.accepted_with_tool haccepted (hgives _ List.mem_cons_self)
      refine ⟨order :: issued, ?_, ?_, ?_⟩
      · exact (List.prefix_cons_inj order).mpr kept.initial
      · have hargs := kept.args
        rw [Tool.callsOf] at hargs
        simp [Tool.callsOf, hcall, Tool.args_of_call? hcall, hargs]
      · intro earlier hearlier
        cases issued with
        | nil => cases hearlier
        | cons first others =>
            rcases List.mem_cons.mp hearlier with rfl | hlater
            · exact hon
            · exact kept.accepted earlier hlater

theorem Keeps.nodup (kept : Keeps config isForced behaviour orders issued calls)
    (hnodup : orders.Nodup) : (calls.map (·.args)).Nodup := by
  rw [kept.args]
  refine List.Pairwise.map _ ?_ (hnodup.sublist kept.initial.sublist)
  intro first second hdiffers hsame
  exact hdiffers (Order.args_injective config isForced hsame)

theorem Keeps.whole
    (kept : Keeps config isForced behaviour (plan isForced isHeld) issued calls)
    {call : Call} (hcall : call ∈ calls) (hstop : call.args.head? = some "stop") :
    issued = plan isForced isHeld := by
  have hargs : call.args ∈ issued.map (Order.args config isForced) := by
    rw [← kept.args]
    exact List.mem_map_of_mem hcall
  obtain ⟨order, horder, hsame⟩ := List.mem_map.mp hargs
  have hlast : order = .stop := by
    rw [← hsame] at hstop
    cases order <;> simp [Order.args] at hstop ⊢
  subst hlast
  have hinitial : issued <+: (if isForced then [] else [.probe]) ++
      .listing :: (if isHeld then [.unlock] else []) ++ [.stop] := kept.initial
  rcases List.prefix_concat_iff.mp hinitial with hwhole | hearlier
  · exact hwhole
  · have hmem := hearlier.subset horder
    cases isForced <;> cases isHeld <;> simp at hmem

end Keeps

end Stop

theorem Report.ofExecution_calls (isColored isVerbose : Bool) (time : String)
    (execution : Execution) :
    (ofExecution isColored isVerbose time execution).calls = execution.calls := by
  unfold ofExecution
  cases execution.result with
  | error error => rfl
  | ok shown =>
      cases shown with
      | none => rfl
      | some status => rfl

theorem Command.commandsOf_stop (config : Config) (gateway : Gateway σ)
    (isForced : Bool) (state : σ) :
    Event.commandsOf ((stop isForced).execute config gateway state).trace =
      Event.commandsOf (Stop.run ⟨config.instanceName⟩ gateway
        (Disk.detach gateway config.dataDisk) isForced state).trace := by
  rw [execute, Control.bind_of_ok rfl, Control.log_apply]
  cases hresult : (Stop.run ⟨config.instanceName⟩ gateway
      (Disk.detach gateway config.dataDisk) isForced state).result with
  | error error =>
      rw [Control.bind_of_error hresult]
      rfl
  | ok _ =>
      rw [Control.bind_of_ok hresult]
      simp

namespace Stop

theorem execute_keeps (config : Config) (isForced : Bool) (tool : Tool)
    (host : Host) :
    ∃ issued,
      Keeps config isForced host.behaviour
        (plan isForced (Disk.isListedHeld host.behaviour config.dataDisk)) issued
        ((Command.stop isForced).execute config (tool.gateway host)
          Tool.State.empty).state.calls := by
  have faithful : tool.Faithful host
      ((Command.stop isForced).execute config (tool.gateway host)) :=
    Command.execute_faithful config (.stop isForced)
  have hheld : ∀ before bytes, ((tool.gateway host).outputOf
      (Disk.listArgs config.dataDisk) before).1 = .ok bytes →
      Disk.isHeld bytes config.dataDisk =
        Disk.isListedHeld host.behaviour config.dataDisk := by
    intro before bytes hlisting
    rw [(Tool.outputOf_gateway before).1] at hlisting
    obtain ⟨-, -, rfl⟩ := Tool.answer_eq_ok_iff.mp hlisting
    rfl
  have hgives := faithful.gives Tool.State.empty
  rw [faithful.calls]
  rw [Command.commandsOf_stop] at hgives ⊢
  exact (run_follows config _ isForced _ hheld).keeps hgives

/-- The runs of the tool in a whole run of the program for a stop. Without a configuration there
are none. With one they keep to the plan, no command is issued twice, and a stop is issued for an
instance whose disk is held only behind an unlock that succeeds. -/
theorem stop_calls_keep_to_plan {arguments : List String}
    {environment : String → Option Bytes} {host : Host} {time : String}
    {isForced isVerbose : Bool}
    (hline : CommandLine.parse arguments = .ok ⟨.stop isForced, isVerbose⟩) :
    (∀ fault, Config.ofLookup (Config.textLookup environment) = .error fault →
      (VmLifecycle.run arguments environment host time).calls = []) ∧
    ∀ config, Config.ofLookup (Config.textLookup environment) = .ok config →
      ∃ issued,
        Keeps config isForced host.behaviour
          (plan isForced (Disk.isListedHeld host.behaviour config.dataDisk)) issued
          (VmLifecycle.run arguments environment host time).calls ∧
        ((VmLifecycle.run arguments environment host time).calls.map (·.args)).Nodup ∧
        ∀ call ∈ (VmLifecycle.run arguments environment host time).calls,
          call.args.head? = some "stop" →
          Disk.isListedHeld host.behaviour config.dataDisk = true →
          .unlock ∈ issued ∧
            Order.unlock.AcceptedWith config isForced host.behaviour := by
  simp only [VmLifecycle.run, hline, Report.ofExecution_calls]
  refine ⟨?_, ?_⟩
  · intro fault hfault
    simp only [Report.execute, Config.load, hfault]
  · intro config hconfig
    simp only [Report.execute, Config.load, hconfig]
    obtain ⟨issued, kept⟩ := execute_keeps config isForced (Tool.ofConfig config)
      { host with home := environment Config.toolHomeVariable }
    refine ⟨issued, kept, kept.nodup (plan_nodup _ _), ?_⟩
    intro call hcall hstop hheld
    have hissued := kept.whole hcall hstop
    have hunlock : .unlock ∈ issued.dropLast := by
      rw [hissued, plan, List.dropLast_concat]
      simp [hheld]
    exact ⟨List.dropLast_subset _ hunlock, kept.accepted _ hunlock⟩

def hostOfListing (listing : String) : Host where
  start _ := .ok ()
  behaviour := Host.lookUp
    [(Order.probe.args .standard false, { writes := [.out (Utf8.encode "Running\n")] }),
      (Order.listing.args .standard false, { writes := [.out (Utf8.encode listing)] }),
      (Order.unlock.args .standard false, {}),
      (Order.stop.args .standard false, {})]

def heldListing : String :=
  "\x7b\"name\":\"nimbus\",\"instance\":\"nimbus\"\x7d\n"

def heldLaterListing : String :=
  "\x7b\"name\":\"nimbus\",\"instance\":\"\"\x7d\n" ++ heldListing

theorem held_disk_calls_keep_to_plan :
    CommandLine.parse ["stop"] = .ok ⟨.stop false, false⟩ ∧
      Config.ofLookup (Config.textLookup fun _ => none) = .ok .standard ∧
      ∃ issued,
        Keeps .standard false (hostOfListing heldListing).behaviour
          [.probe, .listing, .unlock, .stop] issued
          (VmLifecycle.run ["stop"] (fun _ => none) (hostOfListing heldListing)
            "now").calls ∧
        .unlock ∈ issued := by
  have hline : CommandLine.parse ["stop"] = .ok ⟨.stop false, false⟩ := rfl
  have hconfig : Config.ofLookup (Config.textLookup fun _ => none) =
      .ok .standard := rfl
  obtain ⟨issued, kept, -, hunlocked⟩ :=
    (stop_calls_keep_to_plan hline).2 .standard hconfig
  have hheld : Disk.isListedHeld (hostOfListing heldListing).behaviour
      Config.standard.dataDisk = true := by
    decide +kernel
  have hstop : ∃ call ∈ (VmLifecycle.run ["stop"] (fun _ => none)
      (hostOfListing heldListing) "now").calls, call.args.head? = some "stop" := by
    decide +kernel
  obtain ⟨call, hcall, hhead⟩ := hstop
  refine ⟨hline, hconfig, issued, ?_, (hunlocked call hcall hhead hheld).1⟩
  rw [hheld] at kept
  exact kept

/-- Whether any disk of a name in a listing has a holder, wherever it stands. -/
def isHeldAnywhere (listing : Bytes) (name : String) : Bool :=
  (Disk.entryLines listing).any fun line =>
    match Disk.read (String.ofList line) with
    | .ok disk => disk.name == name && !disk.holder.isEmpty
    | .error _ => false

/-- A holder that is listed only behind a free disk of the same name is not looked at: the plan of
any holder is not kept to. -/
theorem later_holder_unseen :
    ¬ ∀ (arguments : List String) (environment : String → Option Bytes) (host : Host)
      (time : String) (isForced isVerbose : Bool) (config : Config),
      CommandLine.parse arguments = .ok ⟨.stop isForced, isVerbose⟩ →
      Config.ofLookup (Config.textLookup environment) = .ok config →
      (VmLifecycle.run arguments environment host time).calls.map (·.args) <+:
        (plan isForced (isHeldAnywhere
          (host.behaviour (Disk.listArgs config.dataDisk)).stdout
          config.dataDisk)).map (Order.args config isForced) := by
  intro hplan
  have hprefix := hplan ["stop"] (fun _ => none) (hostOfListing heldLaterListing)
    "now" false false .standard rfl rfl
  revert hprefix
  decide +kernel

end Stop

end VmLifecycle
