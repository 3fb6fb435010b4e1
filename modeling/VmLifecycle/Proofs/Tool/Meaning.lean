import VmLifecycle.Proofs.Tool.Calls

namespace VmLifecycle

/-!
Two runs over one tool that behaves in two ways. Where each command ends in the same way both times
and means the same, control goes the same way, and what it shows is the same.
-/

inductive Meaning where
  | status (status : Status)
  | listing (found : Option Disk)
  | malformed (message : String)
  | failure (text : String)
  | nothing
  deriving DecidableEq

def Meaning.ofListing : Except Json.Error (Option Disk) → Meaning
  | .ok found => .listing found
  | .error cause => .malformed cause.message

namespace Behaviour

def succeeds (behaviour : Behaviour) : Bool :=
  decide (behaviour.ending = .exit 0)

/-- A probe and a listing are read when they succeed, an unlock and a stop when they fail. -/
def meaning (behaviour : Behaviour) : List String → Meaning
  | ["ls", "-f", _, _] =>
      if behaviour.succeeds then
        .status (Status.classify (trim (Utf8.decodeLossy behaviour.stdout)))
      else .nothing
  | ["disk", "ls", disk, "--json"] =>
      if behaviour.succeeds then
        .ofListing (Disk.findInListing behaviour.stdout disk)
      else .nothing
  | ["disk", "unlock", _] =>
      if behaviour.succeeds then .nothing
      else .failure (trim (Utf8.decodeLossy behaviour.merged))
  | "stop" :: _ =>
      if behaviour.succeeds then .nothing else .failure (Utf8.decodeLossy behaviour.merged)
  | _ => .nothing

section

variable (behaviour : Behaviour)

theorem meaning_probe (name : InstanceName) :
    behaviour.meaning (Probe.args name) =
      if behaviour.succeeds then
        .status (Status.classify (trim (Utf8.decodeLossy behaviour.stdout)))
      else .nothing := rfl

theorem meaning_listing (disk : String) :
    behaviour.meaning (Disk.listArgs disk) =
      if behaviour.succeeds then
        .ofListing (Disk.findInListing behaviour.stdout disk)
      else .nothing := rfl

theorem meaning_unlock (disk : String) :
    behaviour.meaning (Disk.unlockArgs disk) =
      if behaviour.succeeds then .nothing
      else .failure (trim (Utf8.decodeLossy behaviour.merged)) := rfl

theorem meaning_stop (name : InstanceName) (isForced : Bool) :
    behaviour.meaning (Stop.args name isForced) =
      if behaviour.succeeds then .nothing
      else .failure (Utf8.decodeLossy behaviour.merged) := by
  cases isForced <;> rfl

end

def SameFor (args : List String) (first second : Behaviour) : Prop :=
  first.ending = second.ending ∧ first.meaning args = second.meaning args

end Behaviour

def Host.behaving (host : Host) (behaviour : List String → Behaviour) : Host :=
  { host with behaviour }

namespace Event

/-- The records that are shown without a wish for more. -/
def shownRecords (trace : List Event) : List Record :=
  (recordsOf trace).filter (·.isShown .info)

@[simp] theorem shownRecords_append (first second : List Event) :
    shownRecords (first ++ second) = shownRecords first ++ shownRecords second := by
  simp [shownRecords]

end Event

/-- Two results with values in a relation, or with errors of one message. -/
inductive ResultsAlike (related : α → α → Prop) : Except Error α → Except Error α → Prop
  | ok (hvalues : related first second) : ResultsAlike related (.ok first) (.ok second)
  | error (hmessage : first.message = second.message) :
      ResultsAlike related (.error first) (.error second)

/-- Two finished commands that ended in the same way, and of whose outputs the same is read if they
failed. -/
structure FailuresAlike (read : Bytes → String) (first second : CombinedOutput) : Prop where
  status : first.status = second.status
  read : ∀ error, first.status = .error error → read first.output = read second.output

/-- Two runs that nobody can tell apart who sees neither the values nor the hidden records. -/
structure OutcomesAlike (related : α → α → Prop) (first second : Outcome σ α) : Prop where
  result : ResultsAlike related first.result second.result
  shown : Event.shownRecords first.trace = Event.shownRecords second.trace
  args : (Event.commandsOf first.trace).map (·.1) = (Event.commandsOf second.trace).map (·.1)

namespace Tool

theorem run_behaving (tool : Tool) (host : Host) (other : List String → Behaviour)
    (args : List String) :
    (∃ error, host.run tool.program args tool.home = .error error ∧
      (host.behaving other).run tool.program args tool.home = .error error) ∨
    ∃ call, call.args = args ∧
      host.run tool.program args tool.home = .ok (host.behaviour args, call) ∧
      (host.behaving other).run tool.program args tool.home = .ok (other args, call) := by
  unfold Host.run
  cases hlaunch : host.launch tool.program args tool.home with
  | error error =>
      have hother : (host.behaving other).launch tool.program args tool.home =
          .error error := hlaunch
      exact .inl ⟨error, rfl, by rw [hother]⟩
  | ok _ =>
      have hother : (host.behaving other).launch tool.program args tool.home = .ok () :=
        hlaunch
      refine .inr ⟨_, ?_, rfl, ?_⟩
      · rfl
      · rw [hother]
        rfl

@[simp] theorem call?_behaving (tool : Tool) (host : Host)
    (other : List String → Behaviour) (args : List String) :
    tool.call? (host.behaving other) args = tool.call? host args := by
  rcases run_behaving tool host other args with
    ⟨error, hfirst, hsecond⟩ | ⟨call, -, hfirst, hsecond⟩
  · rw [call?, call?, hfirst, hsecond]
  · rw [call?, call?, hfirst, hsecond]

theorem callsOf_behaving (tool : Tool) (host : Host)
    (other : List String → Behaviour) {first second : List (List String × Response)}
    (hargs : first.map (·.1) = second.map (·.1)) :
    tool.callsOf host first = tool.callsOf (host.behaving other) second := by
  have hsame : tool.call? (host.behaving other) = tool.call? host :=
    funext fun args => call?_behaving tool host other args
  rw [callsOf_eq, callsOf_eq, hsame, hargs]

theorem shown_outputOf (tool : Tool) (host : Host) (args : List String) (state : State) :
    ((tool.gateway host).outputOf args state).2.1.filter (·.isShown .info) = [] := by
  simp only [Gateway.outputOf, gateway, output, args_build]
  cases hrun : host.run tool.program args tool.home with
  | error error => simp [build, runningRecord, Record.isShown, Level.rank]
  | ok ran =>
      obtain ⟨behaviour, call⟩ := ran
      cases hstderr : behaviour.stderr.isEmpty <;>
        simp [build, runningRecord, stderrRecord, Record.isShown, Level.rank, hstderr]

theorem shown_combinedOf (tool : Tool) (host : Host) (args : List String) (state : State) :
    ((tool.gateway host).combinedOf args state).2.1.filter (·.isShown .info) = [] := by
  simp only [Gateway.combinedOf, gateway, combinedOutput, args_build]
  cases hrun : host.run tool.program args tool.home with
  | error error => simp [build, runningMergedRecord, Record.isShown, Level.rank]
  | ok ran => simp [build, runningMergedRecord, Record.isShown, Level.rank]

/-- Control over the tool as it behaves on the host, and control over the tool as it behaves
otherwise: they run alike if what the first has run means the same for both. -/
def Alike (tool : Tool) (host : Host) (other : List String → Behaviour)
    (related : α → α → Prop) (first second : Control State α) : Prop :=
  ∀ before after,
    (∀ call ∈ tool.callsOf host (Event.commandsOf (first before).trace),
      Behaviour.SameFor call.args (host.behaviour call.args) (other call.args)) →
    OutcomesAlike related (first before) (second after)

namespace Alike

variable {tool : Tool} {host : Host} {other : List String → Behaviour}

theorem pure {related : α → α → Prop} {first second : α} (hvalues : related first second) :
    tool.Alike host other related (Pure.pure first) (Pure.pure second) :=
  fun _ _ _ => ⟨.ok hvalues, rfl, rfl⟩

theorem fail {related : α → α → Prop} {first second : Error}
    (hmessage : first.message = second.message) :
    tool.Alike host other related (Control.fail first) (Control.fail second) :=
  fun _ _ _ => ⟨.error hmessage, rfl, rfl⟩

theorem log (record : Record) :
    tool.Alike host other Eq (Control.log record) (Control.log record) :=
  fun _ _ _ => ⟨.ok rfl, rfl, rfl⟩

theorem log_hidden {first second : Record} (hfirst : first.isShown .info = false)
    (hsecond : second.isShown .info = false) :
    tool.Alike host other Eq (Control.log first) (Control.log second) := by
  refine fun _ _ _ => ⟨.ok rfl, ?_, rfl⟩
  simp [Event.shownRecords, hfirst, hsecond]

section Command

variable {args : List String} {response : Response}

theorem sameFor_of_started
    (hsame : ∀ call ∈ tool.callsOf host [(args, response)],
      Behaviour.SameFor call.args (host.behaviour call.args) (other call.args))
    {behaviour : Behaviour} {call : Call} (hargs : call.args = args)
    (hrun : host.run tool.program args tool.home = .ok (behaviour, call)) :
    Behaviour.SameFor args (host.behaviour args) (other args) := by
  have hcall : call ∈ tool.callsOf host [(args, response)] := by
    simp [callsOf, call?, hrun]
  simpa only [hargs] using hsame call hcall

theorem output (related : Bytes → Bytes → Prop)
    (hread : (host.behaviour args).succeeds = true → (other args).succeeds = true →
      (host.behaviour args).meaning args = (other args).meaning args →
      related (host.behaviour args).stdout (other args).stdout) :
    tool.Alike host other related (Control.output (tool.gateway host) args)
      (Control.output (tool.gateway (host.behaving other)) args) := by
  intro before after hsame
  refine ⟨?_, ?_, rfl⟩
  · simp only [Control.output_apply, (outputOf_gateway _).1, answer]
    rcases run_behaving tool host other args with
      ⟨error, hfirst, hsecond⟩ | ⟨call, hargs, hfirst, hsecond⟩
    · rw [hfirst, hsecond]
      exact .error rfl
    · obtain ⟨hending, hmeaning⟩ := sameFor_of_started hsame hargs hfirst
      rw [hfirst, hsecond]
      simp only [← hending]
      by_cases hsuccess : (host.behaviour args).ending = .exit 0
      · simp only [check, if_pos hsuccess]
        refine .ok (hread ?_ ?_ hmeaning)
        · exact decide_eq_true hsuccess
        · exact decide_eq_true (hending ▸ hsuccess)
      · simp only [check, if_neg hsuccess]
        exact .error rfl
  · simp [Control.output_apply, Event.shownRecords, shown_outputOf]

theorem combinedOutput (read : Bytes → String)
    (hread : (host.behaviour args).succeeds = false → (other args).succeeds = false →
      (host.behaviour args).meaning args = (other args).meaning args →
      read (host.behaviour args).merged = read (other args).merged) :
    tool.Alike host other (FailuresAlike read)
      (Control.combinedOutput (tool.gateway host) args)
      (Control.combinedOutput (tool.gateway (host.behaving other)) args) := by
  intro before after hsame
  refine ⟨?_, ?_, rfl⟩
  · simp only [Control.combinedOutput_apply, (combinedOf_gateway _).1, mergedAnswer]
    rcases run_behaving tool host other args with
      ⟨error, hfirst, hsecond⟩ | ⟨call, hargs, hfirst, hsecond⟩
    · rw [hfirst, hsecond]
      exact .ok ⟨rfl, fun _ _ => rfl⟩
    · obtain ⟨hending, hmeaning⟩ := sameFor_of_started hsame hargs hfirst
      rw [hfirst, hsecond]
      refine .ok ⟨congrArg (tool.check args) hending, fun error hfailed => ?_⟩
      have hfailure : (host.behaviour args).ending ≠ .exit 0 := by
        intro hsuccess
        simp [check, hsuccess] at hfailed
      refine hread ?_ ?_ hmeaning
      · exact decide_eq_false hfailure
      · exact decide_eq_false (hending ▸ hfailure)
  · simp [Control.combinedOutput_apply, Event.shownRecords, shown_combinedOf]

end Command

theorem bind {related : α → α → Prop} {next : β → β → Prop}
    {first second : Control State α} {firstNext secondNext : α → Control State β}
    (hfirst : tool.Alike host other related first second)
    (hnext : ∀ one two, related one two →
      tool.Alike host other next (firstNext one) (secondNext two)) :
    tool.Alike host other next (first >>= firstNext) (second >>= secondNext) := by
  intro before after hsame
  -- The first part has run no more than the whole, so it may be compared without the second.
  have hstart : OutcomesAlike related (first before) (second after) := by
    refine hfirst before after fun call hcall => hsame call ?_
    cases hresult : (first before).result with
    | error error =>
        rw [Control.bind_of_error hresult]
        exact hcall
    | ok value =>
        rw [Control.bind_of_ok hresult, Event.commandsOf_append, callsOf_append]
        exact List.mem_append_left _ hcall
  obtain ⟨hresult, hshown, hargs⟩ := hstart
  generalize hone : (first before).result = one at hresult
  generalize htwo : (second after).result = two at hresult
  cases hresult with
  | error hmessage =>
      rw [Control.bind_of_error hone, Control.bind_of_error htwo]
      exact ⟨.error hmessage, hshown, hargs⟩
  | ok hvalues =>
      rw [Control.bind_of_ok hone] at hsame
      rw [Control.bind_of_ok hone, Control.bind_of_ok htwo]
      have hrest := hnext _ _ hvalues (first before).state (second after).state
        fun call hcall => hsame call (by
          rw [Event.commandsOf_append, callsOf_append]
          exact List.mem_append_right _ hcall)
      refine ⟨hrest.result, ?_, ?_⟩
      · simp only [Event.shownRecords_append, hshown, hrest.shown]
      · simp only [Event.commandsOf_append, List.map_append, hargs, hrest.args]

theorem request {first second : DiskManager State}
    (hdisk : tool.Alike host other Eq first second) :
    tool.Alike host other Eq first.request second.request := by
  intro before after hsame
  have hinside := hdisk before after (by simpa [DiskManager.request] using hsame)
  refine ⟨hinside.result, ?_, ?_⟩
  · simpa [DiskManager.request, Event.shownRecords] using hinside.shown
  · simpa [DiskManager.request] using hinside.args

end Alike

end Tool

end VmLifecycle
