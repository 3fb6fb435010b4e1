import VmLifecycle.Proofs.Stop.Course

namespace VmLifecycle.Stop

namespace Stages

def ofWord (name : InstanceName) (word : String) : Except Error Unit :=
  if word = "Running" then .ok ()
  else if word = "Stopped" then .error (.alreadyStopped name.text)
  else if word = "" then .error (.notExist name.text)
  else .error .unrecognizedStatus

/-- Whether a run comes to its detach request. -/
def admission (name : InstanceName) (isForced : Bool) (given : Stages) :
    Except Error Unit :=
  if isForced then .ok ()
  else
    match given.probe with
    | .error error => .error error
    | .ok bytes => ofWord name (trim (Utf8.decodeLossy bytes))

/-- The error of the first stage that fails, if one does. -/
def verdict (name : InstanceName) (isForced : Bool) (given : Stages) :
    Except Error Unit := do
  given.admission name isForced
  given.detach
  given.command.status

def probeRecords (isForced : Bool) (given : Stages) : List Record :=
  match isForced, given.probe with
  | false, .ok bytes =>
      [{ level := .debug
         message := "Status of virtual machine: " ++ trim (Utf8.decodeLossy bytes) }]
  | _, _ => []

def noticeRecord (isForced : Bool) : Record where
  level := .info
  message :=
    if isForced then "Forcibly stopping Nimbus virtual machine..."
    else "Stopping existing Nimbus virtual machine..."

def closingRecord (command : CombinedOutput) : Record :=
  match command.status with
  | .ok () =>
      { level := .info, message := "Nimbus virtual machine stopped successfully" }
  | .error _ =>
      { level := .error
        message := "Nimbus virtual machine failed to stop, debug logs:\n" ++
          Utf8.decodeLossy command.output }

def records (name : InstanceName) (isForced : Bool) (given : Stages) : List Record :=
  match given.admission name isForced, given.detach with
  | .ok (), .ok () =>
      given.probeRecords isForced ++ [noticeRecord isForced, closingRecord given.command]
  | _, _ => given.probeRecords isForced

/-- The argument lists that a run hands to its gateway, those of its detach among them. -/
def issued (name : InstanceName) (isForced : Bool) (given : Stages) : List (List String) :=
  (if isForced then [] else [Probe.args name]) ++
    match given.admission name isForced, given.detach with
    | .ok (), .ok () => (Event.commandsOf given.inside).map (·.1) ++ [args name isForced]
    | .ok (), .error _ => (Event.commandsOf given.inside).map (·.1)
    | .error _, _ => []

theorem ofWord_eq_ok_iff {name : InstanceName} {word : String} :
    ofWord name word = .ok () ↔ word = "Running" := by
  unfold ofWord
  split
  · simp [*]
  · split
    · simp [*]
    · split <;> simp [*]

theorem ofWord_of_refusal {name : InstanceName} {word : String} {error : Error}
    (hrefusal : refusal? name (Status.classify word) = some error) :
    ofWord name word = .error error := by
  unfold Status.classify at hrefusal
  unfold ofWord
  split at hrefusal
  · cases hrefusal
  · split at hrefusal
    · cases hrefusal
      simp [*]
    · split at hrefusal
      · cases hrefusal
        simp [*]
      · cases hrefusal
        simp [*]

theorem admission_eq_ok_iff {name : InstanceName} {isForced : Bool} {given : Stages} :
    given.admission name isForced = .ok () ↔
      isForced = true ∨ ∃ bytes, given.probe = .ok bytes ∧
        trim (Utf8.decodeLossy bytes) = "Running" := by
  cases isForced with
  | true => simp [admission]
  | false =>
      cases hprobe : given.probe with
      | error error => simp [admission, hprobe]
      | ok bytes => simp [admission, hprobe, ofWord_eq_ok_iff]

theorem verdict_eq_ok_iff_stages {name : InstanceName} {isForced : Bool} {given : Stages} :
    given.verdict name isForced = .ok () ↔
      given.admission name isForced = .ok () ∧ given.detach = .ok () ∧
        given.command.status = .ok () := by
  rw [verdict]
  cases given.admission name isForced with
  | error error => simp [bind, Except.bind]
  | ok _ =>
      cases given.detach with
      | error error => simp [bind, Except.bind]
      | ok _ => simp [bind, Except.bind]

theorem verdict_eq_ok_iff {name : InstanceName} {isForced : Bool} {given : Stages} :
    given.verdict name isForced = .ok () ↔
      (isForced = true ∨ ∃ bytes, given.probe = .ok bytes ∧
        trim (Utf8.decodeLossy bytes) = "Running") ∧
      given.detach = .ok () ∧ given.command.status = .ok () := by
  rw [verdict_eq_ok_iff_stages, admission_eq_ok_iff]

end Stages

section Course

variable {name : InstanceName} {isForced : Bool} {given : Stages}
  {trace : List Event} {result : Except Error Unit}

theorem Entry.admission_eq (entry : Entry name isForced given trace) :
    given.admission name isForced = .ok () := by
  cases entry with
  | forced hforced => exact Stages.admission_eq_ok_iff.mpr (.inl hforced)
  | probed hforced hprobe hrunning =>
      exact Stages.admission_eq_ok_iff.mpr (.inr ⟨_, hprobe, hrunning⟩)

theorem Entry.ownRecords_eq (entry : Entry name isForced given trace) :
    Event.ownRecords trace = given.probeRecords isForced := by
  cases entry with
  | forced hforced => simp [Stages.probeRecords, hforced]
  | probed hforced hprobe hrunning =>
      simp [Stages.probeRecords, hforced, hprobe, Probe.statusRecord, Probe.shown]

theorem Course.result_eq (course : Course name isForced given trace result) :
    result = given.verdict name isForced := by
  cases course with
  | probeFailed hforced hprobe =>
      simp [Stages.verdict, Stages.admission, hforced, hprobe, bind, Except.bind]
  | refused hforced hprobe hrefusal =>
      simp only [Probe.shown] at hrefusal
      simp [Stages.verdict, Stages.admission, hforced, hprobe,
        Stages.ofWord_of_refusal hrefusal, bind, Except.bind]
  | entered entry finish =>
      rw [Stages.verdict, entry.admission_eq]
      cases finish with
      | detachFailed hdetach => simp [hdetach, bind, Except.bind]
      | stopFailed hdetach hstatus => simp [hdetach, hstatus, bind, Except.bind]
      | stopped hdetach hstatus => simp [hdetach, hstatus, bind, Except.bind]

theorem Course.ownRecords_eq (course : Course name isForced given trace result) :
    Event.ownRecords trace = given.records name isForced := by
  cases course with
  | probeFailed hforced hprobe =>
      simp [Stages.records, Stages.admission, Stages.probeRecords, hforced, hprobe]
  | refused hforced hprobe hrefusal =>
      simp only [Probe.shown] at hrefusal
      simp [Stages.records, Stages.admission, Stages.probeRecords, hforced, hprobe,
        Stages.ofWord_of_refusal hrefusal, Probe.statusRecord, Probe.shown]
  | entered entry finish =>
      rw [Stages.records, entry.admission_eq, Event.ownRecords_append,
        entry.ownRecords_eq]
      cases finish with
      | detachFailed hdetach => simp [hdetach]
      | stopFailed hdetach hstatus =>
          simp [hdetach, stoppingRecord, Stages.noticeRecord, failedRecord,
            Stages.closingRecord, hstatus, CombinedOutput.text]
      | stopped hdetach hstatus =>
          simp [hdetach, stoppingRecord, Stages.noticeRecord, stoppedRecord,
            Stages.closingRecord, hstatus]

theorem Entry.args_eq (entry : Entry name isForced given trace) :
    (Event.commandsOf trace).map (·.1) = if isForced then [] else [Probe.args name] := by
  cases entry with
  | forced hforced => simp [hforced]
  | probed hforced hprobe hrunning => simp [hforced]

theorem Course.args_eq (course : Course name isForced given trace result) :
    (Event.commandsOf trace).map (·.1) = given.issued name isForced := by
  cases course with
  | probeFailed hforced hprobe =>
      simp [Stages.issued, Stages.admission, hforced, hprobe]
  | refused hforced hprobe hrefusal =>
      simp only [Probe.shown] at hrefusal
      simp [Stages.issued, Stages.admission, hforced, hprobe,
        Stages.ofWord_of_refusal hrefusal]
  | entered entry finish =>
      rw [Stages.issued, entry.admission_eq, Event.commandsOf_append, List.map_append,
        entry.args_eq]
      cases finish with
      | detachFailed hdetach => simp [hdetach]
      | stopFailed hdetach hstatus => simp [hdetach]
      | stopped hdetach hstatus => simp [hdetach]

end Course

/-- Over every gateway and disk manager a run succeeds exactly when it is admitted, its detach
succeeds and its stop command succeeds; otherwise it returns the error of the first stage that
failed, as that stage gave it. What it logs follows its stages too. -/
theorem run_verdict_and_records (stop : Stop) (gateway : Gateway σ)
    (disk : DiskManager σ) (isForced : Bool) (state : σ) :
    let name := stop.instanceName
    let probed := gateway.outputOf ["ls", "-f", "\x7b\x7b.Status\x7d\x7d", name.text] state
    let detached := disk (if isForced then state else probed.2.2)
    let stopped := gateway.combinedOf
      (if isForced then ["stop", "--force", name.text] else ["stop", name.text]) detached.state
    let given : Stages :=
      { probe := probed.1
        inside := detached.trace
        detach := detached.result
        command := stopped.1 }
    let outcome := stop.run gateway disk isForced state
    (outcome.result = .ok () ↔
      (isForced = true ∨ ∃ bytes, given.probe = .ok bytes ∧
        trim (Utf8.decodeLossy bytes) = "Running") ∧
      given.detach = .ok () ∧ given.command.status = .ok ()) ∧
    outcome.result = given.verdict name isForced ∧
    Event.ownRecords outcome.trace = given.records name isForced := by
  intro name probed detached stopped given outcome
  have course : Course name isForced given _ _ := run_course stop gateway disk isForced state
  refine ⟨?_, course.result_eq, course.ownRecords_eq⟩
  rw [course.result_eq]
  exact Stages.verdict_eq_ok_iff

end VmLifecycle.Stop
