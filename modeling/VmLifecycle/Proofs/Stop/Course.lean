import VmLifecycle.Proofs.Control.Trace
import VmLifecycle.Stop

namespace VmLifecycle

theorem Status.classify_eq_running_iff {text : String} :
    Status.classify text = .running ↔ text = "Running" := by
  unfold Status.classify
  split
  · simp [*]
  · split
    · simp [*]
    · split <;> simp [*]

namespace Probe

def shown (bytes : Bytes) : String :=
  trim (Utf8.decodeLossy bytes)

theorem run_of_error {probe : Probe} {gateway : Gateway σ} {state : σ}
    {error : Error}
    (hanswer : (gateway.outputOf (args probe.instanceName) state).1 =
      .error error) :
    run probe gateway state =
      ⟨.error error,
        [.ran (args probe.instanceName)
          (gateway.outputOf (args probe.instanceName) state).2.1
          (.output (.error error))],
        (gateway.outputOf (args probe.instanceName) state).2.2⟩ := by
  rw [run, Control.bind_of_error (by rw [Control.output_apply]; exact hanswer)]
  rw [Control.output_apply, hanswer]

theorem run_of_ok {probe : Probe} {gateway : Gateway σ} {state : σ}
    {bytes : Bytes}
    (hanswer : (gateway.outputOf (args probe.instanceName) state).1 =
      .ok bytes) :
    run probe gateway state =
      ⟨.ok (Status.classify (shown bytes)),
        [.ran (args probe.instanceName)
            (gateway.outputOf (args probe.instanceName) state).2.1
            (.output (.ok bytes)),
          .logged (statusRecord (shown bytes))],
        (gateway.outputOf (args probe.instanceName) state).2.2⟩ := by
  rw [run, Control.bind_of_ok (by rw [Control.output_apply]; exact hanswer)]
  rw [Control.output_apply, hanswer]
  rfl

end Probe

namespace Stop

/-- What the back ends give to a stop: the answer to its probe, what its detach request does and
returns, and what its stop command gives. -/
structure Stages where
  probe : Except Error Bytes
  inside : List Event
  detach : Except Error Unit
  command : CombinedOutput

/-- The back ends as the detach request finds them; a forced stop does not probe. -/
def ready (stop : Stop) (gateway : Gateway σ) (isForced : Bool) (state : σ) : σ :=
  if isForced then state
  else (gateway.outputOf (Probe.args stop.instanceName) state).2.2

def stages (stop : Stop) (gateway : Gateway σ) (disk : DiskManager σ)
    (isForced : Bool) (state : σ) : Stages :=
  let detach := disk (stop.ready gateway isForced state)
  { probe := (gateway.outputOf (Probe.args stop.instanceName) state).1
    inside := detach.trace
    detach := detach.result
    command := (gateway.combinedOf (args stop.instanceName isForced) detach.state).1 }

def refusal? (name : InstanceName) : Status → Option Error
  | .running => none
  | .stopped => some (.alreadyStopped name.text)
  | .nonexistent => some (.notExist name.text)
  | .unrecognized => some .unrecognizedStatus

theorem permit_of_refusal {name : InstanceName} {status : Status} {error : Error}
    (hrefusal : refusal? name status = some error) (state : σ) :
    permit name status state = ⟨.error error, [], state⟩ := by
  cases status with
  | running => simp [refusal?] at hrefusal
  | stopped => cases hrefusal; rfl
  | nonexistent => cases hrefusal; rfl
  | unrecognized => cases hrefusal; rfl

theorem refusal?_eq_none_iff {name : InstanceName} {status : Status} :
    refusal? name status = none ↔ status = .running := by
  cases status <;> simp [refusal?]

inductive Entry (name : InstanceName) (isForced : Bool) (stages : Stages) :
    List Event → Prop
  | forced (hforced : isForced = true) : Entry name isForced stages []
  | probed (hforced : isForced = false) (hprobe : stages.probe = .ok bytes)
      (hrunning : Probe.shown bytes = "Running") :
      Entry name isForced stages
        [.ran (Probe.args name) records (.output (.ok bytes)),
          .logged (Probe.statusRecord (Probe.shown bytes))]

inductive Finish (name : InstanceName) (isForced : Bool) (stages : Stages) :
    List Event → Except Error Unit → Prop
  | detachFailed (hdetach : stages.detach = .error error) :
      Finish name isForced stages
        [.detached stages.inside (.error error)] (.error error)
  | stopFailed (hdetach : stages.detach = .ok ())
      (hstatus : stages.command.status = .error error) :
      Finish name isForced stages
        [.detached stages.inside (.ok ()), .logged (stoppingRecord isForced),
          .ran (args name isForced) records (.combined stages.command),
          .logged (failedRecord stages.command.text)]
        (.error error)
  | stopped (hdetach : stages.detach = .ok ())
      (hstatus : stages.command.status = .ok ()) :
      Finish name isForced stages
        [.detached stages.inside (.ok ()), .logged (stoppingRecord isForced),
          .ran (args name isForced) records (.combined stages.command),
          .logged stoppedRecord]
        (.ok ())

inductive Course (name : InstanceName) (isForced : Bool) (stages : Stages) :
    List Event → Except Error Unit → Prop
  | probeFailed (hforced : isForced = false)
      (hprobe : stages.probe = .error error) :
      Course name isForced stages
        [.ran (Probe.args name) records (.output (.error error))] (.error error)
  | refused (hforced : isForced = false) (hprobe : stages.probe = .ok bytes)
      (hrefusal : refusal? name (Status.classify (Probe.shown bytes)) = some error) :
      Course name isForced stages
        [.ran (Probe.args name) records (.output (.ok bytes)),
          .logged (Probe.statusRecord (Probe.shown bytes))]
        (.error error)
  | entered (entry : Entry name isForced stages before)
      (finish : Finish name isForced stages after result) :
      Course name isForced stages (before ++ after) result

theorem request_apply (disk : DiskManager σ) (state : σ) :
    disk.request state =
      ⟨(disk state).result, [.detached (disk state).trace (disk state).result],
        (disk state).state⟩ := rfl

theorem issue_of_error {gateway : Gateway σ} {args : List String} {state : σ}
    {error : Error}
    (hstatus : (gateway.combinedOf args state).1.status = .error error) :
    issue gateway args state =
      ⟨.error error,
        [.ran args (gateway.combinedOf args state).2.1
            (.combined (gateway.combinedOf args state).1),
          .logged (failedRecord (gateway.combinedOf args state).1.text)],
        (gateway.combinedOf args state).2.2⟩ := by
  rw [issue, Control.bind_of_ok (by rw [Control.combinedOutput_apply])]
  simp only [Control.combinedOutput_apply, hstatus]
  rfl

theorem issue_of_ok {gateway : Gateway σ} {args : List String} {state : σ}
    (hstatus : (gateway.combinedOf args state).1.status = .ok ()) :
    issue gateway args state =
      ⟨.ok (),
        [.ran args (gateway.combinedOf args state).2.1
          (.combined (gateway.combinedOf args state).1)],
        (gateway.combinedOf args state).2.2⟩ := by
  rw [issue, Control.bind_of_ok (by rw [Control.combinedOutput_apply])]
  simp only [Control.combinedOutput_apply, hstatus]
  rfl

theorem detachAndStop_finish (stop : Stop) (gateway : Gateway σ)
    (disk : DiskManager σ) (isForced : Bool) (state : σ) :
    Finish stop.instanceName isForced (stop.stages gateway disk isForced state)
      (stop.detachAndStop gateway disk isForced
        (stop.ready gateway isForced state)).trace
      (stop.detachAndStop gateway disk isForced
        (stop.ready gateway isForced state)).result := by
  generalize hready : stop.ready gateway isForced state = ready
  have hstages : stop.stages gateway disk isForced state =
      { probe := (gateway.outputOf (Probe.args stop.instanceName) state).1
        inside := (disk ready).trace
        detach := (disk ready).result
        command := (gateway.combinedOf (args stop.instanceName isForced)
          (disk ready).state).1 } := by
    rw [stages, hready]
  rw [hstages, detachAndStop]
  cases hdetach : (disk ready).result with
  | error error =>
      rw [Control.bind_of_error (by rw [request_apply]; exact hdetach)]
      rw [request_apply, hdetach]
      exact .detachFailed rfl
  | ok _ =>
      rw [Control.bind_of_ok (by rw [request_apply]; exact hdetach)]
      rw [request_apply, hdetach, Control.bind_of_ok rfl]
      cases hstatus : (gateway.combinedOf (args stop.instanceName isForced)
          (disk ready).state).1.status with
      | error error =>
          rw [Control.bind_of_error (by
            rw [Control.log_apply, issue_of_error hstatus])]
          simp only [Control.log_apply, issue_of_error hstatus]
          exact .stopFailed rfl hstatus
      | ok _ =>
          rw [Control.bind_of_ok (by
            rw [Control.log_apply, issue_of_ok hstatus])]
          simp only [Control.log_apply, issue_of_ok hstatus]
          exact .stopped rfl hstatus

/-- Every run takes one of the courses, with the stages that the back ends give it. -/
theorem run_course (stop : Stop) (gateway : Gateway σ) (disk : DiskManager σ)
    (isForced : Bool) (state : σ) :
    Course stop.instanceName isForced (stop.stages gateway disk isForced state)
      (stop.run gateway disk isForced state).trace
      (stop.run gateway disk isForced state).result := by
  have hfinish := detachAndStop_finish stop gateway disk isForced state
  cases isForced with
  | true => exact .entered (.forced rfl) hfinish
  | false =>
      cases hprobe : (gateway.outputOf (Probe.args stop.instanceName) state).1 with
      | error error =>
          rw [run, if_neg Bool.false_ne_true,
            Control.bind_of_error (by rw [Probe.run_of_error hprobe]),
            Probe.run_of_error hprobe]
          exact .probeFailed rfl hprobe
      | ok bytes =>
          rw [run, if_neg Bool.false_ne_true,
            Control.bind_of_ok (by rw [Probe.run_of_ok hprobe]),
            Probe.run_of_ok hprobe]
          cases hrefusal : refusal? stop.instanceName
              (Status.classify (Probe.shown bytes)) with
          | some error =>
              rw [Control.bind_of_error (by rw [permit_of_refusal hrefusal]),
                permit_of_refusal hrefusal]
              exact .refused rfl hprobe hrefusal
          | none =>
              have hrunning : Status.classify (Probe.shown bytes) = .running :=
                refusal?_eq_none_iff.mp hrefusal
              rw [hrunning, Control.bind_of_ok rfl]
              exact .entered (.probed rfl hprobe
                (Status.classify_eq_running_iff.mp hrunning)) hfinish

end Stop

end VmLifecycle
