import VmLifecycle.Run

namespace VmLifecycle

/-!
Control that works through its gateway alone. Whatever holds of each of its steps, and of one step
after another, holds of the probe, of every stop and detach, and of every command.
-/

abbrev Program (α : Type) : Type 1 :=
  ∀ σ : Type, Gateway σ → Control σ α

/-- A program that does the same over every gateway, and sees no more of it than it gives. -/
inductive Uniform : {α : Type} → Program α → Prop
  | pure (value : α) : Uniform fun _ _ => Pure.pure value
  | fail (error : Error) : Uniform (α := α) fun _ _ => Control.fail error
  | log (record : Record) : Uniform fun _ _ => Control.log record
  | output (args : List String) : Uniform fun _ gateway => Control.output gateway args
  | combinedOutput (args : List String) :
      Uniform fun _ gateway => Control.combinedOutput gateway args
  | bind {first : Program α} {next : α → Program β} (hfirst : Uniform first)
      (hnext : ∀ value, Uniform (next value)) :
      Uniform fun σ gateway => first σ gateway >>= fun value => next value σ gateway
  | request {disk : Program Unit} (hdisk : Uniform disk) :
      Uniform fun σ gateway => DiskManager.request (disk σ gateway)

theorem Probe.run_uniform (probe : Probe) :
    Uniform fun _ gateway => probe.run gateway := by
  refine .bind (.output _) fun bytes => ?_
  exact .bind (.log _) fun _ => .pure _

namespace Disk

theorem look_uniform (name : String) : Uniform fun _ gateway => look gateway name := by
  refine .bind (.output _) fun listing => ?_
  cases findInListing listing name with
  | error cause => exact .fail _
  | ok found => exact .pure found

theorem unlock_uniform (name : String) : Uniform fun _ gateway => unlock gateway name := by
  refine .bind (.combinedOutput _) fun combined => ?_
  cases combined.status with
  | error error => exact .fail _
  | ok _ => exact .pure ()

theorem detach_uniform (name : String) : Uniform fun _ gateway => detach gateway name := by
  refine .bind (look_uniform name) fun found => ?_
  cases found with
  | none => exact .log _
  | some disk =>
      by_cases hholder : disk.holder.isEmpty
      · simp only [if_pos hholder]
        exact .log _
      · simp only [if_neg hholder]
        exact .bind (.log _) fun _ => unlock_uniform name

end Disk

namespace Stop

theorem permit_uniform (name : InstanceName) (status : Status) :
    Uniform fun _ _ => permit name status := by
  cases status with
  | running => exact .pure ()
  | stopped => exact .fail _
  | nonexistent => exact .fail _
  | unrecognized => exact .fail _

theorem issue_uniform (args : List String) : Uniform fun _ gateway => issue gateway args := by
  refine .bind (.combinedOutput args) fun combined => ?_
  cases combined.status with
  | error error => exact .bind (.log _) fun _ => .fail error
  | ok _ => exact .pure ()

variable {disk : Program Unit}

theorem detachAndStop_uniform (stop : Stop) (hdisk : Uniform disk) (isForced : Bool) :
    Uniform fun σ gateway => stop.detachAndStop gateway (disk σ gateway) isForced := by
  refine .bind (.request hdisk) fun _ => ?_
  refine .bind (.log _) fun _ => ?_
  exact .bind (issue_uniform _) fun _ => .log _

theorem run_uniform (stop : Stop) (hdisk : Uniform disk) (isForced : Bool) :
    Uniform fun σ gateway => stop.run gateway (disk σ gateway) isForced := by
  cases isForced with
  | true => exact stop.detachAndStop_uniform hdisk true
  | false =>
      refine .bind (Probe.run_uniform _) fun status => ?_
      refine .bind (permit_uniform _ status) fun _ => ?_
      exact stop.detachAndStop_uniform hdisk false

end Stop

theorem Command.execute_uniform (config : Config) (command : Command) :
    Uniform fun _ gateway => command.execute config gateway := by
  cases command with
  | stop isForced =>
      refine .bind (.log _) fun _ => ?_
      exact .bind (Stop.run_uniform _ (Disk.detach_uniform _) isForced) fun _ => .pure none
  | status =>
      refine .bind (Probe.run_uniform _) fun status => ?_
      cases status with
      | unrecognized => exact .fail _
      | running => exact .pure _
      | stopped => exact .pure _
      | nonexistent => exact .pure _

end VmLifecycle
