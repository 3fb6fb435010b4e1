import VmLifecycle.Proofs.Error
import VmLifecycle.Proofs.Stop.Course

namespace VmLifecycle.Stop

theorem run_of_refusal {stop : Stop} {gateway : Gateway σ} {disk : DiskManager σ} {state : σ}
    {told : Status} {error : Error}
    (htold : (Probe.run ⟨stop.instanceName⟩ gateway state).result = .ok told)
    (hrefusal : refusal? stop.instanceName told = some error) :
    (stop.run gateway disk false state).result = .error error := by
  rw [run, if_neg Bool.false_ne_true, Control.bind_of_ok htold,
    Control.bind_of_error (by rw [permit_of_refusal hrefusal])]

theorem eq_of_refusal_message {name other : InstanceName} {first second : Status}
    {one two : Error} (hfirst : refusal? name first = some one)
    (hsecond : refusal? other second = some two) (hone : one.TellsState) (htwo : two.TellsState)
    (hmessage : one.message = two.message) : name = other ∧ first = second := by
  cases first with
  | running => cases hfirst
  | stopped =>
      cases hfirst
      cases second with
      | running => cases hsecond
      | stopped =>
          cases hsecond
          exact ⟨Error.eq_of_message_alreadyStopped hmessage, rfl⟩
      | nonexistent =>
          cases hsecond
          exact absurd hmessage.symm (Error.message_notExist_ne _ _)
      | unrecognized => cases hsecond; cases htwo
  | nonexistent =>
      cases hfirst
      cases second with
      | running => cases hsecond
      | stopped =>
          cases hsecond
          exact absurd hmessage (Error.message_notExist_ne _ _)
      | nonexistent =>
          cases hsecond
          exact ⟨Error.eq_of_message_notExist hmessage, rfl⟩
      | unrecognized => cases hsecond; cases htwo
  | unrecognized => cases hfirst; cases hone

end VmLifecycle.Stop
