import VmLifecycle.Disk.Manager
import VmLifecycle.Proofs.Control.Trace

namespace VmLifecycle.Disk

structure Stages where
  listing : Except Error Bytes
  unlock : CombinedOutput

def stages (gateway : Gateway σ) (name : String) (state : σ) : Stages :=
  let listed := gateway.outputOf (listArgs name) state
  { listing := listed.1
    unlock := (gateway.combinedOf (unlockArgs name) listed.2.2).1 }

def unlockError (name : String) (combined : CombinedOutput) (error : Error) : Error :=
  .disk ("failed to detach " ++ name ++ ": " ++ error.message ++ ": " ++
    trim combined.text)

inductive Course (name : String) (given : Stages) :
    List Event → Except Error Unit → Prop
  | listingFailed (hlisting : given.listing = .error error) :
      Course name given
        [.ran (listArgs name) records (.output (.error error))] (.error error)
  | listingMalformed (hlisting : given.listing = .ok bytes)
      (hfind : findInListing bytes name = .error cause) :
      Course name given
        [.ran (listArgs name) records (.output (.ok bytes))]
        (.error (.document cause))
  | missing (hlisting : given.listing = .ok bytes)
      (hfind : findInListing bytes name = .ok none) :
      Course name given
        [.ran (listArgs name) records (.output (.ok bytes)),
          .logged (missingRecord name)]
        (.ok ())
  | unheld (hlisting : given.listing = .ok bytes)
      (hfind : findInListing bytes name = .ok (some disk))
      (hholder : disk.holder = "") :
      Course name given
        [.ran (listArgs name) records (.output (.ok bytes)),
          .logged (unheldRecord disk)]
        (.ok ())
  | unlockFailed (hlisting : given.listing = .ok bytes)
      (hfind : findInListing bytes name = .ok (some disk))
      (hholder : disk.holder ≠ "") (hstatus : given.unlock.status = .error error) :
      Course name given
        [.ran (listArgs name) records (.output (.ok bytes)),
          .logged (detachingRecord disk),
          .ran (unlockArgs name) unlockRecords (.combined given.unlock)]
        (.error (unlockError name given.unlock error))
  | unlocked (hlisting : given.listing = .ok bytes)
      (hfind : findInListing bytes name = .ok (some disk))
      (hholder : disk.holder ≠ "") (hstatus : given.unlock.status = .ok ()) :
      Course name given
        [.ran (listArgs name) records (.output (.ok bytes)),
          .logged (detachingRecord disk),
          .ran (unlockArgs name) unlockRecords (.combined given.unlock)]
        (.ok ())

section Look

variable {gateway : Gateway σ} {name : String} {state : σ}

theorem look_of_error {error : Error}
    (hlisting : (gateway.outputOf (listArgs name) state).1 = .error error) :
    look gateway name state =
      ⟨.error error,
        [.ran (listArgs name) (gateway.outputOf (listArgs name) state).2.1
          (.output (.error error))],
        (gateway.outputOf (listArgs name) state).2.2⟩ := by
  rw [look, Control.bind_of_error (by rw [Control.output_apply]; exact hlisting)]
  rw [Control.output_apply, hlisting]

theorem look_of_ok {bytes : Bytes}
    (hlisting : (gateway.outputOf (listArgs name) state).1 = .ok bytes) :
    look gateway name state =
      ⟨(findInListing bytes name).mapError .document,
        [.ran (listArgs name) (gateway.outputOf (listArgs name) state).2.1
          (.output (.ok bytes))],
        (gateway.outputOf (listArgs name) state).2.2⟩ := by
  rw [look, Control.bind_of_ok (by rw [Control.output_apply]; exact hlisting)]
  rw [Control.output_apply, hlisting]
  cases hfind : findInListing bytes name with
  | error cause => rfl
  | ok found => rfl

theorem unlock_of_error {error : Error}
    (hstatus : (gateway.combinedOf (unlockArgs name) state).1.status = .error error) :
    unlock gateway name state =
      ⟨.error (unlockError name (gateway.combinedOf (unlockArgs name) state).1 error),
        [.ran (unlockArgs name) (gateway.combinedOf (unlockArgs name) state).2.1
          (.combined (gateway.combinedOf (unlockArgs name) state).1)],
        (gateway.combinedOf (unlockArgs name) state).2.2⟩ := by
  rw [unlock, Control.bind_of_ok (by rw [Control.combinedOutput_apply])]
  simp only [Control.combinedOutput_apply, hstatus]
  rfl

theorem unlock_of_ok
    (hstatus : (gateway.combinedOf (unlockArgs name) state).1.status = .ok ()) :
    unlock gateway name state =
      ⟨.ok (),
        [.ran (unlockArgs name) (gateway.combinedOf (unlockArgs name) state).2.1
          (.combined (gateway.combinedOf (unlockArgs name) state).1)],
        (gateway.combinedOf (unlockArgs name) state).2.2⟩ := by
  rw [unlock, Control.bind_of_ok (by rw [Control.combinedOutput_apply])]
  simp only [Control.combinedOutput_apply, hstatus]
  rfl

end Look

/-- Every detach takes one of the courses, with the stages that the gateway gives it. -/
theorem detach_course (gateway : Gateway σ) (name : String) (state : σ) :
    Course name (stages gateway name state) (detach gateway name state).trace
      (detach gateway name state).result := by
  rw [detach]
  cases hlisting : (gateway.outputOf (listArgs name) state).1 with
  | error error =>
      rw [Control.bind_of_error (by rw [look_of_error hlisting]),
        look_of_error hlisting]
      exact .listingFailed hlisting
  | ok bytes =>
      cases hfind : findInListing bytes name with
      | error cause =>
          rw [Control.bind_of_error (by rw [look_of_ok hlisting, hfind]; rfl),
            look_of_ok hlisting]
          exact .listingMalformed hlisting hfind
      | ok found =>
          rw [Control.bind_of_ok (by rw [look_of_ok hlisting, hfind]; rfl),
            look_of_ok hlisting]
          cases found with
          | none => exact .missing hlisting hfind
          | some disk =>
              by_cases hholder : disk.holder = ""
              · have hfree : disk.holder.isEmpty = true := by
                  simpa using hholder
                simp only [hfree, if_true]
                exact .unheld hlisting hfind hholder
              · have hheld : disk.holder.isEmpty = false := by
                  simpa using hholder
                simp only [hheld, Bool.false_eq_true, if_false]
                rw [Control.bind_of_ok rfl, Control.log_apply]
                cases hstatus : (stages gateway name state).unlock.status with
                | error error =>
                    rw [unlock_of_error hstatus]
                    exact .unlockFailed hlisting hfind hholder hstatus
                | ok _ =>
                    rw [unlock_of_ok hstatus]
                    exact .unlocked hlisting hfind hholder hstatus

end VmLifecycle.Disk
