import VmLifecycle.Config
import VmLifecycle.Proofs.Disk.Course
import VmLifecycle.Proofs.Disk.Listing
import VmLifecycle.Proofs.Stop.Course

namespace VmLifecycle.Stop

/-! The commands of a stop whose disk the tool detaches: they follow a plan in its order, and end at
the first that is not accepted. -/

inductive Order where
  | probe
  | listing
  | unlock
  | stop
  deriving DecidableEq

namespace Order

def args (config : Config) (isForced : Bool) : Order → List String
  | probe => ["ls", "-f", "\x7b\x7b.Status\x7d\x7d", config.instanceName.text]
  | listing => ["disk", "ls", config.dataDisk, "--json"]
  | unlock => ["disk", "unlock", config.dataDisk]
  | stop =>
      if isForced then ["stop", "--force", config.instanceName.text]
      else ["stop", config.instanceName.text]

def Accepts (config : Config) : Order → Response → Prop
  | probe, .output (.ok bytes) => trim (Utf8.decodeLossy bytes) = "Running"
  | listing, .output (.ok bytes) =>
      ∃ found, Disk.findInListing bytes config.dataDisk = .ok found
  | unlock, .combined combined => combined.status = .ok ()
  | stop, .combined combined => combined.status = .ok ()
  | _, _ => False

theorem args_injective (config : Config) (isForced : Bool) {first second : Order}
    (hsame : first.args config isForced = second.args config isForced) :
    first = second := by
  cases isForced <;> cases first <;> cases second <;> simp [args] at hsame ⊢

end Order

/-- All commands of a stop, with an unlock if the disk is held. -/
def plan (isForced isHeld : Bool) : List Order :=
  (if isForced then [] else [.probe]) ++
    .listing :: (if isHeld then [.unlock] else []) ++ [.stop]

theorem plan_nodup (isForced isHeld : Bool) : (plan isForced isHeld).Nodup := by
  cases isForced <;> cases isHeld <;> decide

/-- Commands that are issued in the order of a plan, up to the first that is not accepted. -/
inductive Follows (config : Config) (isForced : Bool) :
    List Order → List (List String × Response) → Prop
  | done : Follows config isForced [] []
  | halted {order : Order} {response : Response} {rest : List Order}
      (hrefused : ¬ order.Accepts config response) :
      Follows config isForced (order :: rest)
        [(order.args config isForced, response)]
  | next {order : Order} {response : Response} {rest : List Order}
      {commands : List (List String × Response)}
      (haccepted : order.Accepts config response)
      (follows : Follows config isForced rest commands) :
      Follows config isForced (order :: rest)
        ((order.args config isForced, response) :: commands)

section Follows

variable {config : Config} {isForced isHeld : Bool} {rest : List Order}
  {commands : List (List String × Response)} {given : Disk.Stages}
  {inside : List Event}

theorem Follows.of_detached
    (course : Disk.Course config.dataDisk given inside (.ok ()))
    (hheld : ∀ bytes, given.listing = .ok bytes →
      Disk.isHeld bytes config.dataDisk = isHeld)
    (follows : Follows config isForced rest commands) :
    Follows config isForced
      (.listing :: (if isHeld then [.unlock] else []) ++ rest)
      (Event.commandsOf inside ++ commands) := by
  cases course with
  | missing hlisting hfind =>
      have hfree : isHeld = false := by
        rw [← hheld _ hlisting, Disk.isHeld_of_find hfind]
        rfl
      subst hfree
      exact .next ⟨_, hfind⟩ follows
  | unheld hlisting hfind hholder =>
      have hfree : isHeld = false := by
        rw [← hheld _ hlisting, Disk.isHeld_of_find hfind]
        simp [hholder]
      subst hfree
      exact .next ⟨_, hfind⟩ follows
  | unlocked hlisting hfind hholder hstatus =>
      have htrue : isHeld = true := by
        rw [← hheld _ hlisting, Disk.isHeld_of_find hfind]
        simp [hholder]
      subst htrue
      exact .next ⟨_, hfind⟩ (.next hstatus follows)

theorem Follows.of_detach_failed {error : Error}
    (course : Disk.Course config.dataDisk given inside (.error error))
    (hheld : ∀ bytes, given.listing = .ok bytes →
      Disk.isHeld bytes config.dataDisk = isHeld) :
    Follows config isForced
      (.listing :: (if isHeld then [.unlock] else []) ++ rest)
      (Event.commandsOf inside) := by
  cases course with
  | listingFailed hlisting => exact .halted not_false
  | listingMalformed hlisting hfind =>
      refine .halted ?_
      rintro ⟨found, hfound⟩
      rw [hfind] at hfound
      cases hfound
  | unlockFailed hlisting hfind hholder hstatus =>
      have htrue : isHeld = true := by
        rw [← hheld _ hlisting, Disk.isHeld_of_find hfind]
        simp [hholder]
      subst htrue
      refine .next ⟨_, hfind⟩ (.halted ?_)
      intro haccepted
      rw [Order.Accepts, hstatus] at haccepted
      cases haccepted

theorem Finish.follows {stages : Stages} {trace : List Event}
    {result : Except Error Unit}
    (finish : Finish config.instanceName isForced stages trace result)
    (course : Disk.Course config.dataDisk given stages.inside stages.detach)
    (hheld : ∀ bytes, given.listing = .ok bytes →
      Disk.isHeld bytes config.dataDisk = isHeld) :
    Follows config isForced
      (.listing :: (if isHeld then [.unlock] else []) ++ [.stop])
      (Event.commandsOf trace) := by
  cases finish with
  | detachFailed hdetach =>
      rw [hdetach] at course
      simpa [Event.commandsOf, Event.commands] using
        Follows.of_detach_failed course hheld
  | stopFailed hdetach hstatus =>
      rw [hdetach] at course
      have hhalted : ¬ Order.stop.Accepts config (.combined stages.command) := by
        intro haccepted
        rw [Order.Accepts, hstatus] at haccepted
        cases haccepted
      exact Follows.of_detached course hheld (.halted hhalted)
  | stopped hdetach hstatus =>
      rw [hdetach] at course
      exact Follows.of_detached course hheld (.next hstatus .done)

theorem Course.follows {stages : Stages} {trace : List Event}
    {result : Except Error Unit}
    (stopCourse : Course config.instanceName isForced stages trace result)
    (course : Disk.Course config.dataDisk given stages.inside stages.detach)
    (hheld : ∀ bytes, given.listing = .ok bytes →
      Disk.isHeld bytes config.dataDisk = isHeld) :
    Follows config isForced (plan isForced isHeld) (Event.commandsOf trace) := by
  cases stopCourse with
  | probeFailed hforced hprobe =>
      subst hforced
      exact .halted not_false
  | refused hforced hprobe hrefusal =>
      subst hforced
      refine .halted ?_
      intro haccepted
      have hrunning : Status.classify (Probe.shown _) = .running :=
        Status.classify_eq_running_iff.mpr haccepted
      rw [hrunning] at hrefusal
      cases hrefusal
  | entered entry finish =>
      have hfinish := finish.follows course hheld
      cases entry with
      | forced hforced =>
          subst hforced
          exact hfinish
      | probed hforced hprobe hrunning =>
          subst hforced
          exact .next hrunning hfinish

end Follows

/-- A stop whose disk is detached through the same gateway follows its plan, if the listing keeps
showing the disk in the same way. -/
theorem run_follows (config : Config) (gateway : Gateway σ) (isForced : Bool)
    (state : σ) {isHeld : Bool}
    (hheld : ∀ before bytes,
      (gateway.outputOf (Disk.listArgs config.dataDisk) before).1 = .ok bytes →
      Disk.isHeld bytes config.dataDisk = isHeld) :
    Follows config isForced (plan isForced isHeld)
      (Event.commandsOf (run ⟨config.instanceName⟩ gateway
        (Disk.detach gateway config.dataDisk) isForced state).trace) := by
  have course := Disk.detach_course gateway config.dataDisk
    (ready ⟨config.instanceName⟩ gateway isForced state)
  exact (run_course ⟨config.instanceName⟩ gateway
    (Disk.detach gateway config.dataDisk) isForced state).follows course (hheld _)

end VmLifecycle.Stop
