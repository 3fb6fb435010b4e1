import VmLifecycle.Proofs.Tool.Calls

namespace VmLifecycle

/-!
A command that is run for its standard output and one that is run for both its streams: they fail
alike, and the first gives what the second does less the writes to the other stream.
-/

def Write.isOut : Write → Bool
  | out _ => true
  | err _ => false

theorem Behaviour.stdout_eq_filter (behaviour : Behaviour) :
    behaviour.stdout = (behaviour.writes.filter Write.isOut).flatMap Write.bytes := by
  obtain ⟨writes, ending⟩ := behaviour
  induction writes with
  | nil => rfl
  | cons write writes ih =>
      cases write with
      | out bytes => exact congrArg (bytes ++ ·) ih
      | err bytes => exact ih

/-- How the end of a run that did not succeed is told. -/
inductive Ending.FailsAs : Ending → String → Prop
  | exit (hcode : code ≠ 0) : FailsAs (.exit code) ("exit status " ++ toString code.toNat)
  | signal : FailsAs .signal "terminated by signal"

namespace Tool

theorem failsAs_reason {ending : Ending} (hfailed : ending ≠ .exit 0) :
    ending.FailsAs (reason ending) := by
  cases ending with
  | exit code =>
      have hcode : code ≠ 0 := fun hzero => hfailed (congrArg Ending.exit hzero)
      exact .exit hcode
  | signal => exact .signal

/-- What a command gives that is run for its standard output, and what it gives that is run for both
its streams. -/
inductive GivesBoth (tool : Tool) (host : Host) (args : List String) :
    Except Error Bytes → CombinedOutput → Prop
  | unstarted (hlaunch : host.launch tool.program args tool.home = .error cause) :
      GivesBoth tool host args (.error (.system cause)) ⟨[], .error (.system cause)⟩
  | succeeded (hlaunch : host.launch tool.program args tool.home = .ok ())
      (hbehaviour : host.behaviour args = ⟨writes, .exit 0⟩) :
      GivesBoth tool host args (.ok ((writes.filter Write.isOut).flatMap Write.bytes))
        ⟨writes.flatMap Write.bytes, .ok ()⟩
  | failed (hlaunch : host.launch tool.program args tool.home = .ok ())
      (hbehaviour : host.behaviour args = ⟨writes, ending⟩) {told : String}
      (htold : ending.FailsAs told)
      (herror : error = .commandFailed (" ".intercalate (tool.program :: args)) told) :
      GivesBoth tool host args (.error error) ⟨writes.flatMap Write.bytes, .error error⟩

theorem givesBoth (tool : Tool) (host : Host) (args : List String) :
    GivesBoth tool host args (tool.answer host args) (tool.mergedAnswer host args) := by
  unfold answer mergedAnswer Host.run
  cases hlaunch : host.launch tool.program args tool.home with
  | error cause => exact .unstarted hlaunch
  | ok _ =>
      obtain ⟨writes, ending, hbehaviour⟩ :
          ∃ writes ending, host.behaviour args = ⟨writes, ending⟩ := ⟨_, _, rfl⟩
      simp only [hbehaviour, Behaviour.stdout_eq_filter, Behaviour.merged]
      by_cases hsuccess : ending = .exit 0
      · subst hsuccess
        exact .succeeded hlaunch hbehaviour
      · rw [check, if_neg hsuccess]
        exact .failed hlaunch hbehaviour (failsAs_reason hsuccess) rfl

theorem GivesBoth.fails_iff {tool : Tool} {host : Host} {args : List String}
    {result : Except Error Bytes} {combined : CombinedOutput}
    (gives : GivesBoth tool host args result combined) (error : Error) :
    result = .error error ↔ combined.status = .error error := by
  cases gives with
  | unstarted hlaunch => simp
  | succeeded hlaunch hbehaviour => simp
  | failed hlaunch hbehaviour htold herror => simp

/-- The two ways to run a command agree, from whatever states of the gateway it is built: where one
fails so does the other, with the same error. -/
theorem both_ways_agree (tool : Tool) (host : Host) (args : List String)
    (one other : State) :
    let result := ((tool.gateway host).outputOf args one).1
    let combined := ((tool.gateway host).combinedOf args other).1
    GivesBoth tool host args result combined ∧
      ∀ error, result = .error error ↔ combined.status = .error error := by
  intro result combined
  have hresult : result = tool.answer host args := (outputOf_gateway one).1
  have hcombined : combined = tool.mergedAnswer host args := (combinedOf_gateway other).1
  have hgives := tool.givesBoth host args
  rw [← hresult, ← hcombined] at hgives
  exact ⟨hgives, hgives.fails_iff⟩

end Tool

end VmLifecycle
