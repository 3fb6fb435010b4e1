import VmLifecycle.Disk.Manager
import VmLifecycle.Gateway.Script
import VmLifecycle.Proofs.Stop.Refusal

namespace VmLifecycle

namespace Stop

def IsDown (status : Status) : Prop :=
  status = .stopped ∨ status = .nonexistent

/-- A stop without force, over some back ends, that finds the instance down and ends with this
message. -/
inductive FindsDown (name : InstanceName) (message : String) : Prop
  | run (gateway : Gateway σ) (disk : DiskManager σ) (state : σ)
      (htold : (Probe.run ⟨name⟩ gateway state).result = .ok told) (hdown : IsDown told)
      (herror : (Stop.run ⟨name⟩ gateway disk false state).result = .error error)
      (hmessage : error.message = message)

theorem exists_refusal_of_isDown (name : InstanceName) {told : Status} (hdown : IsDown told) :
    ∃ error, refusal? name told = some error ∧ error.TellsState := by
  rcases hdown with rfl | rfl
  · exact ⟨.alreadyStopped name.text, rfl, trivial⟩
  · exact ⟨.notExist name.text, rfl, trivial⟩

theorem FindsDown.exists_refusal {name : InstanceName} {message : String}
    (finds : FindsDown name message) :
    ∃ told error, refusal? name told = some error ∧ error.TellsState ∧
      error.message = message := by
  obtain ⟨gateway, disk, state, htold, hdown, herror, hmessage⟩ := finds
  obtain ⟨refusal, hrefusal, htells⟩ := exists_refusal_of_isDown name hdown
  have hresult : (Stop.run ⟨name⟩ gateway disk false state).result = .error refusal :=
    run_of_refusal htold hrefusal
  rw [herror] at hresult
  cases hresult
  exact ⟨_, _, hrefusal, htells, hmessage⟩

end Stop

namespace InstanceName

/-- No character of a name is escaped in messages or in documents, so that a name is shown as it was
given. A stop that finds the instance stopped or not there says so in words about that name, and no
two instances get the same. -/
theorem shown_verbatim :
    (∀ c, isNameChar c = true → Quoted.escape c = [c] ∧ Json.writeChar c = [c]) ∧
    (∀ (text : String) (name : InstanceName), parse text = .ok name →
      name.text = text ∧ name.write = "\"" ++ text ++ "\"" ∧
        name.describe = "InstanceName(\"" ++ text ++ "\")") ∧
    (∀ {σ : Type} (name : InstanceName) (gateway : Gateway σ) (disk : DiskManager σ) (state : σ),
      ((Probe.run ⟨name⟩ gateway state).result = .ok .stopped →
        ∃ error, (Stop.run ⟨name⟩ gateway disk false state).result = .error error ∧
          error.message = "the instance \"" ++ name.text ++ "\" is already stopped") ∧
      ((Probe.run ⟨name⟩ gateway state).result = .ok .nonexistent →
        ∃ error, (Stop.run ⟨name⟩ gateway disk false state).result = .error error ∧
          error.message = "the instance \"" ++ name.text ++ "\" does not exist")) ∧
    ∀ (first second : InstanceName) (message : String),
      Stop.FindsDown first message → Stop.FindsDown second message → first = second := by
  refine ⟨?_, ?_, ?_, ?_⟩
  · intro c hname
    exact ⟨escape_of_isNameChar hname, writeChar_of_isNameChar hname⟩
  · intro text name hparse
    obtain rfl := text_of_parse hparse
    refine ⟨rfl, name.write_eq, ?_⟩
    rw [describe, name.quoted_text]
    apply String.toList_inj.mp
    simp
  · intro σ name gateway disk state
    constructor
    · intro htold
      exact ⟨_, Stop.run_of_refusal htold rfl, Error.message_alreadyStopped name⟩
    · intro htold
      exact ⟨_, Stop.run_of_refusal htold rfl, Error.message_notExist name⟩
  · intro first second message hfirst hsecond
    obtain ⟨_, one, hone, honeTells, rfl⟩ := hfirst.exists_refusal
    obtain ⟨_, two, htwo, htwoTells, hmessage⟩ := hsecond.exists_refusal
    exact (Stop.eq_of_refusal_message hone htwo honeTells htwoTells hmessage.symm).1

def dottedName : InstanceName :=
  ⟨"Dev-2_b.0", by decide +kernel⟩

def dottedScript : Script.State where
  expected := [⟨Probe.args dottedName, .output (.ok (Utf8.encode "Stopped\n"))⟩]

theorem dotted_name_shown :
    (Probe.run ⟨dottedName⟩ Script.gateway dottedScript).result = .ok .stopped ∧
      ∃ error, (Stop.run ⟨dottedName⟩ Script.gateway (Disk.detach Script.gateway "data") false
          dottedScript).result = .error error ∧
        error.message = "the instance \"Dev-2_b.0\" is already stopped" := by
  have hanswer : (Script.gateway.outputOf (Probe.args dottedName) dottedScript).1 =
      .ok (Utf8.encode "Stopped\n") := rfl
  have hstopped : Status.classify (Probe.shown (Utf8.encode "Stopped\n")) = .stopped := by
    decide +kernel
  have htold : (Probe.run ⟨dottedName⟩ Script.gateway dottedScript).result = .ok .stopped := by
    rw [@Probe.run_of_ok _ ⟨dottedName⟩ _ _ _ hanswer, hstopped]
  exact ⟨htold, (shown_verbatim.2.2.1 dottedName Script.gateway
    (Disk.detach Script.gateway "data") dottedScript).1 htold⟩

end InstanceName

end VmLifecycle
