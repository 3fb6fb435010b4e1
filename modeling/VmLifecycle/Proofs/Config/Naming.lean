import VmLifecycle.Proofs.Config.Instance
import VmLifecycle.Proofs.Config.Written

namespace VmLifecycle.InstanceName

open Json (IsDocument IsLiteral)

/-- Whichever way the text comes, it is taken for this name. -/
structure Accepted (text : String) (name : InstanceName) : Prop where
  text_eq : name.text = text
  parsed : parse text = .ok name
  literal : ∀ json, IsDocument (IsLiteral text) json → read json = .ok name
  member : ∀ texts json, texts.name = text → IsDocument (Config.IsWritten texts) json →
    Config.read json = .ok (texts.config name)
  loaded : ∀ lookup, lookup Config.instanceVariable = some text →
    ∃ config, (Config.load lookup).1 = .ok config ∧ config.instanceName = name

/-- Whichever way the text comes, it is refused for this fault; an empty variable is no way, since
it counts as unset. -/
structure Refused (text : String) (fault : NameFault) : Prop where
  parsed : parse text = .error fault
  literal : ∀ json, IsDocument (IsLiteral text) json →
    read json = .error ⟨.rejected fault.toError.message, none⟩
  member : ∀ texts json, texts.name = text → IsDocument (Config.IsWritten texts) json →
    ∃ position, Config.read json = .error ⟨.rejected fault.toError.message, some position⟩
  loaded : ∀ lookup, lookup Config.instanceVariable = some text → text ≠ "" →
    (Config.load lookup).1 = .error fault.toError

theorem accepted_of_isName {text : String} (hname : IsName text) :
    ∃ name, Accepted text name := by
  obtain ⟨name, rfl, hparse⟩ := parse_of_isName hname
  refine ⟨name, rfl, hparse, fun json hliteral => read_of_parse hliteral hparse, ?_, ?_⟩
  · intro texts json hsame hwritten
    exact Config.read_of_isWritten hwritten (hsame ▸ hparse)
  · intro lookup hset
    have hfilled : name.text ≠ "" := hname.ne_empty
    obtain ⟨config, hconfig, hsame⟩ :=
      Config.ofLookup_of_instance (Config.setting?_eq_some_iff.mpr ⟨hset, hfilled⟩)
    exact ⟨config, by rw [Config.load, hconfig], hsame⟩

theorem refused_of_not_isName {text : String} (hnot : ¬ IsName text) :
    ∃ fault, Refused text fault := by
  obtain ⟨fault, hparse⟩ := parse_of_not_isName hnot
  refine ⟨fault, hparse, fun json hliteral => read_of_fault hliteral hparse, ?_, ?_⟩
  · intro texts json hsame hwritten
    exact Config.read_of_fault hwritten (hsame ▸ hparse)
  · intro lookup hset hfilled
    have hsetting := Config.setting?_eq_some_iff.mpr ⟨hset, hfilled⟩
    rw [Config.load, Config.ofLookup_of_fault hsetting hparse]

/-- A text is taken for a name in every way that it can come when it is one, and refused in every
way with one message when it is not. So the instance of a configuration always has a name. -/
theorem accepted_iff_isName (text : String) :
    ((∃ name, Accepted text name) ↔ IsName text) ∧
      ((∃ fault, Refused text fault) ↔ ¬ IsName text) ∧
      (∀ name : InstanceName, IsName name.text) ∧
      ∀ config : Config, IsName config.instanceName.text := by
  refine ⟨⟨?_, accepted_of_isName⟩, ⟨?_, refused_of_not_isName⟩, isName_text,
    fun config => config.instanceName.isName_text⟩
  · rintro ⟨name, accepted⟩
    rw [← accepted.text_eq]
    exact name.isName_text
  · rintro ⟨fault, refused⟩ hname
    obtain ⟨name, -, hparse⟩ := parse_of_isName hname
    rw [refused.parsed] at hparse
    cases hparse

end VmLifecycle.InstanceName
