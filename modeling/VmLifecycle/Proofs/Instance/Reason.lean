import VmLifecycle.Proofs.Instance

namespace VmLifecycle

/-!
The reason that is reported for a text that is no name. Its length is measured in bytes and told in
characters, so that one of the reasons need not be true.
-/

def NameFault.IsTrueOf (text : String) : NameFault → Prop
  | empty => text.length = 0
  | tooLong => 64 < text.length
  | badCharacter => ∃ c ∈ text.toList, ¬ InstanceName.IsMark c

theorem NameFault.message_injective : Function.Injective message := by
  intro fault other hsame
  cases fault <;> cases other <;> simp_all [message]

namespace InstanceName

def reason? (text : String) : Option String :=
  match parse text with
  | .ok _ => none
  | .error fault => some fault.message

variable {text : String} {fault : NameFault}

theorem parse_eq_error_iff : parse text = .error fault ↔ fault? text = some fault := by
  unfold parse
  split
  · next hfault => simp [hfault]
  · next found hfault => simp [hfault]

theorem reason?_eq : reason? text = (fault? text).map NameFault.message := by
  rw [reason?]
  cases hparse : parse text with
  | ok name =>
      rw [← text_of_parse hparse, name.faultless]
      rfl
  | error fault =>
      rw [parse_eq_error_iff.mp hparse]
      rfl

theorem reason?_eq_message_iff (fault : NameFault) :
    reason? text = some fault.message ↔ fault? text = some fault := by
  rw [reason?_eq, Option.map_eq_some_iff]
  constructor
  · rintro ⟨found, hfound, hsame⟩
    rw [hfound, NameFault.message_injective hsame]
  · intro hfault
    exact ⟨fault, hfault, rfl⟩

theorem fault?_eq_empty_iff : fault? text = some .empty ↔ text.length = 0 := by
  rw [← isEmpty_iff_length, fault?]
  split
  · next hempty => simp [hempty]
  · next hfilled =>
    refine iff_of_false ?_ hfilled
    split
    · simp
    · split <;> simp

theorem fault?_eq_tooLong_iff : fault? text = some .tooLong ↔ 64 < text.utf8ByteSize := by
  rw [fault?]
  split
  · next hempty =>
    rw [String.isEmpty_iff_utf8ByteSize_eq_zero] at hempty
    exact iff_of_false (by simp) (by omega)
  · split
    · next hlong => exact iff_of_true rfl hlong
    · next hshort =>
      refine iff_of_false ?_ hshort
      split <;> simp

theorem fault?_eq_badCharacter_iff :
    fault? text = some .badCharacter ↔
      text.utf8ByteSize ≤ 64 ∧ ∃ c ∈ text.toList, ¬ IsMark c := by
  have hall : text.toList.all isNameChar = true ↔ ¬ ∃ c ∈ text.toList, ¬ IsMark c := by
    simp only [List.all_eq_true, isNameChar_iff, not_exists, not_and, Classical.not_not]
  rw [fault?]
  split
  · next hempty =>
    refine iff_of_false (by simp) ?_
    rintro ⟨-, c, hc, -⟩
    rw [String.isEmpty_iff] at hempty
    simp [hempty] at hc
  · split
    · next hlong => exact iff_of_false (by simp) fun hfit => Nat.not_lt.mpr hfit.1 hlong
    · next hshort =>
      split
      · next hmarks => exact iff_of_false (by simp) fun hfit => hall.mp hmarks hfit.2
      · next hmarks =>
        have hbad : ∃ c ∈ text.toList, ¬ IsMark c :=
          Classical.not_not.mp fun hnone => hmarks (hall.mpr hnone)
        exact iff_of_true rfl ⟨Nat.not_lt.mp hshort, hbad⟩

theorem untrue_iff :
    (∃ fault, parse text = .error fault ∧ ¬ fault.IsTrueOf text) ↔
      text.length ≤ 64 ∧ 64 < text.utf8ByteSize := by
  constructor
  · rintro ⟨fault, hparse, huntrue⟩
    have hfault := parse_eq_error_iff.mp hparse
    cases fault with
    | empty => exact absurd (fault?_eq_empty_iff.mp hfault) huntrue
    | tooLong => exact ⟨Nat.not_lt.mp huntrue, fault?_eq_tooLong_iff.mp hfault⟩
    | badCharacter => exact absurd (fault?_eq_badCharacter_iff.mp hfault).2 huntrue
  · rintro ⟨hshort, hlong⟩
    exact ⟨.tooLong, parse_eq_error_iff.mpr (fault?_eq_tooLong_iff.mpr hlong),
      Nat.not_lt.mpr hshort⟩

/-- Each text that is no name is told one reason, by its bytes. The reason is true of every text but
those that are too long in bytes and not in characters. -/
theorem reason_told (text : String) :
    (reason? text = some "Instance name cannot be empty" ↔ text.length = 0) ∧
    (reason? text = some "Instance name too long (max 64 chars)" ↔ 64 < text.utf8ByteSize) ∧
    (reason? text =
        some "Instance name can only contain alphanumeric, dash, underscore, and dot" ↔
      text.utf8ByteSize ≤ 64 ∧ ∃ c ∈ text.toList, ¬ IsMark c) ∧
    (reason? text = none ↔ IsName text) ∧
    ((∃ fault, parse text = .error fault ∧ ¬ fault.IsTrueOf text) ↔
      text.length ≤ 64 ∧ 64 < text.utf8ByteSize) := by
  refine ⟨?_, ?_, ?_, ?_, untrue_iff⟩
  · exact (reason?_eq_message_iff .empty).trans fault?_eq_empty_iff
  · exact (reason?_eq_message_iff .tooLong).trans fault?_eq_tooLong_iff
  · exact (reason?_eq_message_iff .badCharacter).trans fault?_eq_badCharacter_iff
  · rw [reason?_eq, Option.map_eq_none_iff, fault?_eq_none_iff]

/-- Characters of two bytes: not too many, and none that a name can have. -/
theorem few_umlauts_called_too_long :
    ¬ ∀ (text : String) (fault : NameFault), parse text = .error fault → fault.IsTrueOf text := by
  intro htrue
  have hparse : parse (String.ofList (List.replicate 33 'é')) = .error .tooLong :=
    parse_eq_error_iff.mpr (by decide +kernel)
  have hmany : 64 < (String.ofList (List.replicate 33 'é')).length := htrue _ _ hparse
  revert hmany
  decide +kernel

end InstanceName

end VmLifecycle
