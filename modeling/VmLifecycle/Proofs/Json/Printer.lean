import VmLifecycle.Json.Printer
import VmLifecycle.Proofs.Json.Grammar

namespace VmLifecycle.Json

theorem isHex_lowHex {n : Nat} (hn : n < 16) : IsHex n (lowHex n) := by
  have hall : ∀ digit : Fin 16, lowerHex[digit.val]? = some (lowHex digit.val) := by decide
  exact .inl (hall ⟨n, hn⟩)

theorem isUnit_control {n : Nat} (hn : n < 0x20) :
    IsUnit n ['0', '0', lowHex (n / 16), lowHex (n % 16)] := by
  have hzero : IsHex 0 '0' := .inl rfl
  have hunit := IsUnit.digits hzero hzero (isHex_lowHex (n := n / 16) (by omega))
    (isHex_lowHex (n := n % 16) (by omega))
  have hvalue : ((0 * 16 + 0) * 16 + n / 16) * 16 + n % 16 = n := by omega
  rwa [hvalue] at hunit

theorem spells_writeChar (c : Char) : Spells c (writeChar c) := by
  unfold writeChar
  split
  case h_8 hquote hbackslash _ _ _ _ _ =>
    by_cases hcontrol : c.toNat < 0x20
    · rw [if_pos hcontrol]
      exact .unit (isUnit_control hcontrol)
    · rw [if_neg hcontrol]
      exact .plain ⟨hquote, hbackslash, Nat.not_lt.mp hcontrol⟩
  all_goals
    exact .short (by decide)

theorem spellsAll_flatMap (text : List Char) : SpellsAll text (text.flatMap writeChar) := by
  induction text with
  | nil => exact .nil
  | cons c text ih => exact .cons (spells_writeChar c) ih

theorem isLiteral_writeString (text : String) : IsLiteral text (writeString text) :=
  ⟨_, spellsAll_flatMap text.toList, rfl⟩

def printed (member : String × List Char) : String × Part :=
  (member.1, { lead := writeString member.1 ++ [':'], value := member.2 })

theorem printed_chars (member : String × List Char) :
    (printed member).2.chars = writeString member.1 ++ ':' :: member.2 := by
  simp [printed, Part.chars]

theorem writeMembers_eq (members : List (String × List Char)) :
    writeMembers members = Part.join (members.map fun member => (printed member).2) := by
  induction members with
  | nil => rfl
  | cons first more ih =>
      cases more with
      | nil => simp [writeMembers, Part.join, Part.joinMore, printed_chars]
      | cons second more =>
          simp [writeMembers, ih, Part.join, Part.joinMore, printed_chars]

theorem isObject_writeObject (members : List (String × List Char)) :
    IsObject (members.map printed) (writeObject members) := by
  have hcs : writeObject members =
      '\x7b' :: [] ++ Part.join ((members.map printed).map (·.2)) ++ ['\x7d'] := by
    rw [writeObject, writeMembers_eq, List.map_map]
    rfl
  rw [hcs]
  refine .object isSpaces_nil ?_ ?_
  · intro entry hentry
    obtain ⟨member, -, rfl⟩ := List.mem_map.mp hentry
    have hlead : IsLead (IsLiteral member.1) ([] ++ writeString member.1 ++ [] ++ [':']) :=
      .key isSpaces_nil (isLiteral_writeString member.1) isSpaces_nil
    simpa [printed] using hlead
  · intro entry hentry
    obtain ⟨member, -, rfl⟩ := List.mem_map.mp hentry
    exact ⟨isSpaces_nil, isSpaces_nil⟩

theorem feed_not_mem_writeChar (c : Char) : '\n' ∉ writeChar c := by
  have hhex : ∀ n : Fin 16, lowHex n.val ≠ '\n' := by decide
  unfold writeChar
  split
  case h_8 hfeed _ _ =>
    by_cases hcontrol : c.toNat < 0x20
    · have hhigh := hhex ⟨c.toNat / 16, by omega⟩
      have hlow := hhex ⟨c.toNat % 16, by omega⟩
      simp [if_pos hcontrol, hhigh.symm, hlow.symm]
    · rw [if_neg hcontrol, List.mem_singleton]
      rintro rfl
      exact hcontrol (by decide)
  all_goals decide

theorem feed_not_mem_writeString (text : String) : '\n' ∉ writeString text := by
  simp [writeString, feed_not_mem_writeChar]

end VmLifecycle.Json
