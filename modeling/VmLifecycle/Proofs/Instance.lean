import VmLifecycle.Instance
import VmLifecycle.Proofs.Json.Record

namespace VmLifecycle.InstanceName

open Json (IsDocument IsLiteral IsSpaces)

def IsMark (c : Char) : Prop :=
  'A' ≤ c ∧ c ≤ 'Z' ∨ 'a' ≤ c ∧ c ≤ 'z' ∨ '0' ≤ c ∧ c ≤ '9' ∨ c ∈ ['-', '_', '.']

structure IsName (text : String) : Prop where
  some : 1 ≤ text.length
  short : text.length ≤ 64
  marks : ∀ c ∈ text.toList, IsMark c

section Fault

variable {text : String} {cs : List Char} {c : Char}

theorem isNameChar_iff : isNameChar c = true ↔ IsMark c := by
  delta isNameChar Char.isAlphanum Char.isAlpha Char.isUpper Char.isLower Char.isDigit
  simp only [IsMark, Char.le_def, Bool.or_eq_true, Bool.and_eq_true, decide_eq_true_eq, ge_iff_le,
    List.mem_cons, List.not_mem_nil, or_false, or_assoc]

theorem IsMark.range (hmark : IsMark c) : 0x20 ≤ c.toNat ∧ c.toNat < 0x7f := by
  have hcode : c.toNat = c.val.toNat := rfl
  simp only [IsMark, Char.le_def, UInt32.le_iff_toNat_le, Char.reduceVal, UInt32.reduceToNat,
    List.mem_cons, List.not_mem_nil, or_false] at hmark
  rcases hmark with hupper | hlower | hdigit | rfl | rfl | rfl
  · omega
  · omega
  · omega
  · decide
  · decide
  · decide

theorem IsMark.utf8Size_eq (hmark : IsMark c) : c.utf8Size = 1 := by
  have hcode : c.toNat = c.val.toNat := rfl
  have hbelow : c.toNat < 0x7f := hmark.range.2
  simp only [Char.utf8Size_eq_one_iff, UInt32.le_iff_toNat_le, UInt32.reduceToNat]
  omega

theorem utf8ByteSize_ofList (hsmall : ∀ c ∈ cs, c.utf8Size = 1) :
    (String.ofList cs).utf8ByteSize = cs.length := by
  induction cs with
  | nil => rfl
  | cons c cs ih =>
      obtain ⟨hc, hmore⟩ := List.forall_mem_cons.mp hsmall
      rw [String.ofList_cons, String.utf8ByteSize_append, String.utf8ByteSize_singleton, hc,
        ih hmore, List.length_cons, Nat.add_comm]

/-- The characters of a name are single bytes, so that a limit on its bytes is one on them. -/
theorem utf8ByteSize_of_marks (hmarks : ∀ c ∈ text.toList, IsMark c) :
    text.utf8ByteSize = text.length := by
  have hsize := utf8ByteSize_ofList fun c hc => (hmarks c hc).utf8Size_eq
  rwa [String.ofList_toList, String.length_toList] at hsize

theorem isEmpty_iff_length : text.isEmpty = true ↔ text.length = 0 := by
  rw [String.isEmpty_iff, String.length_eq_zero_iff]

theorem IsName.ne_empty (hname : IsName text) : text ≠ "" := by
  rintro rfl
  exact absurd hname.some (by decide)

theorem fault?_eq_none_iff : fault? text = none ↔ IsName text := by
  have hall : text.toList.all isNameChar = true ↔ ∀ c ∈ text.toList, IsMark c := by
    simp only [List.all_eq_true, isNameChar_iff]
  constructor
  · intro hfaultless
    unfold fault? at hfaultless
    split at hfaultless
    · cases hfaultless
    · next hsome =>
      split at hfaultless
      · cases hfaultless
      · next hshort =>
        split at hfaultless
        · next hmarks =>
          rw [utf8ByteSize_of_marks (hall.mp hmarks)] at hshort
          rw [isEmpty_iff_length] at hsome
          exact ⟨Nat.pos_of_ne_zero hsome, Nat.not_lt.mp hshort, hall.mp hmarks⟩
        · cases hfaultless
  · rintro ⟨hsome, hshort, hmarks⟩
    have hfilled : ¬ text.isEmpty = true := by
      rw [isEmpty_iff_length]
      exact Nat.ne_of_gt hsome
    have hfits : ¬ maxLength < text.utf8ByteSize := by
      rw [utf8ByteSize_of_marks hmarks]
      exact Nat.not_lt.mpr hshort
    rw [fault?, if_neg hfilled, if_neg hfits, if_pos (hall.mpr hmarks)]

theorem isName_text (name : InstanceName) : IsName name.text :=
  fault?_eq_none_iff.mp name.faultless

end Fault

section Parse

variable {text : String}

theorem parse_text (name : InstanceName) : parse name.text = .ok name := by
  unfold parse
  split
  · rfl
  · next fault hfault =>
      rw [name.faultless] at hfault
      cases hfault

theorem eq_of_text {name other : InstanceName} (hsame : name.text = other.text) :
    name = other := by
  cases name
  cases other
  cases hsame
  rfl

theorem text_of_parse {name : InstanceName} (hparse : parse text = .ok name) :
    name.text = text := by
  unfold parse at hparse
  split at hparse
  · cases hparse
    rfl
  · cases hparse

theorem parse_of_isName (hname : IsName text) :
    ∃ name : InstanceName, name.text = text ∧ parse text = .ok name := by
  let name : InstanceName := ⟨text, fault?_eq_none_iff.mpr hname⟩
  exact ⟨name, rfl, name.parse_text⟩

theorem parse_of_not_name (hnot : ∀ name : InstanceName, name.text ≠ text) :
    ∃ fault, parse text = .error fault := by
  unfold parse
  split
  · next hfault => exact absurd rfl (hnot ⟨text, hfault⟩)
  · next fault hfault => exact ⟨fault, rfl⟩

theorem parse_of_not_isName (hnot : ¬ IsName text) : ∃ fault, parse text = .error fault := by
  apply parse_of_not_name
  rintro name rfl
  exact hnot name.isName_text

end Parse

section Read

variable {text json : String} {gap value : List Char} {name : InstanceName} {fault : NameFault}

theorem scan_of_parse (hgap : IsSpaces gap) (hvalue : IsLiteral text value)
    (hparse : parse text = .ok name) (rest : List Char) :
    scan (gap ++ value ++ rest) = .ok (name, rest) := by
  simp only [scan, Json.text_of_isLiteral "a string" hgap hvalue, hparse]

theorem scan_of_fault (hgap : IsSpaces gap) (hvalue : IsLiteral text value)
    (hparse : parse text = .error fault) (rest : List Char) :
    scan (gap ++ value ++ rest) = .error ⟨.rejected fault.toError.message, .behind rest⟩ := by
  simp only [scan, Json.text_of_isLiteral "a string" hgap hvalue, hparse, Json.stopBehind]

theorem read_of_parse (hliteral : IsDocument (IsLiteral text) json)
    (hparse : parse text = .ok name) : read json = .ok name := by
  cases hliteral with
  | spaced hbefore hform hafter =>
      exact Json.read_of_scan (scan_of_parse hbefore hform hparse _) hafter

theorem read_of_fault (hliteral : IsDocument (IsLiteral text) json)
    (hparse : parse text = .error fault) :
    read json = .error ⟨.rejected fault.toError.message, none⟩ := by
  cases hliteral with
  | spaced hbefore hform hafter =>
      exact Json.read_of_stop (scan_of_fault hbefore hform hparse _)

end Read

end VmLifecycle.InstanceName
