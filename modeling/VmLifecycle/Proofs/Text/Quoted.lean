import Mathlib.Data.List.Basic
import VmLifecycle.Proofs.Instance

namespace VmLifecycle

namespace InstanceName

theorem escape_of_isNameChar {c : Char} (hname : isNameChar c = true) :
    Quoted.escape c = [c] := by
  have hshown : isUnprintable c = false := by
    obtain ⟨hfrom, hbelow⟩ := (isNameChar_iff.mp hname).range
    simp only [isUnprintable, if_pos hbelow]
    exact decide_eq_false (Nat.not_lt.mpr hfrom)
  unfold Quoted.escape
  split
  · cases hname
  · cases hname
  · cases hname
  · cases hname
  · cases hname
  · cases hname
  · rw [hshown]
    rfl

theorem writeChar_of_isNameChar {c : Char} (hname : isNameChar c = true) :
    Json.writeChar c = [c] := by
  obtain ⟨hfrom, -⟩ := (isNameChar_iff.mp hname).range
  unfold Json.writeChar
  split
  · cases hname
  · cases hname
  · cases hname
  · cases hname
  · cases hname
  · cases hname
  · cases hname
  · rw [if_neg (Nat.not_lt.mpr hfrom)]

theorem flatMap_text {spell : Char → List Char} (name : InstanceName)
    (hspell : ∀ c, isNameChar c = true → spell c = [c]) :
    name.text.toList.flatMap spell = name.text.toList := by
  have hsingle : name.text.toList.flatMap spell = name.text.toList.flatMap fun c => [c] := by
    apply List.flatMap_congr
    intro c hc
    exact hspell c (isNameChar_iff.mpr (name.isName_text.marks c hc))
  rw [hsingle, List.flatMap_singleton']

theorem quoted_text (name : InstanceName) : quoted name.text = "\"" ++ name.text ++ "\"" := by
  apply String.toList_inj.mp
  simp [quoted, name.flatMap_text fun _ => escape_of_isNameChar]

theorem write_eq (name : InstanceName) : name.write = "\"" ++ name.text ++ "\"" := by
  apply String.toList_inj.mp
  simp [write, Json.writeString, name.flatMap_text fun _ => writeChar_of_isNameChar]

end InstanceName

end VmLifecycle
