import VmLifecycle.Disk.Manager

namespace VmLifecycle.Disk

def IsOther (name : String) (line : List Char) : Prop :=
  ∃ other, read (String.ofList line) = .ok other ∧ other.name ≠ name

/-- What the lines of a listing tell of a disk: the first that is malformed or of its name decides,
and what stands behind that one does not count. -/
inductive Tells (name : String) : List (List Char) → Except Json.Error (Option Disk) → Prop
  | malformed (before : List (List Char)) (hbefore : ∀ earlier ∈ before, IsOther name earlier)
      (hread : read (String.ofList line) = .error cause) :
      Tells name (before ++ line :: after) (.error cause)
  | named (before : List (List Char)) (hbefore : ∀ earlier ∈ before, IsOther name earlier)
      (hread : read (String.ofList line) = .ok disk) (hname : disk.name = name) :
      Tells name (before ++ line :: after) (.ok (some disk))
  | missing (hothers : ∀ line ∈ entries, IsOther name line) :
      Tells name entries (.ok none)

theorem find_append (name : String) (first second : List (List Char)) :
    find name (first ++ second) =
      match find name first with
      | .error error => .error error
      | .ok (some disk) => .ok (some disk)
      | .ok none => find name second := by
  induction first with
  | nil => rfl
  | cons line first ih =>
      rw [List.cons_append, find, find]
      cases hread : read (String.ofList line) with
      | error error => rfl
      | ok disk =>
          by_cases hname : disk.name = name
          · simp only [if_pos hname]
          · simp only [if_neg hname]
            exact ih

theorem find_eq_none_of_others {name : String} {entries : List (List Char)}
    (hothers : ∀ line ∈ entries, IsOther name line) : find name entries = .ok none := by
  induction entries with
  | nil => rfl
  | cons line rest ih =>
      obtain ⟨other, hread, hname⟩ := hothers line List.mem_cons_self
      rw [find, hread]
      simp only [if_neg hname]
      exact ih fun later hlater => hothers later (List.mem_cons_of_mem line hlater)

theorem find_append_of_others {name : String} {before : List (List Char)}
    (hothers : ∀ line ∈ before, IsOther name line) (entries : List (List Char)) :
    find name (before ++ entries) = find name entries := by
  rw [find_append, find_eq_none_of_others hothers]

namespace Tells

variable {name : String} {line : List Char} {entries : List (List Char)}
  {told : Except Json.Error (Option Disk)}

theorem find_eq (tells : Tells name entries told) : find name entries = told := by
  cases tells with
  | malformed before hbefore hread => rw [find_append_of_others hbefore, find, hread]
  | named before hbefore hread hname =>
      rw [find_append_of_others hbefore, find, hread]
      simp only [if_pos hname]
  | missing hothers => exact find_eq_none_of_others hothers

theorem name_eq {disk : Disk} (tells : Tells name entries (.ok (some disk))) :
    disk.name = name := by
  cases tells with
  | named before hbefore hread hname => exact hname

theorem cons (hother : IsOther name line) (tells : Tells name entries told) :
    Tells name (line :: entries) told := by
  cases tells with
  | malformed before hbefore hread =>
      exact .malformed (line :: before) (List.forall_mem_cons.mpr ⟨hother, hbefore⟩) hread
  | named before hbefore hread hname =>
      exact .named (line :: before) (List.forall_mem_cons.mpr ⟨hother, hbefore⟩) hread hname
  | missing hothers => exact .missing (List.forall_mem_cons.mpr ⟨hother, hothers⟩)

end Tells

theorem tells_find (name : String) (entries : List (List Char)) :
    Tells name entries (find name entries) := by
  induction entries with
  | nil => exact .missing (by simp)
  | cons line rest ih =>
      rw [find]
      cases hread : read (String.ofList line) with
      | error cause => exact .malformed [] (by simp) hread
      | ok disk =>
          by_cases hname : disk.name = name
          · simp only [if_pos hname]
            exact .named [] (by simp) hread hname
          · simp only [if_neg hname]
            exact ih.cons ⟨disk, hread, hname⟩

theorem tells_iff {name : String} {entries : List (List Char)}
    {told : Except Json.Error (Option Disk)} :
    Tells name entries told ↔ find name entries = told := by
  constructor
  · exact Tells.find_eq
  · rintro rfl
    exact tells_find name entries

def isHeld (listing : Bytes) (name : String) : Bool :=
  match findInListing listing name with
  | .ok (some disk) => !disk.holder.isEmpty
  | _ => false

theorem isHeld_of_find {listing : Bytes} {name : String} {found : Option Disk}
    (hfind : findInListing listing name = .ok found) :
    isHeld listing name = found.any fun disk => !disk.holder.isEmpty := by
  rw [isHeld, hfind]
  cases found with
  | none => rfl
  | some disk => rfl

end VmLifecycle.Disk
