import VmLifecycle.Disk.Listing
import VmLifecycle.Proofs.Json.Printer
import VmLifecycle.Proofs.Json.Record

namespace VmLifecycle.Disk

open Json (IsLiteral IsObject IsValue Part)

/-- A text field is given by the one member of its name, or left out when the text is empty. -/
inductive IsGiven (field text : String) : List (String × Part) → Prop
  | member (before : List (String × Part)) (hbefore : ∀ entry ∈ before, entry.1 ≠ field)
      (hvalue : IsLiteral text part.value) (hafter : ∀ entry ∈ after, entry.1 ≠ field) :
      IsGiven field text (before ++ (field, part) :: after)
  | omitted (hnone : ∀ entry ∈ entries, entry.1 ≠ field) (hempty : text = "") :
      IsGiven field text entries

def fieldNames : List String :=
  ["name", "instance", "mountPoint"]

/-- The text is an object with the fields of the disk, in any order and among well-formed members of
other names. -/
inductive IsWritten (disk : Disk) (cs : List Char) : Prop
  | object (hobject : IsObject entries cs) (hname : IsGiven "name" disk.name entries)
      (hholder : IsGiven "instance" disk.holder entries)
      (hmountPoint : IsGiven "mountPoint" disk.mountPoint entries)
      (hothers : ∀ entry ∈ entries, entry.1 ∉ fieldNames → IsValue entry.2.value)

/-- What a field of a draft still waits for: it is set when its member is behind, and else given by
the entries to come. -/
inductive Awaits (field text : String) (entries : List (String × Part)) : Option String → Prop
  | given (hgiven : IsGiven field text entries) : Awaits field text entries none
  | read (hnone : ∀ entry ∈ entries, entry.1 ≠ field) : Awaits field text entries (some text)

section Given

variable {field text : String} {slot : Option String} {entry : String × Part}
  {entries more : List (String × Part)}

theorem IsGiven.cons_cases (hgiven : IsGiven field text (entry :: more)) :
    (entry.1 = field ∧ IsLiteral text entry.2.value ∧ ∀ later ∈ more, later.1 ≠ field) ∨
      (entry.1 ≠ field ∧ IsGiven field text more) := by
  generalize hentries : entry :: more = entries at hgiven
  cases hgiven with
  | @member part after before hbefore hvalue hafter =>
      cases before with
      | nil =>
          cases hentries
          exact .inl ⟨rfl, hvalue, hafter⟩
      | cons first before =>
          cases hentries
          obtain ⟨hfirst, hmore⟩ := List.forall_mem_cons.mp hbefore
          exact .inr ⟨hfirst, .member before hmore hvalue hafter⟩
  | omitted hnone hempty =>
      cases hentries
      obtain ⟨hfirst, hmore⟩ := List.forall_mem_cons.mp hnone
      exact .inr ⟨hfirst, .omitted hmore hempty⟩

theorem IsGiven.eq_empty (hgiven : IsGiven field text []) : text = "" := by
  generalize hentries : ([] : List (String × Part)) = entries at hgiven
  cases hgiven with
  | member before hbefore hvalue hafter => simp at hentries
  | omitted hnone hempty => exact hempty

theorem Awaits.of_other (awaits : Awaits field text (entry :: more) slot)
    (hother : entry.1 ≠ field) : Awaits field text more slot := by
  cases awaits with
  | given hgiven =>
      rcases hgiven.cons_cases with ⟨hfield, -⟩ | ⟨-, hmore⟩
      · exact absurd hfield hother
      · exact .given hmore
  | read hnone => exact .read (List.forall_mem_cons.mp hnone).2

theorem Awaits.of_member (awaits : Awaits field text (entry :: more) slot)
    (hfield : entry.1 = field) :
    slot = none ∧ IsLiteral text entry.2.value ∧ Awaits field text more (some text) := by
  cases awaits with
  | given hgiven =>
      rcases hgiven.cons_cases with ⟨-, hvalue, hnone⟩ | ⟨hother, -⟩
      · exact ⟨rfl, hvalue, .read hnone⟩
      · exact absurd hfield hother
  | read hnone => exact absurd hfield (List.forall_mem_cons.mp hnone).1

theorem Awaits.getD_eq (awaits : Awaits field text [] slot) : slot.getD "" = text := by
  cases awaits with
  | given hgiven => exact hgiven.eq_empty.symm
  | read hnone => rfl

end Given

structure Expects (disk : Disk) (entries : List (String × Part)) (draft : Draft) : Prop where
  name : Awaits "name" disk.name entries draft.name
  holder : Awaits "instance" disk.holder entries draft.holder
  mountPoint : Awaits "mountPoint" disk.mountPoint entries draft.mountPoint
  others : ∀ entry ∈ entries, entry.1 ∉ fieldNames → IsValue entry.2.value

namespace Expects

variable {disk : Disk} {draft next : Draft} {entry : String × Part}
  {entries more : List (String × Part)}

theorem names_nodup : (Draft.shape.fields.map (·.name)).Nodup := by
  decide

theorem takes_text {field text : String} {get : Draft → Option String}
    {set : Draft → String → Draft}
    (hfield : .of field (Json.text "a string") get set ∈ Draft.shape.fields)
    (hname : entry.1 = field) (hopen : get draft = none)
    (hvalue : IsLiteral text entry.2.value) : Draft.shape.Takes draft entry (set draft text) :=
  .of_field names_nodup hfield hname hopen fun _ rest hgap =>
    Json.text_of_isLiteral "a string" hgap hvalue rest

theorem takes (expects : Expects disk (entry :: more) draft) :
    ∃ next, Draft.shape.Takes draft entry next ∧ Expects disk more next := by
  obtain ⟨hname, hholder, hmountPoint, hothers⟩ := expects
  obtain ⟨hother, hmore⟩ := List.forall_mem_cons.mp hothers
  by_cases hisName : entry.1 = "name"
  · obtain ⟨hopen, hvalue, hset⟩ := hname.of_member hisName
    have hfield : Draft.nameField ∈ Draft.shape.fields := by simp [Draft.shape]
    exact ⟨_, takes_text hfield hisName hopen hvalue, hset,
      hholder.of_other (by simp [hisName]), hmountPoint.of_other (by simp [hisName]), hmore⟩
  by_cases hisHolder : entry.1 = "instance"
  · obtain ⟨hopen, hvalue, hset⟩ := hholder.of_member hisHolder
    have hfield : Draft.holderField ∈ Draft.shape.fields := by simp [Draft.shape]
    exact ⟨_, takes_text hfield hisHolder hopen hvalue, hname.of_other hisName, hset,
      hmountPoint.of_other (by simp [hisHolder]), hmore⟩
  by_cases hisMountPoint : entry.1 = "mountPoint"
  · obtain ⟨hopen, hvalue, hset⟩ := hmountPoint.of_member hisMountPoint
    have hfield : Draft.mountPointField ∈ Draft.shape.fields := by simp [Draft.shape]
    exact ⟨_, takes_text hfield hisMountPoint hopen hvalue, hname.of_other hisName,
      hholder.of_other hisHolder, hset, hmore⟩
  · have hunknown : entry.1 ∉ fieldNames := by
      simp [fieldNames, hisName, hisHolder, hisMountPoint]
    exact ⟨draft, .of_not_mem hunknown (hother hunknown), hname.of_other hisName,
      hholder.of_other hisHolder, hmountPoint.of_other hisMountPoint, hmore⟩

theorem takesAll (expects : Expects disk entries draft) :
    ∃ final, Draft.shape.TakesAll draft entries final ∧ Expects disk [] final := by
  induction entries generalizing draft with
  | nil => exact ⟨draft, .nil, expects⟩
  | cons entry more ih =>
      obtain ⟨next, hfirst, hnext⟩ := expects.takes
      obtain ⟨final, hmore, hfinal⟩ := ih hnext
      exact ⟨final, .cons hfirst hmore, hfinal⟩

theorem finish_eq (expects : Expects disk [] draft) : Draft.finish draft = .ok disk := by
  rw [Draft.finish, expects.name.getD_eq, expects.holder.getD_eq, expects.mountPoint.getD_eq]

end Expects

section Written

variable {disk : Disk} {cs : List Char}

theorem read_of_isWritten (hwritten : IsWritten disk cs) :
    read (String.ofList cs) = .ok disk := by
  cases hwritten with
  | object hobject hname hholder hmountPoint hothers =>
      have hstart : Expects disk _ {} :=
        ⟨.given hname, .given hholder, .given hmountPoint, hothers⟩
      obtain ⟨final, htakes, hfinal⟩ := hstart.takesAll
      have hscan := htakes.scan_eq hobject hfinal.finish_eq []
      rw [List.append_nil] at hscan
      exact Json.read_of_scan hscan Json.isSpaces_nil

def write (disk : Disk) : List Char :=
  Json.writeObject
    [("name", Json.writeString disk.name), ("instance", Json.writeString disk.holder),
      ("mountPoint", Json.writeString disk.mountPoint)]

theorem isWritten_write (disk : Disk) : IsWritten disk (write disk) := by
  let name := Json.printed ("name", Json.writeString disk.name)
  let holder := Json.printed ("instance", Json.writeString disk.holder)
  refine .object (Json.isObject_writeObject _) ?_ ?_ ?_ ?_
  · exact .member [] (by simp) (Json.isLiteral_writeString disk.name) (by simp [Json.printed])
  · exact .member [name] (by simp [name, Json.printed])
      (Json.isLiteral_writeString disk.holder) (by simp [Json.printed])
  · exact .member [name, holder] (by simp [name, holder, Json.printed])
      (Json.isLiteral_writeString disk.mountPoint) (by simp)
  · simp [Json.printed, fieldNames]

theorem feed_not_mem_write (disk : Disk) : '\n' ∉ write disk := by
  simp [write, Json.writeObject, Json.writeMembers, Json.feed_not_mem_writeString]

end Written

end VmLifecycle.Disk
