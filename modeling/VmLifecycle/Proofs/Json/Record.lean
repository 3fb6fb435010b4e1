import VmLifecycle.Json.Record
import VmLifecycle.Proofs.Json.Skip

namespace VmLifecycle.Json

/-!
Reading an object into a draft. Member by member the draft goes as its fields take the members, in
whatever order these come, and members of other names leave it as it is.
-/

theorem IsLead.length_pos {isKey : List Char → Prop} {lead : List Char}
    (hlead : IsLead isKey lead) : 0 < lead.length := by
  cases hlead with
  | key hbefore hkey hafter =>
      simp only [List.length_append, List.length_singleton]
      omega

section Key

variable {key : String} {gap lead : List Char}

theorem nextKeyStart_first (hgap : IsSpaces gap) (rest : List Char) :
    nextKeyStart true (gap ++ '"' :: rest) = .ok (some rest) := by
  rw [nextKeyStart, skipSpace_spaced hgap (by decide)]
  rfl

theorem nextKeyStart_more {before : List Char} (hgap : IsSpaces gap) (hbefore : IsSpaces before)
    (rest : List Char) :
    nextKeyStart false (gap ++ ',' :: (before ++ '"' :: rest)) = .ok (some rest) := by
  rw [nextKeyStart, skipSpace_spaced hgap (by decide)]
  simp [skipSpace_spaced hbefore (c := '"') (by decide)]

theorem nextKey_of_isLead (hlead : IsLead (IsLiteral key) lead) :
    ∃ after, IsSpaces after ∧ ∀ gap rest, IsSpaces gap →
      nextKey true (gap ++ (lead ++ rest)) = .ok (some (key, after ++ ':' :: rest)) ∧
      nextKey false (gap ++ ',' :: (lead ++ rest)) = .ok (some (key, after ++ ':' :: rest)) := by
  cases hlead with
  | @key before literal after hbefore hkey hafter =>
      obtain ⟨inside, hspells, rfl⟩ := hkey
      refine ⟨after, hafter, ?_⟩
      intro gap rest hgap
      have hcs : before ++ ('"' :: inside ++ ['"']) ++ after ++ [':'] ++ rest =
          before ++ '"' :: (inside ++ '"' :: (after ++ ':' :: rest)) := by simp
      constructor
      · rw [hcs, ← List.append_assoc, nextKey, nextKeyStart_first (hgap.append hbefore)]
        simp only [readString_of_spellsAll hspells]
      · rw [hcs, nextKey, nextKeyStart_more hgap hbefore]
        simp only [readString_of_spellsAll hspells]

theorem nextKey_end (isFirst : Bool) (hgap : IsSpaces gap) (rest : List Char) :
    nextKey isFirst (gap ++ '\x7d' :: rest) = .ok none := by
  rw [nextKey, nextKeyStart, skipSpace_spaced hgap (by decide)]
  rfl

theorem endObject_spaced (hgap : IsSpaces gap) (rest : List Char) :
    endObject (gap ++ '\x7d' :: rest) = .ok rest := by
  rw [endObject, skipSpace_spaced hgap (by decide)]
  rfl

end Key

theorem text_of_isLiteral (expected : String) {text : String} {gap value : List Char}
    (hgap : IsSpaces gap) (hvalue : IsLiteral text value) (rest : List Char) :
    Json.text expected (gap ++ value ++ rest) = .ok (text, rest) := by
  obtain ⟨inside, hspells, rfl⟩ := hvalue
  have hcs : gap ++ ('"' :: inside ++ ['"']) ++ rest = gap ++ '"' :: (inside ++ '"' :: rest) := by
    simp
  rw [hcs, Json.text, skipSpace_spaced hgap (by decide)]
  exact readString_of_spellsAll hspells rest

theorem text?_of_isLiteral (expected : String) {text : String} {gap value : List Char}
    (hgap : IsSpaces gap) (hvalue : IsLiteral text value) (rest : List Char) :
    Json.text? expected (gap ++ value ++ rest) = .ok (some text, rest) := by
  obtain ⟨inside, hspells, rfl⟩ := hvalue
  have hcs : gap ++ ('"' :: inside ++ ['"']) ++ rest = gap ++ '"' :: (inside ++ '"' :: rest) := by
    simp
  have htext : Json.text expected ('"' :: (inside ++ '"' :: rest)) = .ok (text, rest) := by
    rw [Json.text, skipSpace_cons (by decide)]
    exact readString_of_spellsAll hspells rest
  rw [hcs, Json.text?, skipSpace_spaced hgap (by decide)]
  split
  · next heq => cases heq
  · rw [htext]

theorem text?_of_null (expected : String) {gap : List Char} (hgap : IsSpaces gap)
    (rest : List Char) :
    Json.text? expected (gap ++ ['n', 'u', 'l', 'l'] ++ rest) = .ok (none, rest) := by
  rw [List.append_assoc, List.cons_append, Json.text?, skipSpace_spaced hgap (by decide)]
  rfl

namespace Part

/-- The inside of an object from its first part on, or from one behind a comma, with the end of the
object and what follows it. -/
def inside (isFirst : Bool) (parts : List Part) (rest : List Char) : List Char :=
  (if isFirst then join parts else joinMore parts) ++ '\x7d' :: rest

theorem inside_nil (isFirst : Bool) (rest : List Char) :
    inside isFirst [] rest = '\x7d' :: rest := by
  cases isFirst <;> rfl

theorem inside_first (part : Part) (more : List Part) (rest : List Char) :
    inside true (part :: more) rest =
      part.lead ++ (part.gap ++ part.value ++ (part.after ++ inside false more rest)) := by
  simp [inside, join, chars]

theorem inside_more (part : Part) (more : List Part) (rest : List Char) :
    inside false (part :: more) rest =
      ',' :: (part.lead ++ (part.gap ++ part.value ++ (part.after ++ inside false more rest))) := by
  simp [inside, joinMore, chars]

theorem isDelimited_inside {after : List Char} (hafter : IsSpaces after) (more : List Part)
    (rest : List Char) : IsDelimited (after ++ inside false more rest) := by
  have hend := isDelimited_part .object hafter more rest
  rwa [List.append_assoc] at hend

end Part

namespace Shape

/-- How a draft takes an entry: the value goes into the field of its name, if that is not set, and
a well-formed value of another name is passed over. -/
inductive Takes (shape : Shape δ) (draft : δ) (entry : String × Part) : δ → Prop
  | field (hfield : shape.fields.find? (·.name == entry.1) = some field)
      (hopen : field.isSet draft = false)
      (hscan : ∀ gap rest, IsSpaces gap → IsDelimited rest →
        field.scan draft (gap ++ entry.2.value ++ rest) = .ok (next, rest)) :
      Takes shape draft entry next
  | other (hother : shape.fields.find? (·.name == entry.1) = none)
      (hvalue : IsValue entry.2.value) :
      Takes shape draft entry draft

inductive TakesAll (shape : Shape δ) : δ → List (String × Part) → δ → Prop
  | nil : TakesAll shape draft [] draft
  | cons (first : Takes shape draft entry next) (rest : TakesAll shape next more final) :
      TakesAll shape draft (entry :: more) final

/-- How a draft refuses an entry: the field of its name reads the value and has a fault to find
with it. -/
inductive Refuses (shape : Shape δ) (draft : δ) (entry : String × Part) (fault : Fault) : Prop
  | field (hfield : shape.fields.find? (·.name == entry.1) = some field)
      (hopen : field.isSet draft = false)
      (hscan : ∀ gap rest, IsSpaces gap → IsDelimited rest →
        field.scan draft (gap ++ entry.2.value ++ rest) = .error ⟨fault, .behind rest⟩)

inductive RefusesIn (shape : Shape δ) : δ → List (String × Part) → Fault → Prop
  | here (first : Refuses shape draft entry fault) : RefusesIn shape draft (entry :: more) fault
  | later (first : Takes shape draft entry next) (rest : RefusesIn shape next more fault) :
      RefusesIn shape draft (entry :: more) fault

section Named

variable {shape : Shape δ} {field : Field δ} {fields : List (Field δ)} {draft : δ}
  {entry : String × Part} {fault : Fault} {name : String} {scan : Scan α} {get : δ → Option α}
  {set : δ → α → δ} {value : α}

theorem find?_of_mem (hnames : (fields.map (·.name)).Nodup) (hfield : field ∈ fields) :
    fields.find? (·.name == field.name) = some field := by
  induction fields with
  | nil => exact absurd hfield List.not_mem_nil
  | cons first more ih =>
      obtain ⟨hfirst, hmore⟩ := List.nodup_cons.mp hnames
      rcases List.mem_cons.mp hfield with rfl | hlater
      · exact List.find?_cons_of_pos (beq_self_eq_true _)
      · have hother : first.name ≠ field.name := by
          intro hsame
          exact hfirst (List.mem_map.mpr ⟨field, hlater, hsame.symm⟩)
        rw [List.find?_cons_of_neg (by simpa using hother)]
        exact ih hmore hlater

theorem Takes.of_field (hnames : (shape.fields.map (·.name)).Nodup)
    (hfield : .of name scan get set ∈ shape.fields) (hname : entry.1 = name)
    (hopen : get draft = none)
    (hscan : ∀ gap rest, IsSpaces gap →
      scan (gap ++ entry.2.value ++ rest) = .ok (value, rest)) :
    Takes shape draft entry (set draft value) := by
  have hfind := find?_of_mem hnames hfield
  rw [Field.of, ← hname] at hfind
  refine .field hfind (by simp [hopen]) ?_
  intro gap rest hgap _
  simp only [hscan gap rest hgap]

theorem Takes.of_not_mem (hother : entry.1 ∉ shape.fields.map (·.name))
    (hvalue : IsValue entry.2.value) : Takes shape draft entry draft := by
  refine .other (List.find?_eq_none.mpr ?_) hvalue
  intro field hfield hname
  exact hother (List.mem_map.mpr ⟨field, hfield, eq_of_beq hname⟩)

theorem Refuses.of_field (hnames : (shape.fields.map (·.name)).Nodup)
    (hfield : .of name scan get set ∈ shape.fields) (hname : entry.1 = name)
    (hopen : get draft = none)
    (hscan : ∀ gap rest, IsSpaces gap →
      scan (gap ++ entry.2.value ++ rest) = .error ⟨fault, .behind rest⟩) :
    Refuses shape draft entry fault := by
  have hfind := find?_of_mem hnames hfield
  rw [Field.of, ← hname] at hfind
  refine .field hfind (by simp [hopen]) ?_
  intro gap rest hgap _
  simp only [hscan gap rest hgap]

end Named

section Object

variable {shape : Shape δ} {start draft next : δ} {entry : String × Part} {fault : Fault}
  {entries : List (String × Part)} {before after behind rest : List Char}

theorem Takes.member_eq (takes : Takes shape draft entry next) {bound : Nat}
    (hafter : IsSpaces after) (hgap : IsSpaces entry.2.gap) (hend : IsDelimited behind)
    (hbound : entry.2.value.length ≤ bound) :
    shape.member bound entry.1 draft
        (after ++ ':' :: (entry.2.gap ++ entry.2.value ++ behind)) =
      .ok (next, behind) := by
  cases takes with
  | field hfield hopen hscan =>
      rw [member, hfield]
      simp only [hopen, Bool.false_eq_true, if_false, skipColon_spaced hafter]
      exact hscan entry.2.gap behind hgap hend
  | other hother hvalue =>
      rw [member, hother]
      simp only [skipColon_spaced hafter, skipValue_append hvalue hbound hgap hend]

theorem Refuses.member_eq (refuses : Refuses shape draft entry fault) {bound : Nat}
    (hafter : IsSpaces after) (hgap : IsSpaces entry.2.gap) (hend : IsDelimited behind) :
    shape.member bound entry.1 draft
        (after ++ ':' :: (entry.2.gap ++ entry.2.value ++ behind)) =
      .error ⟨fault, .behind behind⟩ := by
  cases refuses with
  | field hfield hopen hscan =>
      rw [member, hfield]
      simp only [hopen, Bool.false_eq_true, if_false, skipColon_spaced hafter]
      exact hscan entry.2.gap behind hgap hend

theorem nextKey_inside (isFirst : Bool) (hlead : IsLead (IsLiteral entry.1) entry.2.lead)
    (hbefore : IsSpaces before) (more : List Part) (rest : List Char) :
    ∃ after, IsSpaces after ∧
      nextKey isFirst (before ++ Part.inside isFirst (entry.2 :: more) rest) =
        .ok (some (entry.1, after ++ ':' :: (entry.2.gap ++ entry.2.value ++
          (entry.2.after ++ Part.inside false more rest)))) := by
  obtain ⟨after, hafter, hkey⟩ := nextKey_of_isLead hlead
  obtain ⟨hfirst, hmore⟩ := hkey before (entry.2.gap ++ entry.2.value ++
    (entry.2.after ++ Part.inside false more rest)) hbefore
  refine ⟨after, hafter, ?_⟩
  cases isFirst with
  | true =>
      rw [Part.inside_first]
      exact hfirst
  | false =>
      rw [Part.inside_more]
      exact hmore

/-- An entry has a character besides its value and what is behind it, so there are rounds enough. -/
theorem rounds_suffice {isFirst : Bool} {more : List Part} {rounds : Nat}
    (hlead : IsLead (IsLiteral entry.1) entry.2.lead)
    (hrounds : (before ++ Part.inside isFirst (entry.2 :: more) rest).length < rounds + 1) :
    entry.2.value.length ≤ rounds ∧
      (entry.2.after ++ Part.inside false more rest).length < rounds := by
  have hcolon : 0 < entry.2.lead.length := hlead.length_pos
  cases isFirst with
  | true =>
      simp only [Part.inside_first, List.length_append] at hrounds ⊢
      omega
  | false =>
      simp only [Part.inside_more, List.length_append, List.length_cons] at hrounds ⊢
      omega

theorem Takes.members_eq (takes : Takes shape draft entry next)
    (hlead : IsLead (IsLiteral entry.1) entry.2.lead) (hspaced : entry.2.IsSpaced)
    (hbefore : IsSpaces before) {isFirst : Bool} {more : List Part} {rounds : Nat}
    (hrounds : (before ++ Part.inside isFirst (entry.2 :: more) rest).length < rounds) :
    ∃ left, (entry.2.after ++ Part.inside false more rest).length < left ∧
      shape.members rounds isFirst draft
          (before ++ Part.inside isFirst (entry.2 :: more) rest) =
        shape.members left false next (entry.2.after ++ Part.inside false more rest) := by
  obtain ⟨hgap, hbehind⟩ := hspaced
  cases rounds with
  | zero => exact absurd hrounds (Nat.not_lt_zero _)
  | succ rounds =>
      obtain ⟨hvalue, hmore⟩ := rounds_suffice hlead hrounds
      obtain ⟨after, hafter, hkey⟩ := nextKey_inside isFirst hlead hbefore more rest
      have hend := Part.isDelimited_inside hbehind more rest
      refine ⟨rounds, hmore, ?_⟩
      simp only [members, hkey, takes.member_eq hafter hgap hend hvalue]

theorem Refuses.members_eq (refuses : Refuses shape draft entry fault)
    (hlead : IsLead (IsLiteral entry.1) entry.2.lead) (hspaced : entry.2.IsSpaced)
    (hbefore : IsSpaces before) {isFirst : Bool} {more : List Part} {rounds : Nat}
    (hrounds : (before ++ Part.inside isFirst (entry.2 :: more) rest).length < rounds) :
    ∃ behind, shape.members rounds isFirst draft
        (before ++ Part.inside isFirst (entry.2 :: more) rest) =
      .error ⟨fault, .behind behind⟩ := by
  obtain ⟨hgap, hbehind⟩ := hspaced
  cases rounds with
  | zero => exact absurd hrounds (Nat.not_lt_zero _)
  | succ rounds =>
      obtain ⟨after, hafter, hkey⟩ := nextKey_inside isFirst hlead hbefore more rest
      have hend := Part.isDelimited_inside hbehind more rest
      refine ⟨entry.2.after ++ Part.inside false more rest, ?_⟩
      simp only [members, hkey, refuses.member_eq hafter hgap hend]

theorem TakesAll.members_eq (takes : TakesAll shape draft entries next)
    (hleads : ∀ entry ∈ entries, IsLead (IsLiteral entry.1) entry.2.lead)
    (hspaced : ∀ entry ∈ entries, entry.2.IsSpaced) (hbefore : IsSpaces before)
    {isFirst : Bool} {rounds : Nat}
    (hrounds : (before ++ Part.inside isFirst (entries.map (·.2)) rest).length < rounds) :
    ∃ last, IsSpaces last ∧
      shape.members rounds isFirst draft
          (before ++ Part.inside isFirst (entries.map (·.2)) rest) =
        .ok (next, last ++ '\x7d' :: rest) := by
  induction takes generalizing rounds isFirst before with
  | nil =>
      cases rounds with
      | zero => exact absurd hrounds (Nat.not_lt_zero _)
      | succ rounds =>
          refine ⟨before, hbefore, ?_⟩
          rw [List.map_nil, Part.inside_nil, members, nextKey_end isFirst hbefore]
  | cons first takesMore ih =>
      obtain ⟨hlead, hleadsMore⟩ := List.forall_mem_cons.mp hleads
      obtain ⟨hspacing, hspacedMore⟩ := List.forall_mem_cons.mp hspaced
      obtain ⟨left, hleft, hstep⟩ := first.members_eq hlead hspacing hbefore hrounds
      rw [List.map_cons, hstep]
      exact ih hleadsMore hspacedMore hspacing.2 hleft

theorem RefusesIn.members_eq (refuses : RefusesIn shape draft entries fault)
    (hleads : ∀ entry ∈ entries, IsLead (IsLiteral entry.1) entry.2.lead)
    (hspaced : ∀ entry ∈ entries, entry.2.IsSpaced) (hbefore : IsSpaces before)
    {isFirst : Bool} {rounds : Nat}
    (hrounds : (before ++ Part.inside isFirst (entries.map (·.2)) rest).length < rounds) :
    ∃ behind, shape.members rounds isFirst draft
        (before ++ Part.inside isFirst (entries.map (·.2)) rest) =
      .error ⟨fault, .behind behind⟩ := by
  induction refuses generalizing rounds isFirst before with
  | here first =>
      obtain ⟨hlead, -⟩ := List.forall_mem_cons.mp hleads
      obtain ⟨hspacing, -⟩ := List.forall_mem_cons.mp hspaced
      exact first.members_eq hlead hspacing hbefore hrounds
  | later first refusesMore ih =>
      obtain ⟨hlead, hleadsMore⟩ := List.forall_mem_cons.mp hleads
      obtain ⟨hspacing, hspacedMore⟩ := List.forall_mem_cons.mp hspaced
      obtain ⟨left, hleft, hstep⟩ := first.members_eq hlead hspacing hbefore hrounds
      rw [List.map_cons, hstep]
      exact ih hleadsMore hspacedMore hspacing.2 hleft

theorem scan_object (shape : Shape δ) (start : δ) (finish : δ → Except Fault α)
    (gap : List Char) (parts : List Part) (rest : List Char) :
    shape.scan start finish ('\x7b' :: gap ++ Part.join parts ++ ['\x7d'] ++ rest) =
      complete endObject pastObject finish
        (shape.members ((gap ++ Part.inside true parts rest).length + 1) true start
          (gap ++ Part.inside true parts rest)) := by
  have hcs : '\x7b' :: gap ++ Part.join parts ++ ['\x7d'] ++ rest =
      '\x7b' :: (gap ++ Part.inside true parts rest) := by
    simp [Part.inside]
  rw [hcs, scan, skipSpace_cons (by decide)]
  rfl

theorem TakesAll.scan_eq {finish : δ → Except Fault α} {value : α} {cs : List Char}
    (takes : TakesAll shape start entries draft) (hobject : IsObject entries cs)
    (hfinish : finish draft = .ok value) (rest : List Char) :
    shape.scan start finish (cs ++ rest) = .ok (value, rest) := by
  cases hobject with
  | object hgap hleads hspaced =>
      obtain ⟨last, hlast, hread⟩ :=
        takes.members_eq hleads hspaced hgap (Nat.lt_succ_self _)
      rw [scan_object, hread]
      simp only [complete, hfinish, endObject_spaced hlast]

theorem RefusesIn.scan_eq {cs : List Char} (refuses : RefusesIn shape start entries fault)
    (hobject : IsObject entries cs) (finish : δ → Except Fault α) (rest : List Char) :
    ∃ bytes, shape.scan start finish (cs ++ rest) = .error ⟨fault, .left bytes⟩ := by
  cases hobject with
  | object hgap hleads hspaced =>
      obtain ⟨behind, hread⟩ :=
        refuses.members_eq hleads hspaced hgap (Nat.lt_succ_self _)
      rw [scan_object, hread]
      exact ⟨_, rfl⟩

theorem scan_spaced (start : δ) (finish : δ → Except Fault α) (hbefore : IsSpaces before)
    (cs : List Char) :
    shape.scan start finish (before ++ cs) = shape.scan start finish cs := by
  rw [scan, scan, skipSpace_append hbefore]

end Object

end Shape

section Read

variable {scan : Scan α} {cs : List Char}

theorem read_of_scan {value : α} {rest : List Char} (hscan : scan cs = .ok (value, rest))
    (hrest : IsSpaces rest) : read scan (String.ofList cs) = .ok value := by
  have hnone : skipSpace rest = [] := by
    rw [← List.append_nil rest, skipSpace_append hrest]
    rfl
  rw [read, String.toList_ofList, scanAll, hscan]
  simp only [hnone]

theorem read_of_stop {stop : Stop} (hscan : scan cs = .error stop) :
    read scan (String.ofList cs) = .error (stop.locate cs) := by
  rw [read, String.toList_ofList, scanAll, hscan]

end Read

end VmLifecycle.Json
