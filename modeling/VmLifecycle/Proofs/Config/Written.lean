import VmLifecycle.Config.Document
import VmLifecycle.Proofs.Instance
import VmLifecycle.Proofs.Json.Printer

namespace VmLifecycle.Config

open Json (IsDocument IsLiteral IsObject IsValue Part)

/-- The texts that a configuration is made of; its name need not be one that an instance can have. -/
structure Texts where
  name : String
  tool : String
  home : Option String
  disk : String

def texts (config : Config) : Texts where
  name := config.instanceName.text
  tool := config.tool.text
  home := config.toolHome.map (·.text)
  disk := config.dataDisk

def fieldNames : List String :=
  ["instance", "limactl", "lima_home", "user_data_disk"]

/-- A home is written as a text, and that there is none as `null`. -/
inductive IsHome : Option String → List Char → Prop
  | some (hvalue : IsLiteral home value) : IsHome (some home) value
  | none : IsHome none ['n', 'u', 'l', 'l']

/-- The value of a member: one of the texts, or under another name anything that is well formed. -/
inductive Texts.Gives (texts : Texts) (field : String) (value : List Char) : Prop
  | name (hfield : field = "instance") (hvalue : IsLiteral texts.name value)
  | tool (hfield : field = "limactl") (hvalue : IsLiteral texts.tool value)
  | home (hfield : field = "lima_home") (hvalue : IsHome texts.home value)
  | disk (hfield : field = "user_data_disk") (hvalue : IsLiteral texts.disk value)
  | other (hfield : field ∉ fieldNames) (hvalue : IsValue value)

def given (entries : List (String × Part)) : List String :=
  (entries.map (·.1)).filter (· ∈ fieldNames)

/-- The text is an object with the four fields in some order, among members of other names; a home
that there is none of may be left out. -/
inductive IsWritten (texts : Texts) (cs : List Char) : Prop
  | object (hobject : IsObject entries cs)
      (hvalues : ∀ entry ∈ entries, texts.Gives entry.1 entry.2.value)
      (hgiven : (given entries).Perm fieldNames ∨
        texts.home = none ∧ (given entries).Perm (fieldNames.erase "lima_home")) :
      IsWritten texts cs

def Texts.draft (texts : Texts) (name? : Option InstanceName) (behind : List String) : Draft where
  instanceName := if "instance" ∈ behind then name? else none
  tool := if "limactl" ∈ behind then some texts.tool else none
  toolHome := if "lima_home" ∈ behind then some texts.home else none
  dataDisk := if "user_data_disk" ∈ behind then some texts.disk else none

theorem Draft.names_nodup : (Draft.shape.fields.map (·.name)).Nodup := by
  decide

theorem text?_of_isHome {home : Option String} {gap value : List Char} (hgap : Json.IsSpaces gap)
    (hvalue : IsHome home value) (rest : List Char) :
    Json.text? "path string" (gap ++ value ++ rest) = .ok (home, rest) := by
  cases hvalue with
  | some hvalue => exact Json.text?_of_isLiteral "path string" hgap hvalue rest
  | none => exact Json.text?_of_null "path string" hgap rest

namespace Texts

variable {texts : Texts} {name? : Option InstanceName} {behind : List String}
  {entry : String × Part}

theorem takes_entry (hgives : texts.Gives entry.1 entry.2.value)
    (hnew : entry.1 ∈ fieldNames → entry.1 ∉ behind)
    (hname : entry.1 = "instance" → ∃ name, name? = some name ∧
      InstanceName.parse texts.name = .ok name) :
    Draft.shape.Takes (texts.draft name? behind) entry
      (texts.draft name? (entry.1 :: behind)) := by
  cases hgives with
  | name hfield hvalue =>
      obtain ⟨name, rfl, hparse⟩ := hname hfield
      have hopen : "instance" ∉ behind := by simpa [hfield, fieldNames] using hnew
      have hknown : Draft.instanceField ∈ Draft.shape.fields := by simp [Draft.shape]
      have hnext : texts.draft (some name) (entry.1 :: behind) =
          { texts.draft (some name) behind with instanceName := some name } := by
        simp [draft, hfield]
      rw [hnext]
      exact .of_field Draft.names_nodup hknown hfield (by simp [draft, hopen])
        fun _ rest hgap => InstanceName.scan_of_parse hgap hvalue hparse rest
  | tool hfield hvalue =>
      have hopen : "limactl" ∉ behind := by simpa [hfield, fieldNames] using hnew
      have hknown : Draft.toolField ∈ Draft.shape.fields := by simp [Draft.shape]
      have hnext : texts.draft name? (entry.1 :: behind) =
          { texts.draft name? behind with tool := some texts.tool } := by
        simp [draft, hfield]
      rw [hnext]
      exact .of_field Draft.names_nodup hknown hfield (by simp [draft, hopen])
        fun _ rest hgap => Json.text_of_isLiteral "path string" hgap hvalue rest
  | home hfield hvalue =>
      have hopen : "lima_home" ∉ behind := by simpa [hfield, fieldNames] using hnew
      have hknown : Draft.toolHomeField ∈ Draft.shape.fields := by simp [Draft.shape]
      have hnext : texts.draft name? (entry.1 :: behind) =
          { texts.draft name? behind with toolHome := some texts.home } := by
        simp [draft, hfield]
      rw [hnext]
      exact .of_field Draft.names_nodup hknown hfield (by simp [draft, hopen])
        fun _ rest hgap => text?_of_isHome hgap hvalue rest
  | disk hfield hvalue =>
      have hopen : "user_data_disk" ∉ behind := by simpa [hfield, fieldNames] using hnew
      have hknown : Draft.dataDiskField ∈ Draft.shape.fields := by simp [Draft.shape]
      have hnext : texts.draft name? (entry.1 :: behind) =
          { texts.draft name? behind with dataDisk := some texts.disk } := by
        simp [draft, hfield]
      rw [hnext]
      exact .of_field Draft.names_nodup hknown hfield (by simp [draft, hopen])
        fun _ rest hgap => Json.text_of_isLiteral "a string" hgap hvalue rest
  | other hfield hvalue =>
      have hsame : texts.draft name? (entry.1 :: behind) = texts.draft name? behind := by
        simp only [fieldNames, List.mem_cons, List.not_mem_nil, or_false, not_or] at hfield
        obtain ⟨hname, htool, hhome, hdisk⟩ := hfield
        simp [draft, Ne.symm hname, Ne.symm htool, Ne.symm hhome, Ne.symm hdisk]
      rw [hsame]
      exact .of_not_mem hfield hvalue

theorem refuses_entry (hgives : texts.Gives entry.1 entry.2.value) (hfield : entry.1 = "instance")
    {fault : NameFault} (hfault : InstanceName.parse texts.name = .error fault) :
    Draft.shape.Refuses (texts.draft none behind) entry (.rejected fault.toError.message) := by
  have hvalue : IsLiteral texts.name entry.2.value := by
    cases hgives with
    | name _ hvalue => exact hvalue
    | tool hother _ => simp [hfield] at hother
    | home hother _ => simp [hfield] at hother
    | disk hother _ => simp [hfield] at hother
    | other hother _ => simp [hfield, fieldNames] at hother
  have hknown : Draft.instanceField ∈ Draft.shape.fields := by simp [Draft.shape]
  exact .of_field Draft.names_nodup hknown hfield (by simp [draft])
    fun _ rest hgap => InstanceName.scan_of_fault hgap hvalue hfault rest

end Texts

section Entries

variable {texts : Texts} {name? : Option InstanceName} {behind : List String}
  {entry : String × Part} {entries more : List (String × Part)}

theorem mem_given_iff {field : String} :
    field ∈ given entries ↔ field ∈ entries.map (·.1) ∧ field ∈ fieldNames := by
  simp only [given, List.mem_filter, decide_eq_true_eq]

theorem given_tail (honce : (given (entry :: more)).Nodup) :
    (given more).Nodup ∧ entry.1 ∉ given more := by
  by_cases hfield : entry.1 ∈ fieldNames
  · have hgiven : given (entry :: more) = entry.1 :: given more := by simp [given, hfield]
    rw [hgiven] at honce
    obtain ⟨hnew, hmore⟩ := List.nodup_cons.mp honce
    exact ⟨hmore, hnew⟩
  · have hgiven : given (entry :: more) = given more := by simp [given, hfield]
    rw [hgiven] at honce
    exact ⟨honce, fun hmem => hfield (mem_given_iff.mp hmem).2⟩

/-- Entries that give the texts, with each field at most once and none that is behind already. -/
structure Follows (texts : Texts) (behind : List String) (entries : List (String × Part)) :
    Prop where
  values : ∀ entry ∈ entries, texts.Gives entry.1 entry.2.value
  once : (given entries).Nodup
  new : ∀ field ∈ given entries, field ∉ behind

namespace Follows

theorem tail (follows : Follows texts behind (entry :: more)) :
    Follows texts (entry.1 :: behind) more := by
  obtain ⟨hmore, hnew⟩ := given_tail follows.once
  refine ⟨(List.forall_mem_cons.mp follows.values).2, hmore, ?_⟩
  intro field hfield hbehind
  rcases List.mem_cons.mp hbehind with rfl | hbehind
  · exact hnew hfield
  · have hmem : field ∈ given (entry :: more) := by
      obtain ⟨hmore, hknown⟩ := mem_given_iff.mp hfield
      exact mem_given_iff.mpr ⟨List.mem_cons_of_mem entry.1 hmore, hknown⟩
    exact follows.new field hmem hbehind

theorem new_head (follows : Follows texts behind (entry :: more)) (hfield : entry.1 ∈ fieldNames) :
    entry.1 ∉ behind :=
  follows.new entry.1 (mem_given_iff.mpr ⟨List.mem_cons_self, hfield⟩)

theorem takesAll (follows : Follows texts behind entries) {name : InstanceName}
    (hname : InstanceName.parse texts.name = .ok name) :
    Draft.shape.TakesAll (texts.draft (some name) behind) entries
      (texts.draft (some name) ((entries.map (·.1)).reverse ++ behind)) := by
  induction entries generalizing behind with
  | nil => exact .nil
  | cons entry more ih =>
      have hgives := (List.forall_mem_cons.mp follows.values).1
      have first : Draft.shape.Takes (texts.draft (some name) behind) entry
          (texts.draft (some name) (entry.1 :: behind)) :=
        Texts.takes_entry hgives follows.new_head fun _ => ⟨name, rfl, hname⟩
      rw [List.map_cons, List.reverse_cons, List.append_assoc]
      exact .cons first (ih follows.tail)

theorem refusesIn (follows : Follows texts behind entries) {fault : NameFault}
    (hfault : InstanceName.parse texts.name = .error fault)
    (hinstance : "instance" ∈ given entries) :
    Draft.shape.RefusesIn (texts.draft none behind) entries
      (.rejected fault.toError.message) := by
  induction entries generalizing behind with
  | nil => simp [given] at hinstance
  | cons entry more ih =>
      have hgives := (List.forall_mem_cons.mp follows.values).1
      by_cases hfield : entry.1 = "instance"
      · exact .here (Texts.refuses_entry hgives hfield hfault)
      · have first : Draft.shape.Takes (texts.draft none behind) entry
            (texts.draft none (entry.1 :: behind)) :=
          Texts.takes_entry hgives follows.new_head fun hname => absurd hname hfield
        have hmore : "instance" ∈ given more := by
          obtain ⟨hmem, hknown⟩ := mem_given_iff.mp hinstance
          rw [List.map_cons, List.mem_cons] at hmem
          exact mem_given_iff.mpr ⟨hmem.resolve_left (Ne.symm hfield), hknown⟩
        exact .later first (ih follows.tail hmore)

end Follows

end Entries

def Texts.config (texts : Texts) (name : InstanceName) : Config where
  instanceName := name
  tool := ⟨texts.tool⟩
  toolHome := texts.home.map PathText.mk
  dataDisk := texts.disk

theorem config_texts (config : Config) : config.texts.config config.instanceName = config := by
  obtain ⟨name, tool, home, disk⟩ := config
  cases home <;> rfl

section Written

variable {texts : Texts} {json : String} {cs : List Char}

theorem finish_draft {behind : List String} {name : InstanceName}
    (hneeded : ∀ field ∈ fieldNames.erase "lima_home", field ∈ behind)
    (hhome : "lima_home" ∈ behind ∨ texts.home = none) :
    Draft.finish (texts.draft (some name) behind) = .ok (texts.config name) := by
  have hname : "instance" ∈ behind := hneeded _ (by decide)
  have htool : "limactl" ∈ behind := hneeded _ (by decide)
  have hdisk : "user_data_disk" ∈ behind := hneeded _ (by decide)
  rcases hhome with hgiven | hnone
  · simp [Draft.finish, Texts.draft, Texts.config, hname, htool, hdisk, hgiven]
  · by_cases hgiven : "lima_home" ∈ behind
    · simp [Draft.finish, Texts.draft, Texts.config, hname, htool, hdisk, hgiven]
    · simp [Draft.finish, Texts.draft, Texts.config, hname, htool, hdisk, hgiven, hnone]

theorem IsWritten.exists_entries (hwritten : IsWritten texts cs) :
    ∃ entries, IsObject entries cs ∧ Follows texts [] entries ∧
      (∀ field ∈ fieldNames.erase "lima_home", field ∈ given entries) ∧
      ("lima_home" ∈ given entries ∨ texts.home = none) := by
  cases hwritten with
  | object hobject hvalues hgiven =>
      refine ⟨_, hobject, ⟨hvalues, ?_, by simp⟩, ?_⟩
      · rcases hgiven with hall | ⟨-, hneeded⟩
        · exact hall.nodup_iff.mpr (by decide)
        · exact hneeded.nodup_iff.mpr (by decide)
      · rcases hgiven with hall | ⟨hnone, hneeded⟩
        · refine ⟨?_, .inl (hall.mem_iff.mpr (by decide))⟩
          intro field hfield
          exact hall.mem_iff.mpr (List.mem_of_mem_erase hfield)
        · exact ⟨fun field hfield => hneeded.mem_iff.mpr hfield, .inr hnone⟩

theorem read_of_isWritten (hwritten : IsDocument (IsWritten texts) json) {name : InstanceName}
    (hname : InstanceName.parse texts.name = .ok name) : read json = .ok (texts.config name) := by
  cases hwritten with
  | @spaced before cs after hbefore hform hafter =>
      obtain ⟨entries, hobject, hfollows, hneeded, hhome⟩ := hform.exists_entries
      have hfinish : Draft.finish (texts.draft (some name) ((entries.map (·.1)).reverse ++ [])) =
          .ok (texts.config name) := by
        apply finish_draft
        · intro field hfield
          simpa using (mem_given_iff.mp (hneeded field hfield)).1
        · refine hhome.imp_left ?_
          intro hgiven
          simpa using (mem_given_iff.mp hgiven).1
      have hscan : scan (before ++ cs ++ after) = .ok (texts.config name, after) := by
        rw [List.append_assoc, scan, Json.Shape.scan_spaced _ _ hbefore]
        exact (hfollows.takesAll hname).scan_eq hobject hfinish after
      exact Json.read_of_scan hscan hafter

theorem read_of_fault (hwritten : IsDocument (IsWritten texts) json) {fault : NameFault}
    (hfault : InstanceName.parse texts.name = .error fault) :
    ∃ position, read json = .error ⟨.rejected fault.toError.message, some position⟩ := by
  cases hwritten with
  | @spaced before cs after hbefore hform hafter =>
      obtain ⟨entries, hobject, hfollows, hneeded, -⟩ := hform.exists_entries
      have hrefuses := hfollows.refusesIn hfault (hneeded "instance" (by decide))
      obtain ⟨bytes, hrefused⟩ := hrefuses.scan_eq hobject Draft.finish after
      have hscan : scan (before ++ cs ++ after) =
          .error ⟨.rejected fault.toError.message, .left bytes⟩ := by
        rw [List.append_assoc, scan, Json.Shape.scan_spaced _ _ hbefore]
        exact hrefused
      exact ⟨_, Json.read_of_stop hscan⟩

theorem isWritten_write (config : Config) :
    ∃ cs, write config = String.ofList cs ∧ IsWritten config.texts cs := by
  refine ⟨_, rfl, .object (Json.isObject_writeObject _) ?_ (.inl ?_)⟩
  · have hhome : IsHome config.texts.home (Json.writeText? config.texts.home) := by
      cases config.texts.home with
      | none => exact .none
      | some home => exact .some (Json.isLiteral_writeString home)
    simp only [List.map_cons, List.map_nil, List.forall_mem_cons]
    exact ⟨.name rfl (Json.isLiteral_writeString _), .tool rfl (Json.isLiteral_writeString _),
      .home rfl hhome, .disk rfl (Json.isLiteral_writeString _), by simp⟩
  · exact List.Perm.refl fieldNames

/-- A configuration is read back from what is written of it, and from every object that gives its
texts: in any order of the members, with any space and any spelling of the strings, among
well-formed members of other names, and without the home when there is none. -/
theorem read_written (config : Config) :
    read (write config) = .ok config ∧
      ∀ json, IsDocument (IsWritten config.texts) json → read json = .ok config := by
  have hread : ∀ json, IsDocument (IsWritten config.texts) json → read json = .ok config := by
    intro json hwritten
    rw [read_of_isWritten hwritten config.instanceName.parse_text, config_texts]
  refine ⟨?_, hread⟩
  obtain ⟨cs, hwrite, hwritten⟩ := isWritten_write config
  have hdocument : IsDocument (IsWritten config.texts) (String.ofList ([] ++ cs ++ [])) :=
    .spaced Json.isSpaces_nil hwritten Json.isSpaces_nil
  rw [hwrite]
  apply hread
  simpa using hdocument

theorem shuffled_standard_read :
    read (String.ofList (Json.writeObject
      [("user_data_disk", Json.writeString "nimbus"), ("note", ['n', 'u', 'l', 'l']),
        ("limactl", Json.writeString "limactl"), ("instance", Json.writeString "nimbus")])) =
      .ok standard := by
  apply (read_written standard).2
  rw [← List.append_nil (Json.writeObject _), ← List.nil_append (Json.writeObject _)]
  refine .spaced Json.isSpaces_nil (.object (Json.isObject_writeObject _) ?_ (.inr ⟨rfl, ?_⟩))
    Json.isSpaces_nil
  · simp only [List.map_cons, List.map_nil, List.forall_mem_cons]
    exact ⟨.disk rfl (Json.isLiteral_writeString _),
      .other (by decide) (.word (by decide)), .tool rfl (Json.isLiteral_writeString _),
      .name rfl (Json.isLiteral_writeString _), by simp⟩
  · decide

end Written

end VmLifecycle.Config
