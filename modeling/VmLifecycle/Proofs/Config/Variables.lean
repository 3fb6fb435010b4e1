import Mathlib.Logic.Function.Basic
import VmLifecycle.Proofs.Config.Instance

namespace VmLifecycle.Config

/-! Each part of a configuration is told by a variable of its own, and loading looks at no other. -/

inductive Setting where
  | instanceName
  | tool
  | toolHome
  | dataDisk
  deriving DecidableEq

def Setting.variableName : Setting → String
  | instanceName => "NIMBUS_INSTANCE"
  | tool => "NIMBUS_LIMACTL"
  | toolHome => "LIMA_HOME"
  | dataDisk => "NIMBUS_USER_DATA_DISK"

def spelling (config : Config) : Setting → Option String
  | .instanceName => some config.instanceName.text
  | .tool => some config.tool.text
  | .toolHome => config.toolHome.map (·.text)
  | .dataDisk => some config.dataDisk

/-- A part comes from its variable when that is set to a text that is not empty; otherwise it is as
in the standard. -/
inductive Resolves (value? standard? : Option String) : Option String → Prop
  | set (hset : value? = some text) (hfilled : text ≠ "") :
      Resolves value? standard? (some text)
  | unset (hunset : value? = none ∨ value? = some "") : Resolves value? standard? standard?

inductive Loads (lookup : String → Option String) : Except Error Config × List Record → Prop
  | refused (hset : lookup "NIMBUS_INSTANCE" = some text) (hfilled : text ≠ "")
      (hfault : InstanceName.parse text = .error fault) :
      Loads lookup (.error (.invalidConfig fault.message), [])
  | loaded (hparts : ∀ setting : Setting,
        Resolves (lookup setting.variableName) (standard.spelling setting)
          (config.spelling setting)) :
      Loads lookup
        (.ok config,
          [{ level := .debug
             message := "Loaded VM configuration"
             fields := [("instance", config.instanceName.text),
               ("limactl", config.tool.text)] }])

theorem eq_of_spelling {config other : Config}
    (hsame : ∀ setting, config.spelling setting = other.spelling setting) : config = other := by
  obtain ⟨⟨name, hname⟩, ⟨tool⟩, home, disk⟩ := config
  obtain ⟨⟨otherName, hother⟩, ⟨otherTool⟩, otherHome, otherDisk⟩ := other
  obtain rfl : name = otherName := Option.some.inj (hsame .instanceName)
  obtain rfl : tool = otherTool := Option.some.inj (hsame .tool)
  obtain rfl : disk = otherDisk := Option.some.inj (hsame .dataDisk)
  have htext : Function.Injective PathText.text := by
    rintro ⟨first⟩ ⟨second⟩ rfl
    rfl
  obtain rfl : home = otherHome := Option.map_injective htext (hsame .toolHome)
  rfl

section Lookup

variable {lookup other : String → Option String} {name : String} {config : Config}

theorem resolves_iff {standard? part? : Option String} :
    Resolves (lookup name) standard? part? ↔ part? = (setting? lookup name).or standard? := by
  constructor
  · intro resolves
    cases resolves with
    | set hset hfilled => rw [setting?_eq_some_iff.mpr ⟨hset, hfilled⟩, Option.some_or]
    | unset hunset => rw [setting?_eq_none_iff.mpr hunset, Option.none_or]
  · rintro rfl
    cases hsetting : setting? lookup name with
    | none => exact .unset (setting?_eq_none_iff.mp hsetting)
    | some value =>
        obtain ⟨hset, hfilled⟩ := setting?_eq_some_iff.mp hsetting
        exact .set hset hfilled

theorem setting?_congr
    (hagree : ∀ text, text ≠ "" → (lookup name = some text ↔ other name = some text)) :
    setting? lookup name = setting? other name := by
  apply Option.ext
  intro text
  rw [setting?_eq_some_iff, setting?_eq_some_iff]
  exact and_congr_left (hagree text)

theorem lookupInstance_eq_ok_iff {found : InstanceName} :
    lookupInstance lookup = .ok found ↔
      some found.text =
        (setting? lookup instanceVariable).or (some standard.instanceName.text) := by
  rw [lookupInstance]
  cases setting? lookup instanceVariable with
  | none =>
      constructor
      · rintro ⟨⟩
        rfl
      · intro hsame
        rw [InstanceName.eq_of_text (Option.some.inj hsame)]
  | some value =>
      constructor
      · intro hparse
        rw [InstanceName.text_of_parse hparse, Option.some_or]
      · intro hsame
        obtain rfl : found.text = value := Option.some.inj hsame
        exact found.parse_text

theorem spelling_of_ofLookup (hconfig : ofLookup lookup = .ok config) (setting : Setting) :
    config.spelling setting =
      (setting? lookup setting.variableName).or (standard.spelling setting) := by
  rw [ofLookup] at hconfig
  cases hinstance : lookupInstance lookup with
  | error fault =>
      rw [hinstance] at hconfig
      cases hconfig
  | ok found =>
      rw [hinstance] at hconfig
      cases hconfig
      cases setting with
      | instanceName => exact lookupInstance_eq_ok_iff.mp hinstance
      | tool =>
          show some _ = (setting? lookup toolVariable).or (some _)
          cases setting? lookup toolVariable <;> rfl
      | toolHome =>
          show Option.map _ _ = (setting? lookup toolHomeVariable).or none
          cases setting? lookup toolHomeVariable <;> rfl
      | dataDisk =>
          show some _ = (setting? lookup dataDiskVariable).or (some _)
          cases setting? lookup dataDiskVariable <;> rfl

theorem ofLookup_eq_ok_iff :
    ofLookup lookup = .ok config ↔
      ∀ setting, config.spelling setting =
        (setting? lookup setting.variableName).or (standard.spelling setting) := by
  refine ⟨spelling_of_ofLookup, fun hparts => ?_⟩
  have hinstance : lookupInstance lookup = .ok config.instanceName :=
    lookupInstance_eq_ok_iff.mpr (hparts .instanceName)
  obtain ⟨found, hfound⟩ : ∃ found, ofLookup lookup = .ok found :=
    ⟨_, by rw [ofLookup, hinstance]⟩
  have hsame : found = config := by
    apply eq_of_spelling
    intro setting
    rw [spelling_of_ofLookup hfound setting, hparts setting]
  rw [hfound, hsame]

theorem ofLookup_eq_error_iff {fault : NameFault} :
    ofLookup lookup = .error fault ↔
      ∃ text, setting? lookup instanceVariable = some text ∧
        InstanceName.parse text = .error fault := by
  constructor
  · intro hfault
    rw [ofLookup, lookupInstance] at hfault
    cases hsetting : setting? lookup instanceVariable with
    | none =>
        rw [hsetting] at hfault
        cases hfault
    | some text =>
        rw [hsetting] at hfault
        cases hparse : InstanceName.parse text with
        | ok name =>
            simp only [hparse] at hfault
            cases hfault
        | error found =>
            simp only [hparse] at hfault
            cases hfault
            exact ⟨text, rfl, hparse⟩
  · rintro ⟨text, hsetting, hparse⟩
    exact ofLookup_of_fault hsetting hparse

theorem load_eq_iff {outcome : Except Error Config × List Record} :
    load lookup = outcome ↔ Loads lookup outcome := by
  constructor
  · rintro rfl
    rw [load]
    cases hconfig : ofLookup lookup with
    | error fault =>
        obtain ⟨text, hsetting, hfault⟩ := ofLookup_eq_error_iff.mp hconfig
        obtain ⟨hset, hfilled⟩ := setting?_eq_some_iff.mp hsetting
        exact .refused hset hfilled hfault
    | ok config =>
        exact .loaded fun setting => resolves_iff.mpr (spelling_of_ofLookup hconfig setting)
  · intro loads
    cases loads with
    | refused hset hfilled hfault =>
        rw [load, ofLookup_of_fault (setting?_eq_some_iff.mpr ⟨hset, hfilled⟩) hfault]
        rfl
    | loaded hparts =>
        rw [load, ofLookup_eq_ok_iff.mpr fun setting => resolves_iff.mp (hparts setting)]
        rfl

theorem load_eq_ok_iff : (load lookup).1 = .ok config ↔ ofLookup lookup = .ok config := by
  rw [load]
  cases ofLookup lookup with
  | error fault => simp
  | ok found => rw [Except.ok.injEq, Except.ok.injEq]

theorem load_fails_iff :
    (∃ error, (load lookup).1 = .error error) ↔
      ∃ text, lookup "NIMBUS_INSTANCE" = some text ∧ text ≠ "" ∧ ¬ InstanceName.IsName text := by
  constructor
  · rintro ⟨error, herror⟩
    have loads : Loads lookup (load lookup) := load_eq_iff.mp rfl
    generalize load lookup = outcome at loads herror
    cases loads with
    | @refused text fault hset hfilled hfault =>
        refine ⟨text, hset, hfilled, fun hname => ?_⟩
        obtain ⟨name, -, hparse⟩ := InstanceName.parse_of_isName hname
        rw [hfault] at hparse
        cases hparse
    | loaded hparts => cases herror
  · rintro ⟨text, hset, hfilled, hnot⟩
    obtain ⟨fault, hfault⟩ := InstanceName.parse_of_not_isName hnot
    exact ⟨_, congrArg Prod.fst (load_eq_iff.mpr (.refused hset hfilled hfault))⟩

theorem load_congr
    (hagree : ∀ (setting : Setting) (text : String), text ≠ "" →
      (lookup setting.variableName = some text ↔ other setting.variableName = some text)) :
    load lookup = load other := by
  have hinstance : setting? lookup instanceVariable = setting? other instanceVariable :=
    setting?_congr (hagree .instanceName)
  have htool : setting? lookup toolVariable = setting? other toolVariable :=
    setting?_congr (hagree .tool)
  have hhome : setting? lookup toolHomeVariable = setting? other toolHomeVariable :=
    setting?_congr (hagree .toolHome)
  have hdisk : setting? lookup dataDiskVariable = setting? other dataDiskVariable :=
    setting?_congr (hagree .dataDisk)
  rw [load, load, ofLookup, ofLookup, lookupInstance, lookupInstance, hinstance, htool, hhome,
    hdisk]

theorem Setting.variableName_injective : Function.Injective variableName := by
  intro setting other hsame
  cases setting <;> cases other <;> simp_all [variableName]

theorem spelling_of_update {setting kept : Setting} {value : Option String} {changed : Config}
    (hload : (load lookup).1 = .ok config)
    (hchanged : (load (Function.update lookup setting.variableName value)).1 = .ok changed)
    (hkept : kept ≠ setting) : changed.spelling kept = config.spelling kept := by
  have hname : kept.variableName ≠ setting.variableName :=
    Setting.variableName_injective.ne hkept
  rw [spelling_of_ofLookup (load_eq_ok_iff.mp hload),
    spelling_of_ofLookup (load_eq_ok_iff.mp hchanged), setting?, setting?,
    Function.update_of_ne hname]

theorem load_of_spelling (htool : config.tool.text ≠ "") (hdisk : config.dataDisk ≠ "")
    (hhome : ∀ home, config.toolHome = some home → home.text ≠ "")
    (hspelled : ∀ setting : Setting, lookup setting.variableName = config.spelling setting) :
    (load lookup).1 = .ok config := by
  have hname : config.instanceName.text ≠ "" := config.instanceName.isName_text.ne_empty
  have hparts : ∀ setting : Setting, Resolves (lookup setting.variableName)
      (standard.spelling setting) (config.spelling setting) := by
    intro setting
    cases setting with
    | instanceName => exact .set (hspelled .instanceName) hname
    | tool => exact .set (hspelled .tool) htool
    | dataDisk => exact .set (hspelled .dataDisk) hdisk
    | toolHome =>
        rw [hspelled]
        show Resolves (config.toolHome.map (·.text)) none (config.toolHome.map (·.text))
        cases hset : config.toolHome with
        | none => exact .unset (.inl rfl)
        | some home => exact .set rfl (hhome home hset)
  rw [load_eq_iff.mpr (.loaded hparts)]

end Lookup

/-- Loading fails on an instance variable that is no name, whatever else is set, and leaves no
record then. Otherwise every part comes from its own variable or the standard, and one record tells
what was loaded. No other variable counts, an empty variable is as good as none, and a variable
changes its own part alone. So a configuration without empty parts is loaded from the variables
that spell it out. -/
theorem load_follows_variables :
    (∀ lookup outcome, load lookup = outcome ↔ Loads lookup outcome) ∧
    (∀ lookup, (∃ error, (load lookup).1 = .error error) ↔
      ∃ text, lookup "NIMBUS_INSTANCE" = some text ∧ text ≠ "" ∧ ¬ InstanceName.IsName text) ∧
    (∀ lookup other : String → Option String,
      (∀ (setting : Setting) (text : String), text ≠ "" →
        (lookup setting.variableName = some text ↔ other setting.variableName = some text)) →
      load lookup = load other) ∧
    (∀ (lookup : String → Option String) (setting : Setting) (value : Option String)
        (config changed : Config),
      (load lookup).1 = .ok config →
      (load (Function.update lookup setting.variableName value)).1 = .ok changed →
      ∀ kept, kept ≠ setting → changed.spelling kept = config.spelling kept) ∧
    ∀ (config : Config) (lookup : String → Option String),
      config.tool.text ≠ "" → config.dataDisk ≠ "" →
      (∀ home, config.toolHome = some home → home.text ≠ "") →
      (∀ setting : Setting, lookup setting.variableName = config.spelling setting) →
      (load lookup).1 = .ok config := by
  refine ⟨fun _ _ => load_eq_iff, fun _ => load_fails_iff, fun _ _ => load_congr, ?_, ?_⟩
  · intro lookup setting value config changed hload hchanged kept hkept
    exact spelling_of_update hload hchanged hkept
  · intro config lookup htool hdisk hhome hspelled
    exact load_of_spelling htool hdisk hhome hspelled

theorem spelled_settings_loaded :
    let lookup : String → Option String := fun name =>
      [("PATH", "/bin"), ("NIMBUS_INSTANCE", "vm-1.2"), ("NIMBUS_LIMACTL", "/opt/limactl"),
        ("NIMBUS_USER_DATA_DISK", "data")].lookup name
    let config : Config :=
      { instanceName := ⟨"vm-1.2", by decide +kernel⟩, tool := ⟨"/opt/limactl"⟩, toolHome := none
        dataDisk := "data" }
    (∀ setting : Setting, lookup setting.variableName = config.spelling setting) ∧
      (load lookup).1 = .ok config := by
  intro lookup config
  have hspelled : ∀ setting : Setting, lookup setting.variableName = config.spelling setting := by
    intro setting
    cases setting <;> rfl
  exact ⟨hspelled, load_follows_variables.2.2.2.2 config lookup (by decide) (by decide)
    (by intro home hhome; cases hhome) hspelled⟩

end VmLifecycle.Config
