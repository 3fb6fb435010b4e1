import VmLifecycle.Proofs.Instance
import VmLifecycle.Proofs.Run.Calls
import VmLifecycle.Proofs.Text.Utf8

namespace VmLifecycle

/-- The instance that a run of the tool is about. Runs about disks name none. -/
def Call.namedInstance? (call : Call) : Option String :=
  if call.args.head? = some "disk" then none else call.args.getLast?

theorem Stop.Order.namedInstance {config : Config} {isForced : Bool} {order : Order}
    {call : Call} {named : String} (hargs : call.args = order.args config isForced)
    (hnamed : call.namedInstance? = some named) : named = config.instanceName.text := by
  rw [Call.namedInstance?, hargs] at hnamed
  cases order with
  | probe => simpa [args, eq_comm] using hnamed
  | listing => simp [args] at hnamed
  | unlock => simp [args] at hnamed
  | stop => cases isForced <;> simpa [args, eq_comm] using hnamed

namespace Config

section Setting

variable {lookup : String → Option String} {environment : String → Option Bytes} {value : Bytes}
  {name text : String}

theorem setting?_eq_some_iff :
    setting? lookup name = some text ↔ lookup name = some text ∧ text ≠ "" := by
  simp [setting?, Option.filter_eq_some_iff]

theorem setting?_eq_none_iff :
    setting? lookup name = none ↔ lookup name = none ∨ lookup name = some "" := by
  cases hvalue : lookup name with
  | none => simp [setting?, hvalue]
  | some value => simp [setting?, hvalue]

theorem setting?_of_text (hset : environment name = some value)
    (htext : Utf8.encode text = value) (hvalue : value ≠ []) :
    setting? (textLookup environment) name = some text := by
  have hdecode : Utf8.decode? value = some text := Utf8.decode?_eq_some_iff.mpr htext
  have hlookup : textLookup environment name = some text := by
    rw [textLookup, hset, Option.bind_some, hdecode]
  have hfilled : text ≠ "" := by
    rintro rfl
    exact hvalue htext.symm
  exact setting?_eq_some_iff.mpr ⟨hlookup, hfilled⟩

theorem textLookup_of_not_text (hset : environment name = some value)
    (hnot : ∀ text, Utf8.encode text ≠ value) : textLookup environment name = none := by
  rw [textLookup, hset, Option.bind_some, Option.eq_none_iff_forall_ne_some]
  intro text hdecode
  exact hnot text (Utf8.decode?_eq_some_iff.mp hdecode)

end Setting

def without (environment : String → Option Bytes) (name : String) : String → Option Bytes :=
  fun other => if other = name then none else environment other

theorem textLookup_without {environment : String → Option Bytes} {name : String}
    (hunread : textLookup environment name = none) :
    textLookup (without environment name) = textLookup environment := by
  funext other
  by_cases hsame : other = name
  · subst hsame
    rw [hunread]
    simp [textLookup, without]
  · simp [textLookup, without, hsame]

theorem ofLookup_of_instance {lookup : String → Option String} {name : InstanceName}
    (hset : setting? lookup instanceVariable = some name.text) :
    ∃ config, ofLookup lookup = .ok config ∧ config.instanceName = name := by
  have hinstance : lookupInstance lookup = .ok name := by
    rw [lookupInstance, hset]
    exact name.parse_text
  exact ⟨_, by rw [ofLookup, hinstance], rfl⟩

theorem ofLookup_of_fault {lookup : String → Option String} {text : String} {fault : NameFault}
    (hset : setting? lookup instanceVariable = some text)
    (hfault : InstanceName.parse text = .error fault) : ofLookup lookup = .error fault := by
  have hinstance : lookupInstance lookup = .error fault := by
    rw [lookupInstance, hset]
    exact hfault
  rw [ofLookup, hinstance]

theorem ofLookup_of_not_name {lookup : String → Option String} {text : String}
    (hset : setting? lookup instanceVariable = some text)
    (hnot : ∀ name : InstanceName, name.text ≠ text) :
    ∃ fault, ofLookup lookup = .error fault := by
  obtain ⟨fault, hfault⟩ := InstanceName.parse_of_not_name hnot
  exact ⟨fault, ofLookup_of_fault hset hfault⟩

/-- An instance variable that holds the bytes of a name decides the instance of the configuration
and of every run of the tool; one that holds another text is refused as invalid, and the tool is
not run. Bytes that are no text at all are passed over as if the variable were not set. -/
theorem instance_variable_decides {environment : String → Option Bytes} {value : Bytes}
    (hset : environment instanceVariable = some value) (hvalue : value ≠ []) :
    (∀ name : InstanceName, Utf8.encode name.text = value →
      (∃ config, (load (textLookup environment)).1 = .ok config ∧
        config.instanceName = name) ∧
      ∀ arguments host time, ∀ call ∈ (run arguments environment host time).calls,
        ∀ named, call.namedInstance? = some named → Utf8.encode named = value) ∧
    (∀ text, Utf8.encode text = value → (∀ name : InstanceName, name.text ≠ text) →
      (∃ message, (load (textLookup environment)).1 = .error (.invalidConfig message)) ∧
      ∀ arguments host time, (run arguments environment host time).calls = []) ∧
    ((∀ text, Utf8.encode text ≠ value) →
      load (textLookup environment) =
        load (textLookup (without environment instanceVariable))) := by
  refine ⟨?_, ?_, ?_⟩
  · intro name hname
    obtain ⟨config, hconfig, hsame⟩ :=
      ofLookup_of_instance (setting?_of_text hset hname hvalue)
    refine ⟨⟨config, by rw [load, hconfig], hsame⟩, ?_⟩
    intro arguments host time call hcall named hnamed
    obtain ⟨isForced, order, hargs⟩ := exists_order_of_run_call hconfig hcall
    rw [order.namedInstance hargs hnamed, hsame, hname]
  · intro text htext hnot
    obtain ⟨fault, hfault⟩ :=
      ofLookup_of_not_name (setting?_of_text hset htext hvalue) hnot
    refine ⟨⟨fault.message, by rw [load, hfault]; rfl⟩, ?_⟩
    intro arguments host time
    exact run_calls_of_fault hfault
  · intro hnot
    rw [textLookup_without (textLookup_of_not_text hset hnot)]

theorem umlaut_instance_refused :
    instanceOnly (Utf8.encode "tür") instanceVariable = some (Utf8.encode "tür") ∧
      Utf8.encode "tür" ≠ [] ∧
      (∃ message, (load (textLookup (instanceOnly (Utf8.encode "tür")))).1 =
        .error (.invalidConfig message)) ∧
      ∀ arguments host time,
        (run arguments (instanceOnly (Utf8.encode "tür")) host time).calls = [] := by
  have hset : instanceOnly (Utf8.encode "tür") instanceVariable =
      some (Utf8.encode "tür") := rfl
  have hvalue : Utf8.encode "tür" ≠ [] := by decide +kernel
  have hnot : ∀ name : InstanceName, name.text ≠ "tür" := by
    intro name hname
    have hfaultless := name.faultless
    rw [hname] at hfaultless
    revert hfaultless
    decide +kernel
  exact ⟨hset, hvalue, (instance_variable_decides hset hvalue).2.1 "tür" rfl hnot⟩

/-- A byte that starts no character is neither a name nor refused. -/
theorem unreadable_instance_passed_over :
    ¬ ∀ (environment : String → Option Bytes) (value : Bytes),
      environment instanceVariable = some value → value ≠ [] →
      (∀ name : InstanceName, Utf8.encode name.text ≠ value) →
      (∃ message, (load (textLookup environment)).1 = .error (.invalidConfig message)) ∧
        ∀ arguments host time, (run arguments environment host time).calls = [] := by
  intro hrefused
  have hunread : Utf8.decode? [0xff] = none := by decide +kernel
  have hnot : ∀ name : InstanceName, Utf8.encode name.text ≠ [0xff] := by
    intro name hname
    rw [← Utf8.decode?_eq_some_iff, hunread] at hname
    cases hname
  obtain ⟨⟨message, hload⟩, -⟩ :=
    hrefused (instanceOnly [0xff]) [0xff] rfl (List.cons_ne_nil _ _) hnot
  have hunset : textLookup (instanceOnly [0xff]) = fun _ => none := by
    funext name
    by_cases hname : name = instanceVariable
    · simp [textLookup, instanceOnly, hname, hunread]
    · simp [textLookup, instanceOnly, hname]
  rw [hunset] at hload
  cases hload

end Config

end VmLifecycle
