import VmLifecycle.Proofs.Control.Trace
import VmLifecycle.Proofs.Control.Uniform

namespace VmLifecycle

/-!
Back ends that keep a book of all that they are asked and all that they give. Control over them does
what it does over the plain ones, and the book holds what its trace tells.
-/

/-- An entry of the book: a command that was built, what running a command gave, or what a request
to detach the disk returned. -/
inductive Deed where
  | built (handle : Handle) (args : List String)
  | gave (handle : Handle) (response : Response)
  | detached (result : Except Error Unit)

namespace Deed

@[simp] def lists : List Deed → List (List String)
  | [] => []
  | built _ args :: rest => args :: lists rest
  | gave _ _ :: rest => lists rest
  | detached _ :: rest => lists rest

@[simp] theorem lists_append (first second : List Deed) :
    lists (first ++ second) = lists first ++ lists second := by
  induction first with
  | nil => rfl
  | cons deed rest ih => cases deed <;> simp [ih]

end Deed

def Gateway.recorded (gateway : Gateway σ) : Gateway (σ × List Deed) where
  build args state :=
    let (handle, records, inner) := gateway.build args state.1
    (handle, records, inner, state.2 ++ [.built handle args])
  output handle state :=
    let (result, records, inner) := gateway.output handle state.1
    (result, records, inner, state.2 ++ [.gave handle (.output result)])
  combinedOutput handle state :=
    let (result, records, inner) := gateway.combinedOutput handle state.1
    (result, records, inner, state.2 ++ [.gave handle (.combined result)])

/-- The book holds what each request returned; the commands of the manager are its own affair. -/
def DiskManager.recorded (disk : DiskManager σ) : DiskManager (σ × List Deed) := fun state =>
  let inner := disk state.1
  ⟨inner.result, inner.trace, (inner.state, state.2 ++ [.detached inner.result])⟩

/-- Commands as the book holds them: each was built, and what it gave is what its own handle
gave. -/
inductive Ran : List (List String × Response) → List Deed → Prop
  | nil : Ran [] []
  | cons (more : Ran commands deeds) :
      Ran ((args, response) :: commands) (.built handle args :: .gave handle response :: deeds)

theorem Ran.append (first : Ran commands deeds) (second : Ran others more) :
    Ran (commands ++ others) (deeds ++ more) := by
  induction first with
  | nil => exact second
  | cons rest ih => exact .cons ih

theorem Ran.lists_eq (ran : Ran commands deeds) : Deed.lists deeds = commands.map (·.1) := by
  induction ran with
  | nil => rfl
  | cons more ih => simp [ih]

/-- A trace as the book holds it, where `ofRequest` says what it holds of a request. -/
inductive Kept (ofRequest : List Event → Except Error Unit → List Deed → Prop) :
    List Event → List Deed → Prop
  | nil : Kept ofRequest [] []
  | logged (more : Kept ofRequest trace deeds) : Kept ofRequest (.logged record :: trace) deeds
  | ran (more : Kept ofRequest trace deeds) :
      Kept ofRequest (.ran args records response :: trace)
        (.built handle args :: .gave handle response :: deeds)
  | detached (hrequest : ofRequest inside result asked) (more : Kept ofRequest trace deeds) :
      Kept ofRequest (.detached inside result :: trace) (asked ++ deeds)

/-- A request is held by what it returned. -/
abbrev Returned (_ : List Event) (result : Except Error Unit) (deeds : List Deed) : Prop :=
  deeds = [.detached result]

/-- A request is held by the commands that it led to. -/
abbrev Opened (inside : List Event) (_ : Except Error Unit) (deeds : List Deed) : Prop :=
  Ran (Event.commandsOf inside) deeds

section Kept

variable {ofRequest : List Event → Except Error Unit → List Deed → Prop}
  {trace more : List Event} {deeds others : List Deed}

theorem Kept.append (first : Kept ofRequest trace deeds) (second : Kept ofRequest more others) :
    Kept ofRequest (trace ++ more) (deeds ++ others) := by
  induction first with
  | nil => exact second
  | logged rest ih => exact .logged ih
  | ran rest ih => exact .ran ih
  | detached hrequest rest ih =>
      rw [List.append_assoc]
      exact .detached hrequest ih

theorem Kept.exists_of_append (kept : Kept ofRequest (trace ++ more) deeds) :
    ∃ first second, deeds = first ++ second ∧ Kept ofRequest trace first ∧
      Kept ofRequest more second := by
  induction trace generalizing deeds with
  | nil => exact ⟨[], deeds, rfl, .nil, kept⟩
  | cons event trace ih =>
      rw [List.cons_append] at kept
      cases kept with
      | logged rest =>
          obtain ⟨first, second, rfl, hfirst, hsecond⟩ := ih rest
          exact ⟨first, second, rfl, .logged hfirst, hsecond⟩
      | ran rest =>
          obtain ⟨first, second, rfl, hfirst, hsecond⟩ := ih rest
          exact ⟨_, second, rfl, .ran hfirst, hsecond⟩
      | detached hrequest rest =>
          obtain ⟨first, second, rfl, hfirst, hsecond⟩ := ih rest
          exact ⟨_, second, (List.append_assoc _ _ _).symm, .detached hrequest hfirst, hsecond⟩

theorem Kept.ran_commands (kept : Kept Opened trace deeds) :
    Ran (Event.commandsOf trace) deeds := by
  induction kept with
  | nil => exact .nil
  | logged rest ih => exact ih
  | ran rest ih => exact .cons ih
  | detached hrequest rest ih => exact hrequest.append ih

@[simp] theorem kept_nil_iff : Kept ofRequest [] deeds ↔ deeds = [] := by
  constructor
  · intro kept
    cases kept
    rfl
  · intro hnone
    subst hnone
    exact .nil

@[simp] theorem kept_logged_iff {record : Record} :
    Kept ofRequest (.logged record :: trace) deeds ↔ Kept ofRequest trace deeds := by
  constructor
  · intro kept
    cases kept with
    | logged rest => exact rest
  · exact .logged

@[simp] theorem kept_ran_iff {args : List String} {records : List Record} {response : Response} :
    Kept ofRequest (.ran args records response :: trace) deeds ↔
      ∃ handle rest, deeds = .built handle args :: .gave handle response :: rest ∧
        Kept ofRequest trace rest := by
  constructor
  · intro kept
    cases kept with
    | ran rest => exact ⟨_, _, rfl, rest⟩
  · intro hrest
    obtain ⟨handle, rest, rfl, kept⟩ := hrest
    exact .ran kept

@[simp] theorem kept_detached_iff {inside : List Event} {result : Except Error Unit} :
    Kept Returned (.detached inside result :: trace) deeds ↔
      ∃ rest, deeds = .detached result :: rest ∧ Kept Returned trace rest := by
  constructor
  · intro kept
    cases kept with
    | detached hrequest rest => exact ⟨_, by rw [hrequest]; rfl, rest⟩
  · intro hrest
    obtain ⟨rest, rfl, kept⟩ := hrest
    exact .detached rfl kept

theorem Kept.lists_eq (kept : Kept Returned trace deeds) :
    Deed.lists deeds = Event.ownArgs trace := by
  induction kept with
  | nil => rfl
  | logged rest ih => exact ih
  | ran rest ih => simp [ih]
  | detached hrequest rest ih => simp [hrequest, ih]

end Kept

/-- Control over keeping back ends ends as it does over the plain ones, and adds its trace to the
book. -/
def Recorded (ofRequest : List Event → Except Error Unit → List Deed → Prop)
    (control : Control σ α) (recorded : Control (σ × List Deed) α) : Prop :=
  ∀ state book, ∃ deeds, Kept ofRequest (control state).trace deeds ∧
    recorded (state, book) =
      ⟨(control state).result, (control state).trace, ((control state).state, book ++ deeds)⟩

section Rules

variable {ofRequest : List Event → Except Error Unit → List Deed → Prop}

namespace Recorded

theorem kept {control : Control σ α} {recorded : Control (σ × List Deed) α}
    (hrecorded : Recorded ofRequest control recorded) (state : σ) :
    Kept ofRequest (control state).trace (recorded (state, [])).state.2 := by
  obtain ⟨deeds, hdeeds, hends⟩ := hrecorded state []
  rw [hends]
  exact hdeeds

theorem pure (value : α) :
    Recorded ofRequest (Pure.pure value : Control σ α) (Pure.pure value) := by
  intro state book
  exact ⟨[], .nil, by simp⟩

theorem fail (error : Error) :
    Recorded ofRequest (Control.fail error : Control σ α) (Control.fail error) := by
  intro state book
  exact ⟨[], .nil, by simp⟩

theorem log (record : Record) :
    Recorded ofRequest (Control.log record : Control σ Unit) (Control.log record) := by
  intro state book
  exact ⟨[], .logged .nil, by simp⟩

theorem output (gateway : Gateway σ) (args : List String) :
    Recorded ofRequest (Control.output gateway args) (Control.output gateway.recorded args) := by
  intro state book
  let handle := (gateway.build args state).1
  refine ⟨[.built handle args, .gave handle (.output (gateway.outputOf args state).1)], .ran .nil, ?_⟩
  simp only [Control.output, handle, Gateway.outputOf, Gateway.recorded, List.append_assoc, List.cons_append,
    List.nil_append]

theorem combinedOutput (gateway : Gateway σ) (args : List String) :
    Recorded ofRequest (Control.combinedOutput gateway args)
      (Control.combinedOutput gateway.recorded args) := by
  intro state book
  let handle := (gateway.build args state).1
  refine ⟨[.built handle args, .gave handle (.combined (gateway.combinedOf args state).1)], .ran .nil, ?_⟩
  simp only [Control.combinedOutput, handle, Gateway.combinedOf, Gateway.recorded, List.append_assoc, List.cons_append,
    List.nil_append]

theorem bind {control : Control σ α} {recorded : Control (σ × List Deed) α}
    {next : α → Control σ β} {recordedNext : α → Control (σ × List Deed) β}
    (hfirst : Recorded ofRequest control recorded)
    (hnext : ∀ value, Recorded ofRequest (next value) (recordedNext value)) :
    Recorded ofRequest (control >>= next) (recorded >>= recordedNext) := by
  intro state book
  obtain ⟨deeds, hdeeds, hrecorded⟩ := hfirst state book
  cases hresult : (control state).result with
  | error error =>
      rw [hresult] at hrecorded
      refine ⟨deeds, ?_, ?_⟩
      · rw [Control.bind_of_error hresult]
        exact hdeeds
      · rw [Control.bind_of_error hresult, Control.bind_of_error (by rw [hrecorded]), hrecorded]
  | ok value =>
      rw [hresult] at hrecorded
      obtain ⟨more, hmore, hgoes⟩ := hnext value (control state).state (book ++ deeds)
      refine ⟨deeds ++ more, ?_, ?_⟩
      · rw [Control.bind_of_ok hresult]
        exact hdeeds.append hmore
      · rw [Control.bind_of_ok hresult, Control.bind_of_ok (by rw [hrecorded]), hrecorded, hgoes,
          List.append_assoc]

theorem request {disk : DiskManager σ} {recorded : DiskManager (σ × List Deed)}
    (hdisk : ∀ state book, ∃ asked, ofRequest (disk state).trace (disk state).result asked ∧
      recorded (state, book) =
        ⟨(disk state).result, (disk state).trace, ((disk state).state, book ++ asked)⟩) :
    Recorded ofRequest disk.request recorded.request := by
  intro state book
  obtain ⟨asked, hasked, hrecorded⟩ := hdisk state book
  refine ⟨asked ++ [], .detached hasked .nil, ?_⟩
  simp only [DiskManager.request, hrecorded, List.append_nil]

theorem request_recorded (disk : DiskManager σ) :
    Recorded Returned disk.request disk.recorded.request :=
  request fun _ _ => ⟨_, rfl, rfl⟩

end Recorded

theorem Probe.run_recorded (probe : Probe) (gateway : Gateway σ) :
    Recorded ofRequest (probe.run gateway) (probe.run gateway.recorded) := by
  refine .bind (.output gateway _) fun bytes => ?_
  exact .bind (.log _) fun _ => .pure _

theorem Stop.permit_recorded (name : InstanceName) (status : Status) :
    Recorded ofRequest (permit name status : Control σ Unit) (permit name status) := by
  cases status with
  | running => exact .pure ()
  | stopped => exact .fail _
  | nonexistent => exact .fail _
  | unrecognized => exact .fail _

theorem Stop.issue_recorded (gateway : Gateway σ) (args : List String) :
    Recorded ofRequest (issue gateway args) (issue gateway.recorded args) := by
  refine .bind (.combinedOutput gateway args) fun combined => ?_
  cases combined.status with
  | error error => exact .bind (.log _) fun _ => .fail error
  | ok _ => exact .pure ()

end Rules

theorem Stop.detachAndStop_recorded (stop : Stop) (gateway : Gateway σ) (disk : DiskManager σ)
    (isForced : Bool) :
    Recorded Returned (stop.detachAndStop gateway disk isForced)
      (stop.detachAndStop gateway.recorded disk.recorded isForced) := by
  refine .bind (.request_recorded disk) fun _ => ?_
  refine .bind (.log _) fun _ => ?_
  exact .bind (issue_recorded gateway _) fun _ => .log _

theorem Stop.run_recorded (stop : Stop) (gateway : Gateway σ) (disk : DiskManager σ)
    (isForced : Bool) :
    Recorded Returned (stop.run gateway disk isForced)
      (stop.run gateway.recorded disk.recorded isForced) := by
  cases isForced with
  | true => exact stop.detachAndStop_recorded gateway disk true
  | false =>
      refine .bind (Probe.run_recorded _ gateway) fun status => ?_
      refine .bind (permit_recorded _ status) fun _ => ?_
      exact stop.detachAndStop_recorded gateway disk false

/-- The lists in the trace of a uniform program are those that its gateway was given to build, and
the responses those that it gave. -/
theorem Uniform.recorded {program : Program α} (huniform : Uniform program)
    (gateway : Gateway σ) :
    Recorded Opened (program σ gateway) (program (σ × List Deed) gateway.recorded) := by
  induction huniform with
  | pure value => exact .pure value
  | fail error => exact .fail error
  | log record => exact .log record
  | output args => exact .output gateway args
  | combinedOutput args => exact .combinedOutput gateway args
  | bind hfirst hnext ihfirst ihnext => exact .bind ihfirst ihnext
  | request hdisk ih =>
      refine .request fun state book => ?_
      obtain ⟨deeds, hdeeds, hrecorded⟩ := ih state book
      exact ⟨deeds, hdeeds.ran_commands, hrecorded⟩

end VmLifecycle
