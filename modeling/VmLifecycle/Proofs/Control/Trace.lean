import VmLifecycle.Control

namespace VmLifecycle

namespace Event

@[simp] def ownRecords : List Event → List Record
  | [] => []
  | logged record :: rest => record :: ownRecords rest
  | ran _ _ _ :: rest => ownRecords rest
  | detached _ _ :: rest => ownRecords rest

@[simp] def ownArgs : List Event → List (List String)
  | [] => []
  | logged _ :: rest => ownArgs rest
  | ran args _ _ :: rest => args :: ownArgs rest
  | detached _ _ :: rest => ownArgs rest

@[simp] theorem ownRecords_append (first second : List Event) :
    ownRecords (first ++ second) = ownRecords first ++ ownRecords second := by
  induction first with
  | nil => rfl
  | cons event rest ih => cases event <;> simp [ih]

@[simp] theorem ownArgs_append (first second : List Event) :
    ownArgs (first ++ second) = ownArgs first ++ ownArgs second := by
  induction first with
  | nil => rfl
  | cons event rest ih => cases event <;> simp [ih]

section

variable (record : Record) (args : List String) (records : List Record)
  (response : Response) (inside rest : List Event) (result : Except Error Unit)

@[simp] theorem commandsOf_nil : commandsOf [] = [] := rfl

@[simp] theorem commandsOf_logged :
    commandsOf (.logged record :: rest) = commandsOf rest := rfl

@[simp] theorem commandsOf_ran :
    commandsOf (.ran args records response :: rest) = (args, response) :: commandsOf rest := rfl

@[simp] theorem commandsOf_detached :
    commandsOf (.detached inside result :: rest) = commandsOf inside ++ commandsOf rest := rfl

@[simp] theorem recordsOf_nil : recordsOf [] = [] := rfl

@[simp] theorem recordsOf_logged :
    recordsOf (.logged record :: rest) = record :: recordsOf rest := rfl

@[simp] theorem recordsOf_ran :
    recordsOf (.ran args records response :: rest) = records ++ recordsOf rest := rfl

@[simp] theorem recordsOf_detached :
    recordsOf (.detached inside result :: rest) = recordsOf inside ++ recordsOf rest := rfl

end

@[simp] theorem commandsOf_append (first second : List Event) :
    commandsOf (first ++ second) = commandsOf first ++ commandsOf second := by
  induction first with
  | nil => rfl
  | cons event rest ih => cases event <;> simp [ih]

@[simp] theorem recordsOf_append (first second : List Event) :
    recordsOf (first ++ second) = recordsOf first ++ recordsOf second := by
  induction first with
  | nil => rfl
  | cons event rest ih => cases event <;> simp [ih]

end Event

namespace Gateway

def outputOf (gateway : Gateway σ) (args : List String) (state : σ) :
    Except Error Bytes × List Record × σ :=
  let (handle, built, state) := gateway.build args state
  let (result, logged, state) := gateway.output handle state
  (result, built ++ logged, state)

def combinedOf (gateway : Gateway σ) (args : List String) (state : σ) :
    CombinedOutput × List Record × σ :=
  let (handle, built, state) := gateway.build args state
  let (result, logged, state) := gateway.combinedOutput handle state
  (result, built ++ logged, state)

end Gateway

namespace Control

theorem output_apply (gateway : Gateway σ) (args : List String) (state : σ) :
    output gateway args state =
      ⟨(gateway.outputOf args state).1,
        [.ran args (gateway.outputOf args state).2.1
          (.output (gateway.outputOf args state).1)],
        (gateway.outputOf args state).2.2⟩ := rfl

theorem combinedOutput_apply (gateway : Gateway σ) (args : List String)
    (state : σ) :
    combinedOutput gateway args state =
      ⟨.ok (gateway.combinedOf args state).1,
        [.ran args (gateway.combinedOf args state).2.1
          (.combined (gateway.combinedOf args state).1)],
        (gateway.combinedOf args state).2.2⟩ := rfl

theorem bind_of_ok {control : Control σ α} {next : α → Control σ β} {state : σ}
    {value : α} (hresult : (control state).result = .ok value) :
    (control >>= next) state =
      ⟨(next value (control state).state).result,
        (control state).trace ++ (next value (control state).state).trace,
        (next value (control state).state).state⟩ := by
  rw [bind_apply, hresult]

theorem bind_of_error {control : Control σ α} {next : α → Control σ β}
    {state : σ} {error : Error}
    (hresult : (control state).result = .error error) :
    (control >>= next) state =
      ⟨.error error, (control state).trace, (control state).state⟩ := by
  rw [bind_apply, hresult]

end Control

end VmLifecycle
