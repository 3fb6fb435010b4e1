import VmLifecycle.Gateway

namespace VmLifecycle

/-!
Control of a machine leaves a trace: its own log records, the commands it had built and run, and
the requests to detach the data disk, each with what went on inside it.
-/

inductive Event where
  | logged (record : Record)
  | ran (args : List String) (records : List Record) (response : Response)
  | detached (inside : List Event) (result : Except Error Unit)

namespace Event

mutual

/-- The log records of an event, those from inside included. -/
def records : Event → List Record
  | logged record => [record]
  | ran _ records _ => records
  | detached inside _ => recordsOf inside

def recordsOf : List Event → List Record
  | [] => []
  | event :: rest => records event ++ recordsOf rest

end

mutual

def commands : Event → List (List String × Response)
  | logged _ => []
  | ran args _ response => [(args, response)]
  | detached inside _ => commandsOf inside

def commandsOf : List Event → List (List String × Response)
  | [] => []
  | event :: rest => commands event ++ commandsOf rest

end

end Event

structure Outcome (σ α : Type) where
  result : Except Error α
  trace : List Event
  state : σ

def Control (σ α : Type) : Type :=
  σ → Outcome σ α

namespace Control

def pure (value : α) : Control σ α := fun state =>
  ⟨.ok value, [], state⟩

def fail (error : Error) : Control σ α := fun state =>
  ⟨.error error, [], state⟩

def bind (control : Control σ α) (next : α → Control σ β) : Control σ β := fun state =>
  let first := control state
  match first.result with
  | .error error => ⟨.error error, first.trace, first.state⟩
  | .ok value =>
      let second := next value first.state
      ⟨second.result, first.trace ++ second.trace, second.state⟩

instance : Monad (Control σ) where
  pure := pure
  bind := bind

@[simp] theorem pure_apply (value : α) (state : σ) :
    (Pure.pure value : Control σ α) state = ⟨.ok value, [], state⟩ := rfl

@[simp] theorem fail_apply (error : Error) (state : σ) :
    (fail error : Control σ α) state = ⟨.error error, [], state⟩ := rfl

theorem bind_apply (control : Control σ α) (next : α → Control σ β) (state : σ) :
    (control >>= next) state =
      match (control state).result with
      | .error error => ⟨.error error, (control state).trace, (control state).state⟩
      | .ok value =>
          ⟨(next value (control state).state).result,
            (control state).trace ++ (next value (control state).state).trace,
            (next value (control state).state).state⟩ := rfl

def log (record : Record) : Control σ Unit := fun state =>
  ⟨.ok (), [.logged record], state⟩

@[simp] theorem log_apply (record : Record) (state : σ) :
    (log record : Control σ Unit) state = ⟨.ok (), [.logged record], state⟩ := rfl

def output (gateway : Gateway σ) (args : List String) : Control σ Bytes := fun state =>
  let (handle, built, state) := gateway.build args state
  let (result, logged, state) := gateway.output handle state
  ⟨result, [.ran args (built ++ logged) (.output result)], state⟩

/-- Builds a command and runs it for both its streams; its failure is part of what it gives. -/
def combinedOutput (gateway : Gateway σ) (args : List String) : Control σ CombinedOutput :=
  fun state =>
    let (handle, built, state) := gateway.build args state
    let (result, logged, state) := gateway.combinedOutput handle state
    ⟨.ok result, [.ran args (built ++ logged) (.combined result)], state⟩

def within (control : Control σ α) (get : τ → σ) (set : σ → τ → τ) : Control τ α := fun state =>
  let inner := control (get state)
  ⟨inner.result, inner.trace, set inner.state state⟩

end Control

abbrev DiskManager (σ : Type) := Control σ Unit

def DiskManager.request (manager : DiskManager σ) : Control σ Unit := fun state =>
  let inner := manager state
  ⟨inner.result, [.detached inner.trace inner.result], inner.state⟩

end VmLifecycle
