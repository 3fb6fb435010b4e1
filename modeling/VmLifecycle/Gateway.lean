import VmLifecycle.Error
import VmLifecycle.Log
import VmLifecycle.Text.Utf8

namespace VmLifecycle

structure CombinedOutput where
  output : Bytes
  status : Except Error Unit

def CombinedOutput.success (output : Bytes) : CombinedOutput :=
  ⟨output, .ok ()⟩

def CombinedOutput.failure (output : Bytes) (error : Error) : CombinedOutput :=
  ⟨output, .error error⟩

def CombinedOutput.text (combined : CombinedOutput) : String :=
  Utf8.decodeLossy combined.output

/-- What running a command gives: its standard output if it succeeds, or both its streams merged
whether it succeeds or not. -/
inductive Response where
  | output (result : Except Error Bytes)
  | combined (result : CombinedOutput)

/-- The number of a command among those a gateway has built. -/
abbrev Handle := Nat

/-!
A gateway builds commands from argument lists and runs them in one of two ways. It has a state of
its own, so that what a command gives may depend on all that happened before, and it may log.
-/

structure Gateway (σ : Type) where
  build : List String → σ → Handle × List Record × σ
  output : Handle → σ → Except Error Bytes × List Record × σ
  combinedOutput : Handle → σ → CombinedOutput × List Record × σ

def Gateway.within (gateway : Gateway σ) (get : τ → σ) (set : σ → τ → τ) : Gateway τ where
  build args state :=
    let (handle, records, inner) := gateway.build args (get state)
    (handle, records, set inner state)
  output handle state :=
    let (result, records, inner) := gateway.output handle (get state)
    (result, records, set inner state)
  combinedOutput handle state :=
    let (result, records, inner) := gateway.combinedOutput handle (get state)
    (result, records, set inner state)

end VmLifecycle
