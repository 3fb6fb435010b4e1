import VmLifecycle.Gateway

namespace VmLifecycle

/-!
A scripted gateway runs nothing. It holds expected commands in order, each with its response. A
command that is built takes the first expectation if the arguments are the same, and gives the
response once, when it is run the way the response is meant for.
-/

structure Expectation where
  args : List String
  response : Response

namespace Script

structure Command where
  args : List String
  response : Option Response
  isSpent : Bool := false

def Command.pending? (command : Command) : Option Response :=
  if command.isSpent then none else command.response

structure State where
  expected : List Expectation := []
  commands : List Command := []

namespace State

def empty : State := {}

def expect (state : State) (args : List String) (response : Response) : State :=
  { state with expected := state.expected ++ [⟨args, response⟩] }

def invocations (state : State) : List (List String) :=
  state.commands.map (·.args)

def callCount (state : State) : Nat :=
  state.commands.length

def isSatisfied (state : State) : Bool :=
  state.expected.isEmpty

/-- Takes the first expectation if it is for these arguments. -/
def take (state : State) (args : List String) : Option Response × List Expectation :=
  match state.expected with
  | [] => (none, [])
  | first :: rest => if first.args = args then (some first.response, rest) else (none, first :: rest)

end State

def createdRecord (args : List String) (isMatched : Bool) : Record where
  level := .debug
  message := "Mock: Created command"
  fields := [("args", quotedList args), ("matched", toString isMatched)]

def build (args : List String) (state : State) : Handle × List Record × State :=
  let (response, expected) := state.take args
  (state.commands.length, [createdRecord args response.isSome],
    { expected, commands := state.commands ++ [{ args, response }] })

def unexpected (args : List String) (what : String) : Error :=
  .commandFailed (" ".intercalate args) ("mock: unexpected " ++ what)

def State.spend (state : State) (handle : Handle) : State :=
  { state with
    commands := state.commands.modify handle fun command => { command with isSpent := true } }

def State.command (state : State) (handle : Handle) : Command :=
  state.commands[handle]?.getD { args := [], response := none }

def output (handle : Handle) (state : State) : Except Error Bytes × State :=
  let command := state.command handle
  match command.pending? with
  | some (.output result) => (result, state.spend handle)
  | some (.combined _) => (.error (unexpected command.args "call to output()"), state)
  | none => (.error (unexpected command.args "command"), state)

def combinedOutput (handle : Handle) (state : State) : CombinedOutput × State :=
  let command := state.command handle
  match command.pending? with
  | some (.combined result) => (result, state.spend handle)
  | some (.output _) =>
      (.failure [] (unexpected command.args "call to combined_output()"), state)
  | none => (.failure [] (unexpected command.args "command"), state)

def gateway : Gateway State where
  build := build
  output handle state := ((output handle state).1, [], (output handle state).2)
  combinedOutput handle state :=
    ((combinedOutput handle state).1, [], (combinedOutput handle state).2)

end Script

end VmLifecycle
