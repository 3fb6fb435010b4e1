import VmLifecycle.Proofs.Script.State

namespace VmLifecycle

inductive Mode where
  | output
  | combined
  deriving DecidableEq

def Response.mode : Response → Mode
  | output _ => .output
  | combined _ => .combined

namespace Script

/-!
Whoever shares a script, and in whatever order commands are expected, built and run, no expectation
is lost: it is still pending, or one command took it, and that command gives it once.
-/

def refusal (args : List String) (what : String) : Mode → Response
  | .output =>
      .output (.error (.commandFailed (" ".intercalate args) ("mock: unexpected " ++ what)))
  | .combined =>
      .combined
        ⟨[], .error (.commandFailed (" ".intercalate args) ("mock: unexpected " ++ what))⟩

def callName : Mode → String
  | .output => "call to output()"
  | .combined => "call to combined_output()"

def State.call (state : State) (handle : Handle) : Mode → Response × State
  | .output => (.output (output handle state).1, (output handle state).2)
  | .combined => (.combined (combinedOutput handle state).1, (combinedOutput handle state).2)

inductive Entry where
  | expected (args : List String) (response : Response)
  | built (args : List String) (handle : Handle)
  | called (handle : Handle) (mode : Mode) (answer : Response)

namespace Entry

def expectation? : Entry → Option Expectation
  | expected args response => some ⟨args, response⟩
  | _ => none

def args? : Entry → Option (List String)
  | built args _ => some args
  | _ => none

def handle? : Entry → Option Handle
  | built _ handle => some handle
  | _ => none

def callOn? (handle : Handle) : Entry → Option (Mode × Response)
  | called other mode answer => if other = handle then some (mode, answer) else none
  | _ => none

end Entry

def callsOn (handle : Handle) (entries : List Entry) : List (Mode × Response) :=
  entries.filterMap (Entry.callOn? handle)

/-- What may have happened to a fresh script: every command that was built may be run any number of
times, in either way. -/
inductive History : List Entry → State → Prop
  | fresh : History [] .empty
  | expect (history : History entries state) (args : List String) (response : Response) :
      History (entries ++ [.expected args response]) (state.expect args response)
  | build (history : History entries state) (args : List String) :
      History (entries ++ [.built args (build args state).1]) (build args state).2.2
  | call (history : History entries state) (hbuilt : handle < state.callCount) (mode : Mode) :
      History (entries ++ [.called handle mode (state.call handle mode).1])
        (state.call handle mode).2

def Command.taken? (command : Command) : Option Expectation :=
  command.response.map fun response => ⟨command.args, response⟩

/-- How all calls on a command were answered, in order. Without a response every call is refused.
With one, calls are refused as made in the wrong way until the first in the right way, which gets
the response; behind that every call is refused. -/
inductive Answered : Command → List (Mode × Response) → Prop
  | untaken (args : List String)
      (hrefused : ∀ call ∈ calls, call.2 = refusal args "command" call.1) :
      Answered { args, response := none } calls
  | waiting (args : List String) (response : Response)
      (hwrong : ∀ call ∈ calls,
        call.1 ≠ response.mode ∧ call.2 = refusal args (callName call.1) call.1) :
      Answered { args, response := some response } calls
  | given (args : List String) (response : Response)
      (hwrong : ∀ call ∈ before,
        call.1 ≠ response.mode ∧ call.2 = refusal args (callName call.1) call.1)
      (hrefused : ∀ call ∈ after, call.2 = refusal args "command" call.1) :
      Answered { args, response := some response, isSpent := true }
        (before ++ (response.mode, response) :: after)

namespace Command

def answer (command : Command) (mode : Mode) : Response :=
  match command.pending? with
  | none => refusal command.args "command" mode
  | some response =>
      if response.mode = mode then response
      else refusal command.args (callName mode) mode

def afterCall (mode : Mode) (command : Command) : Command :=
  match command.pending? with
  | none => command
  | some response =>
      if response.mode = mode then { command with isSpent := true } else command

@[simp] theorem args_afterCall (mode : Mode) (command : Command) :
    (command.afterCall mode).args = command.args := by
  unfold afterCall
  split
  · rfl
  · split <;> rfl

@[simp] theorem taken?_afterCall (mode : Mode) (command : Command) :
    (command.afterCall mode).taken? = command.taken? := by
  unfold afterCall
  split
  · rfl
  · split <;> rfl

end Command

theorem Answered.next {command : Command} {calls : List (Mode × Response)}
    (answered : Answered command calls) (mode : Mode) :
    Answered (command.afterCall mode) (calls ++ [(mode, command.answer mode)]) := by
  cases answered with
  | untaken args hrefused =>
      apply Answered.untaken
      exact List.forall_mem_append.mpr ⟨hrefused, List.forall_mem_singleton.mpr rfl⟩
  | waiting args response hwrong =>
      have hpending : Command.pending? { args, response := some response } =
          some response := rfl
      by_cases hmode : response.mode = mode
      · subst hmode
        simp only [Command.afterCall, Command.answer, hpending, if_true]
        exact .given args response hwrong (List.forall_mem_nil _)
      · simp only [Command.afterCall, Command.answer, hpending, if_neg hmode]
        apply Answered.waiting
        exact List.forall_mem_append.mpr
          ⟨hwrong, List.forall_mem_singleton.mpr ⟨Ne.symm hmode, rfl⟩⟩
  | given args response hwrong hrefused =>
      rw [List.append_assoc, List.cons_append]
      apply Answered.given args response hwrong
      exact List.forall_mem_append.mpr ⟨hrefused, List.forall_mem_singleton.mpr rfl⟩

namespace State

section Call

variable {state : State} {handle : Handle} {command : Command} {response : Response}

theorem command_eq (hcommand : state.commands[handle]? = some command) :
    state.command handle = command := by
  rw [State.command, hcommand]
  rfl

theorem call_of_none (hcommand : state.commands[handle]? = some command)
    (hpending : command.pending? = none) (mode : Mode) :
    state.call handle mode = (refusal command.args "command" mode, state) := by
  cases mode with
  | output => simp only [call, output, command_eq hcommand, hpending]; rfl
  | combined => simp only [call, combinedOutput, command_eq hcommand, hpending]; rfl

theorem call_of_right_mode (hcommand : state.commands[handle]? = some command)
    (hpending : command.pending? = some response) :
    state.call handle response.mode = (response, state.spend handle) := by
  cases response with
  | output result => simp only [Response.mode, call, output, command_eq hcommand, hpending]
  | combined result =>
      simp only [Response.mode, call, combinedOutput, command_eq hcommand, hpending]

theorem call_of_wrong_mode (hcommand : state.commands[handle]? = some command)
    (hpending : command.pending? = some response) {mode : Mode} (hmode : response.mode ≠ mode) :
    state.call handle mode = (refusal command.args (callName mode) mode, state) := by
  cases mode with
  | output =>
      cases response with
      | output result => exact absurd rfl hmode
      | combined result => simp only [call, output, command_eq hcommand, hpending]; rfl
  | combined =>
      cases response with
      | output result => simp only [call, combinedOutput, command_eq hcommand, hpending]; rfl
      | combined result => exact absurd rfl hmode

theorem call_eq (hcommand : state.commands[handle]? = some command) (mode : Mode) :
    state.call handle mode =
      (command.answer mode,
        { state with commands := state.commands.modify handle (·.afterCall mode) }) := by
  have hmodify (change : Command → Command) (hchange : command.afterCall mode = change command) :
      state.commands.modify handle (·.afterCall mode) = state.commands.modify handle change := by
    apply modify_congr
    intro item hitem
    rw [hcommand, Option.some.injEq] at hitem
    rw [← hitem, hchange]
  cases hpending : command.pending? with
  | none =>
      have hsame : command.afterCall mode = id command := by
        rw [Command.afterCall, hpending, id]
      rw [call_of_none hcommand hpending, hmodify id hsame, List.modify_id, Command.answer,
        hpending]
  | some response =>
      by_cases hmode : response.mode = mode
      · have hspent : command.afterCall mode = { command with isSpent := true } := by
          simp only [Command.afterCall, hpending, if_pos hmode]
        rw [hmodify (fun command => { command with isSpent := true }) hspent, ← hmode,
          call_of_right_mode hcommand hpending]
        simp only [Command.answer, hpending, if_true, spend]
      · have hsame : command.afterCall mode = id command := by
          simp only [Command.afterCall, hpending, if_neg hmode, id]
        rw [call_of_wrong_mode hcommand hpending hmode, hmodify id hsame, List.modify_id]
        simp only [Command.answer, hpending, if_neg hmode]

end Call

end State

/-- What a history and the state behind it have to do with each other. -/
structure Accounted (entries : List Entry) (state : State) : Prop where
  args : state.invocations = entries.filterMap Entry.args?
  handles : entries.filterMap Entry.handle? = List.range state.callCount
  expectations : entries.filterMap Entry.expectation? =
    state.commands.filterMap Command.taken? ++ state.expected
  answers : ∀ handle command, state.commands[handle]? = some command →
    Answered command (callsOn handle entries)
  uncalled : ∀ handle, state.callCount ≤ handle → callsOn handle entries = []

theorem callsOn_append (handle : Handle) (first second : List Entry) :
    callsOn handle (first ++ second) = callsOn handle first ++ callsOn handle second :=
  List.filterMap_append

namespace Accounted

variable {entries : List Entry} {state : State}

theorem fresh : Accounted [] .empty where
  args := rfl
  handles := rfl
  expectations := rfl
  answers handle command hcommand := by simp [State.empty] at hcommand
  uncalled handle _ := rfl

theorem expect (accounted : Accounted entries state) (args : List String)
    (response : Response) :
    Accounted (entries ++ [.expected args response]) (state.expect args response) where
  args := by
    rw [List.filterMap_append, ← accounted.args]
    exact (List.append_nil _).symm
  handles := by
    rw [List.filterMap_append, accounted.handles]
    exact List.append_nil _
  expectations := by
    rw [List.filterMap_append, accounted.expectations, List.append_assoc]
    rfl
  answers handle command hcommand := by
    rw [callsOn_append]
    exact (List.append_nil _).symm ▸ accounted.answers handle command hcommand
  uncalled handle hhandle := by
    rw [callsOn_append, accounted.uncalled handle hhandle]
    rfl

theorem build (accounted : Accounted entries state) (args : List String) :
    Accounted (entries ++ [.built args (build args state).1]) (Script.build args state).2.2 where
  args := by
    rw [List.filterMap_append, ← accounted.args]
    simp [Script.build, State.invocations, Entry.args?]
  handles := by
    rw [List.filterMap_append, accounted.handles]
    simp [Script.build, State.callCount, Entry.handle?, List.range_succ]
  expectations := by
    have htaken : [{ args, response := (state.take args).1 : Command }].filterMap
        Command.taken? =
          ((state.take args).1.map fun response => Expectation.mk args response).toList := by
      cases hresponse : (state.take args).1 <;> rfl
    rw [List.filterMap_append, accounted.expectations, ← state.take_append args, ← htaken]
    simp only [Script.build, List.filterMap_append, List.append_assoc]
    exact congrArg _ (congrArg _ (List.append_nil _))
  answers handle command hcommand := by
    rw [callsOn_append, show callsOn handle [.built args _] = [] from rfl, List.append_nil]
    simp only [Script.build] at hcommand
    by_cases hhandle : handle < state.callCount
    · rw [List.getElem?_append_left hhandle] at hcommand
      exact accounted.answers handle command hcommand
    · rw [accounted.uncalled handle (Nat.le_of_not_lt hhandle)]
      rw [List.getElem?_append_right (Nat.le_of_not_lt hhandle)] at hcommand
      rw [List.mem_singleton.mp (List.mem_of_getElem? hcommand)]
      cases (state.take args).1 with
      | none => exact .untaken args (List.forall_mem_nil _)
      | some response => exact .waiting args response (List.forall_mem_nil _)
  uncalled handle hhandle := by
    rw [callsOn_append]
    have hlater : state.callCount ≤ handle := by
      simp only [Script.build, State.callCount, List.length_append] at hhandle
      exact Nat.le_of_add_right_le hhandle
    rw [accounted.uncalled handle hlater]
    rfl

theorem call (accounted : Accounted entries state) {handle : Handle}
    (hbuilt : handle < state.callCount) (mode : Mode) :
    Accounted (entries ++ [.called handle mode (state.call handle mode).1])
      (state.call handle mode).2 := by
  obtain ⟨command, hcommand⟩ : ∃ command, state.commands[handle]? = some command :=
    ⟨_, List.getElem?_eq_getElem hbuilt⟩
  rw [State.call_eq hcommand]
  refine ⟨?_, ?_, ?_, ?_, ?_⟩
  · rw [List.filterMap_append, ← accounted.args, State.invocations,
      State.map_modify_of_same _ _ (Command.args_afterCall mode)]
    exact (List.append_nil _).symm
  · rw [List.filterMap_append, accounted.handles, State.callCount, State.callCount,
      List.length_modify]
    exact List.append_nil _
  · have htaken := congrArg (List.filterMap id)
      (State.map_modify_of_same state.commands handle (Command.taken?_afterCall mode))
    rw [List.filterMap_map, List.filterMap_map] at htaken
    rw [List.filterMap_append, accounted.expectations]
    exact (List.append_nil _).trans (congrArg (· ++ state.expected) htaken.symm)
  · intro other found hfound
    rw [callsOn_append]
    rw [List.getElem?_modify] at hfound
    by_cases hhandle : handle = other
    · subst hhandle
      have hcalls : callsOn handle [.called handle mode (command.answer mode)] =
          [(mode, command.answer mode)] := by
        simp [callsOn, Entry.callOn?]
      rw [hcalls]
      simp only [hcommand, if_true] at hfound
      cases hfound
      exact (accounted.answers handle command hcommand).next mode
    · have hcalls : callsOn other [.called handle mode (command.answer mode)] = [] := by
        simp [callsOn, Entry.callOn?, hhandle]
      rw [hcalls, List.append_nil]
      apply accounted.answers
      simpa [hhandle] using hfound
  · intro other hother
    simp only [State.callCount, List.length_modify] at hother
    have hhandle : handle ≠ other := Nat.ne_of_lt (Nat.lt_of_lt_of_le hbuilt hother)
    rw [callsOn_append, accounted.uncalled other hother]
    simp [callsOn, Entry.callOn?, hhandle]

end Accounted

theorem History.accounted {entries : List Entry} {state : State}
    (history : History entries state) : Accounted entries state := by
  induction history with
  | fresh => exact .fresh
  | expect history args response ih => exact ih.expect args response
  | build history args ih => exact ih.build args
  | call history hbuilt mode ih => exact ih.call hbuilt mode

/-- Over every history of a script: the commands built are on record, in order and by number; what
was ever expected is what they took, in the order they were built, and then what is still pending;
and each command answered its calls by what it took, whatever went on around them. -/
theorem history_conserves {entries : List Entry} {state : State}
    (history : History entries state) :
    state.invocations = entries.filterMap Entry.args? ∧
      state.callCount = (entries.filterMap Entry.args?).length ∧
      entries.filterMap Entry.handle? = List.range state.callCount ∧
      entries.filterMap Entry.expectation? =
        state.commands.filterMap Command.taken? ++ state.expected ∧
      ∀ handle command, state.commands[handle]? = some command →
        Answered command (callsOn handle entries) := by
  have accounted := history.accounted
  refine ⟨accounted.args, ?_, accounted.handles, accounted.expectations, accounted.answers⟩
  rw [← accounted.args, State.invocations, List.length_map]
  rfl

/-- A stop command is run in the wrong way first, and a command that nobody expects between. -/
def crossedCalls : List Entry :=
  [.expected ["stop", "nimbus"] (.combined (.success [])),
    .expected ["ls"] (.output (.ok [])),
    .built ["stop", "nimbus"] 0,
    .called 0 .output (refusal ["stop", "nimbus"] "call to output()" .output),
    .built ["disk"] 1,
    .called 0 .combined (.combined (.success [])),
    .called 1 .output (refusal ["disk"] "command" .output),
    .called 0 .combined (refusal ["stop", "nimbus"] "command" .combined)]

def crossedState : State where
  expected := [⟨["ls"], .output (.ok [])⟩]
  commands :=
    [{ args := ["stop", "nimbus"], response := some (.combined (.success [])), isSpent := true },
      { args := ["disk"], response := none }]

theorem crossed_calls_conserve :
    History crossedCalls crossedState ∧
      crossedState.invocations = [["stop", "nimbus"], ["disk"]] ∧
      crossedCalls.filterMap Entry.expectation? =
        [⟨["stop", "nimbus"], .combined (.success [])⟩, ⟨["ls"], .output (.ok [])⟩] ∧
      Answered
        { args := ["stop", "nimbus"], response := some (.combined (.success [])), isSpent := true }
        [(.output, refusal ["stop", "nimbus"] "call to output()" .output),
          (.combined, .combined (.success [])),
          (.combined, refusal ["stop", "nimbus"] "command" .combined)] := by
  have queued := (History.fresh.expect ["stop", "nimbus"] (.combined (.success []))).expect
    ["ls"] (.output (.ok []))
  have called := (queued.build ["stop", "nimbus"]).call (by decide : 0 < 1) .output
  have crossed := ((called.build ["disk"]).call (by decide : 0 < 2) .combined).call
    (by decide : 1 < 2) .output
  have history : History crossedCalls crossedState :=
    crossed.call (by decide : 0 < 2) .combined
  obtain ⟨hargs, -, -, hexpectations, hanswers⟩ := history_conserves history
  exact ⟨history, hargs, hexpectations, hanswers 0 _ rfl⟩

end Script

end VmLifecycle
