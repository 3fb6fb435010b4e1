import VmLifecycle.Proofs.Script.State
import VmLifecycle.Proofs.Tool.Calls

namespace VmLifecycle

/-!
A script made from the commands of a run, each with what it gave, makes control run in the same way:
with the same results, the same trace but for what the gateway itself logs, and every expectation
met.
-/

namespace Event

mutual

def muted : Event → Event
  | logged record => logged record
  | ran args _ response => ran args [] response
  | detached inside result => detached (mutedOf inside) result

def mutedOf : List Event → List Event
  | [] => []
  | event :: rest => muted event :: mutedOf rest

end

def controlRecords (trace : List Event) : List Record :=
  recordsOf (mutedOf trace)

theorem mutedOf_append (first second : List Event) :
    mutedOf (first ++ second) = mutedOf first ++ mutedOf second := by
  induction first with
  | nil => rfl
  | cons event rest ih => simp [mutedOf, ih]

end Event

namespace Script

def expectation (command : List String × Response) : Expectation :=
  ⟨command.1, command.2⟩

def State.ofCommands (commands : List (List String × Response)) : State :=
  commands.foldl (fun state command => state.expect command.1 command.2) .empty

theorem expected_foldl (commands : List (List String × Response)) (state : State) :
    commands.foldl (fun state command => state.expect command.1 command.2) state =
      { state with expected := state.expected ++ commands.map expectation } := by
  induction commands generalizing state with
  | nil => simp
  | cons command rest ih =>
      rw [List.foldl_cons, ih]
      simp [State.expect, expectation]

theorem State.ofCommands_eq (commands : List (List String × Response)) :
    State.ofCommands commands = { expected := commands.map expectation } := by
  rw [ofCommands, expected_foldl]
  rfl

section Step

variable {state : State} {args : List String} {response : Response}
  {rest : List Expectation}

theorem build_of_expected (hexpected : state.expected = expectation (args, response) :: rest) :
    build args state =
      (state.commands.length, [createdRecord args true],
        { expected := rest
          commands := state.commands ++ [{ args, response := some response }] }) := by
  simp [build, State.take, hexpected, expectation]

theorem pending_last {commands : List Command} :
    (State.command ⟨rest, commands ++ [{ args, response := some response }]⟩
      commands.length).pending? = some response := by
  simp [State.command, Command.pending?]

theorem outputOf_of_expected {result : Except Error Bytes}
    (hexpected : state.expected = expectation (args, .output result) :: rest) :
    (gateway.outputOf args state).1 = result ∧
      (gateway.outputOf args state).2.2.expected = rest ∧
      (gateway.outputOf args state).2.2.invocations = state.invocations ++ [args] := by
  simp only [Gateway.outputOf, gateway, build_of_expected hexpected, output, pending_last,
    State.expected_spend, State.invocations_spend]
  simp [State.invocations]

theorem combinedOf_of_expected {result : CombinedOutput}
    (hexpected : state.expected = expectation (args, .combined result) :: rest) :
    (gateway.combinedOf args state).1 = result ∧
      (gateway.combinedOf args state).2.2.expected = rest ∧
      (gateway.combinedOf args state).2.2.invocations = state.invocations ++ [args] := by
  simp only [Gateway.combinedOf, gateway, build_of_expected hexpected, combinedOutput,
    pending_last, State.expected_spend, State.invocations_spend]
  simp [State.invocations]

end Step

end Script

/-- A scripted run that follows another one, and leaves the rest of its script. -/
structure Rehearses (script : Script.State) (rest : List Expectation)
    (scripted : Outcome Script.State α) (real : Outcome σ α) : Prop where
  result : scripted.result = real.result
  trace : Event.mutedOf scripted.trace = Event.mutedOf real.trace
  expected : scripted.state.expected = rest
  invocations : scripted.state.invocations =
    script.invocations ++ (Event.commandsOf real.trace).map (·.1)

/-- Control that follows another one wherever its script goes on with the commands of that. -/
def Rehearsing (scripted : Control Script.State α) (real : Control σ α) : Prop :=
  ∀ state script rest,
    script.expected =
      (Event.commandsOf (real state).trace).map Script.expectation ++ rest →
    Rehearses script rest (scripted script) (real state)

namespace Rehearsing

theorem pure (value : α) :
    Rehearsing (Pure.pure value) (Pure.pure value : Control σ α) :=
  fun _ _ _ hexpected => ⟨rfl, rfl, hexpected, (List.append_nil _).symm⟩

theorem fail (error : Error) :
    Rehearsing (Control.fail error) (Control.fail error : Control σ α) :=
  fun _ _ _ hexpected => ⟨rfl, rfl, hexpected, (List.append_nil _).symm⟩

theorem log (record : Record) :
    Rehearsing (Control.log record) (Control.log record : Control σ Unit) :=
  fun _ _ _ hexpected => ⟨rfl, rfl, hexpected, (List.append_nil _).symm⟩

theorem output (gateway : Gateway σ) (args : List String) :
    Rehearsing (Control.output Script.gateway args) (Control.output gateway args) := by
  intro state script rest hexpected
  obtain ⟨hresult, hrest, hinvocations⟩ := Script.outputOf_of_expected hexpected
  refine ⟨hresult, ?_, hrest, hinvocations⟩
  rw [Control.output_apply, Control.output_apply, hresult]
  rfl

theorem combinedOutput (gateway : Gateway σ) (args : List String) :
    Rehearsing (Control.combinedOutput Script.gateway args)
      (Control.combinedOutput gateway args) := by
  intro state script rest hexpected
  obtain ⟨hresult, hrest, hinvocations⟩ := Script.combinedOf_of_expected hexpected
  refine ⟨congrArg Except.ok hresult, ?_, hrest, hinvocations⟩
  rw [Control.combinedOutput_apply, Control.combinedOutput_apply, hresult]
  rfl

theorem bind {scripted : Control Script.State α} {real : Control σ α}
    {scriptedNext : α → Control Script.State β} {realNext : α → Control σ β}
    (hfirst : Rehearsing scripted real)
    (hnext : ∀ value, Rehearsing (scriptedNext value) (realNext value)) :
    Rehearsing (scripted >>= scriptedNext) (real >>= realNext) := by
  intro state script rest hexpected
  cases hresult : (real state).result with
  | error error =>
      rw [Control.bind_of_error hresult] at hexpected
      have first := hfirst state script rest hexpected
      rw [Control.bind_of_error hresult,
        Control.bind_of_error (first.result.trans hresult)]
      exact ⟨rfl, first.trace, first.expected, first.invocations⟩
  | ok value =>
      -- To the first part, the script of the second is what is left of the script.
      rw [Control.bind_of_ok hresult, Event.commandsOf_append, List.map_append,
        List.append_assoc] at hexpected
      have first := hfirst state script _ hexpected
      have second := hnext value (real state).state (scripted script).state rest
        first.expected
      rw [Control.bind_of_ok hresult,
        Control.bind_of_ok (first.result.trans hresult)]
      refine ⟨second.result, ?_, second.expected, ?_⟩
      · rw [Event.mutedOf_append, Event.mutedOf_append, first.trace, second.trace]
      · rw [second.invocations, first.invocations, Event.commandsOf_append,
          List.map_append, List.append_assoc]

theorem request {scripted : DiskManager Script.State} {real : DiskManager σ}
    (hdisk : Rehearsing scripted real) : Rehearsing scripted.request real.request := by
  intro state script rest hexpected
  have hinside : Event.commandsOf (real.request state).trace =
      Event.commandsOf (real state).trace :=
    List.append_nil _
  rw [hinside] at hexpected
  have inside := hdisk state script rest hexpected
  refine ⟨inside.result, ?_, inside.expected, ?_⟩
  · simp only [DiskManager.request, Event.mutedOf, Event.muted, inside.trace,
      inside.result]
  · rw [hinside]
    exact inside.invocations

end Rehearsing

theorem Uniform.rehearsing {program : Program α} (huniform : Uniform program)
    (gateway : Gateway σ) :
    Rehearsing (program Script.State Script.gateway) (program σ gateway) := by
  induction huniform with
  | pure value => exact .pure value
  | fail error => exact .fail error
  | log record => exact .log record
  | output args => exact .output gateway args
  | combinedOutput args => exact .combinedOutput gateway args
  | bind hfirst hnext firstRehearsing nextRehearsing =>
      exact firstRehearsing.bind nextRehearsing
  | request hdisk diskRehearsing => exact diskRehearsing.request

inductive Operation where
  | probe (name : InstanceName)
  | stop (name : InstanceName) (disk : String) (isForced : Bool)
  | detach (disk : String)

namespace Operation

def perform (gateway : Gateway σ) : Operation → Control σ (Option Status)
  | probe name => do
      let status ← Probe.run ⟨name⟩ gateway
      return some status
  | stop name disk isForced => do
      Stop.run ⟨name⟩ gateway (Disk.detach gateway disk) isForced
      return none
  | detach disk => do
      Disk.detach gateway disk
      return none

/-- Operations one after another, each on the gateway as the one before left it, whether that
succeeded or not. -/
def performAll (gateway : Gateway σ) :
    List Operation → σ → List (Outcome σ (Option Status)) × σ
  | [], state => ([], state)
  | operation :: rest, state =>
      let outcome := operation.perform gateway state
      let (outcomes, last) := performAll gateway rest outcome.state
      (outcome :: outcomes, last)

def record (outcomes : List (Outcome σ (Option Status))) : List (List String × Response) :=
  outcomes.flatMap fun outcome => Event.commandsOf outcome.trace

theorem perform_uniform (operation : Operation) :
    Uniform fun _ gateway => operation.perform gateway := by
  cases operation with
  | probe name => exact .bind (Probe.run_uniform _) fun status => .pure (some status)
  | stop name disk isForced =>
      exact .bind (Stop.run_uniform _ (Disk.detach_uniform disk) isForced) fun _ =>
        .pure none
  | detach disk => exact .bind (Disk.detach_uniform disk) fun _ => .pure none

theorem performAll_rehearses (gateway : Gateway σ) (operations : List Operation)
    (state : σ) (script : Script.State) (rest : List Expectation)
    (hexpected : script.expected =
      (record (performAll gateway operations state).1).map Script.expectation ++ rest) :
    (performAll Script.gateway operations script).1.map (·.result) =
        (performAll gateway operations state).1.map (·.result) ∧
      (performAll Script.gateway operations script).1.map
          (fun outcome => Event.mutedOf outcome.trace) =
        (performAll gateway operations state).1.map
          (fun outcome => Event.mutedOf outcome.trace) ∧
      (performAll Script.gateway operations script).2.expected = rest ∧
      (performAll Script.gateway operations script).2.invocations =
        script.invocations ++ (record (performAll gateway operations state).1).map (·.1) := by
  induction operations generalizing state script with
  | nil => exact ⟨rfl, rfl, hexpected, (List.append_nil _).symm⟩
  | cons operation later ih =>
      -- All that ties the two runs together is what the script still expects: the record of the
      -- operations to come.
      simp only [performAll, record, List.flatMap_cons, List.map_append,
        List.append_assoc] at hexpected
      have first := operation.perform_uniform.rehearsing gateway state script _ hexpected
      obtain ⟨hresults, htraces, hrest, hinvocations⟩ := ih _ _ first.expected
      refine ⟨?_, ?_, hrest, ?_⟩
      · simp only [performAll, List.map_cons, hresults, first.result]
      · simp only [performAll, List.map_cons, htraces, first.trace]
      · simp only [performAll, hinvocations, first.invocations, record,
          List.flatMap_cons, List.map_append, List.append_assoc]

theorem performAll_built (tool : Tool) (host : Host) (operations : List Operation)
    (state : Tool.State) :
    (performAll (tool.gateway host) operations state).2.commands =
      state.commands ++
        (record (performAll (tool.gateway host) operations state).1).map (·.1) := by
  induction operations generalizing state with
  | nil => exact (List.append_nil _).symm
  | cons operation later ih =>
      have faithful : tool.Faithful host (operation.perform (tool.gateway host)) :=
        operation.perform_uniform.faithful
      simp only [performAll, ih, faithful.built, record, List.flatMap_cons,
        List.map_append, List.append_assoc]

end Operation

/-- A script made of the record of any operations over the tool makes them all give the same results
and log the same; it is used up, and the record names every command that either gateway built. -/
theorem Script.repeats_tool (tool : Tool) (host : Host) (operations : List Operation) :
    let real := Operation.performAll (tool.gateway host) operations Tool.State.empty
    let recorded := Operation.record real.1
    let scripted := Operation.performAll gateway operations (State.ofCommands recorded)
    scripted.1.map (·.result) = real.1.map (·.result) ∧
      scripted.1.map (fun outcome => Event.controlRecords outcome.trace) =
        real.1.map (fun outcome => Event.controlRecords outcome.trace) ∧
      scripted.2.isSatisfied = true ∧
      scripted.2.invocations = recorded.map (·.1) ∧
      real.2.commands = recorded.map (·.1) := by
  intro real recorded scripted
  have hexpected : (State.ofCommands recorded).expected =
      recorded.map expectation ++ [] := by
    simp [State.ofCommands_eq]
  obtain ⟨hresults, htraces, hrest, hinvocations⟩ :=
    Operation.performAll_rehearses (tool.gateway host) operations Tool.State.empty _ []
      hexpected
  refine ⟨hresults, ?_, ?_, ?_, ?_⟩
  · have hrecords := congrArg (List.map Event.recordsOf) htraces
    rwa [List.map_map, List.map_map] at hrecords
  · rw [State.isSatisfied, hrest]
    rfl
  · rw [hinvocations, State.ofCommands_eq]
    rfl
  · exact Operation.performAll_built tool host operations Tool.State.empty

end VmLifecycle
