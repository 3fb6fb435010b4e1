import VmLifecycle.Proofs.Control.Trace
import VmLifecycle.Proofs.Control.Uniform

namespace VmLifecycle

namespace Host

variable {host : Host} {program : String} {args others : List String}
  {home : Option String}

theorem launch_eq_ok_iff :
    host.launch program args home = .ok () ↔
      (hasZeroByte program = false ∧ host.start program = .ok ()) ∧
      (home.any hasZeroByte = false ∧
        (home.any fun home => isTooLong (homeEntry home)) = false) ∧
      ∀ argument ∈ args, hasZeroByte argument = false ∧ isTooLong argument = false := by
  simp only [← Bool.not_eq_true, imp_and, forall_and, ← List.any_eq_false]
  unfold launch
  cases hasZeroByte program <;> cases args.any hasZeroByte <;>
    cases home.any hasZeroByte <;> cases host.start program <;>
    cases args.any isTooLong <;>
    cases home.any fun home => isTooLong (homeEntry home) <;> simp

/-- What can be started can be started with plain words in the place of some arguments. -/
theorem launch_of_launch (hlaunch : host.launch program args home = .ok ())
    (hothers : ∀ argument ∈ others, argument ∈ args ∨
      hasZeroByte argument = false ∧ isTooLong argument = false) :
    host.launch program others home = .ok () := by
  obtain ⟨hprogram, hhome, hargs⟩ := launch_eq_ok_iff.mp hlaunch
  refine launch_eq_ok_iff.mpr ⟨hprogram, hhome, ?_⟩
  intro argument hargument
  rcases hothers argument hargument with hold | hplain
  · exact hargs argument hold
  · exact hplain

end Host

namespace Tool

/-- The run of the tool that a command leads to, if the tool can be started. -/
def call? (tool : Tool) (host : Host) (args : List String) : Option Call :=
  match host.run tool.program args tool.home with
  | .error _ => none
  | .ok (_, call) => some call

def answer (tool : Tool) (host : Host) (args : List String) : Except Error Bytes :=
  match host.run tool.program args tool.home with
  | .error error => .error (.system error)
  | .ok (behaviour, _) =>
      (tool.check args behaviour.ending).map fun () => behaviour.stdout

def mergedAnswer (tool : Tool) (host : Host) (args : List String) :
    CombinedOutput :=
  match host.run tool.program args tool.home with
  | .error error => .failure [] (.system error)
  | .ok (behaviour, _) => ⟨behaviour.merged, tool.check args behaviour.ending⟩

def Gives (tool : Tool) (host : Host) (args : List String) : Response → Prop
  | .output result => result = tool.answer host args
  | .combined result => result = tool.mergedAnswer host args

@[simp] theorem args_build (args : List String) (state : State) :
    (build args state).2.2.args (build args state).1 = args := by
  simp [build, State.args]

theorem check_eq_ok_iff {tool : Tool} {args : List String} {ending : Ending} :
    tool.check args ending = .ok () ↔ ending = .exit 0 := by
  unfold check
  split <;> simp [*]

section Runs

variable {tool : Tool} {host : Host} {args : List String}

theorem run_cases (tool : Tool) (host : Host) (args : List String) :
    (∃ error, host.run tool.program args tool.home = .error error) ∨
      ∃ call, host.run tool.program args tool.home =
        .ok (host.behaviour args, call) ∧ call.args = args := by
  unfold Host.run
  split
  · next error hlaunch => exact .inl ⟨error, rfl⟩
  · exact .inr ⟨_, rfl, rfl⟩

theorem args_of_call? {call : Call} (hcall : tool.call? host args = some call) :
    call.args = args := by
  rcases run_cases tool host args with ⟨error, hrun⟩ | ⟨ran, hrun, hargs⟩
  · rw [call?, hrun] at hcall
    cases hcall
  · rw [call?, hrun] at hcall
    cases hcall
    exact hargs

theorem exists_call?_iff :
    (∃ call, tool.call? host args = some call) ↔
      host.launch tool.program args tool.home = .ok () := by
  unfold call? Host.run
  cases hlaunch : host.launch tool.program args tool.home with
  | error error => simp
  | ok _ => simp

theorem answer_eq_ok_iff {bytes : Bytes} :
    tool.answer host args = .ok bytes ↔
      (∃ call, tool.call? host args = some call) ∧
        (host.behaviour args).ending = .exit 0 ∧
        bytes = (host.behaviour args).stdout := by
  rcases run_cases tool host args with ⟨error, hrun⟩ | ⟨call, hrun, -⟩
  · simp [answer, call?, hrun]
  · simp only [answer, call?, hrun, ← @check_eq_ok_iff tool args]
    cases hcheck : tool.check args (host.behaviour args).ending with
    | error error => simp [Except.map]
    | ok _ => simp [Except.map, eq_comm]

theorem mergedAnswer_status_eq_ok_iff :
    (tool.mergedAnswer host args).status = .ok () ↔
      (∃ call, tool.call? host args = some call) ∧
        (host.behaviour args).ending = .exit 0 := by
  rcases run_cases tool host args with ⟨error, hrun⟩ | ⟨call, hrun, -⟩
  · simp [mergedAnswer, call?, hrun, CombinedOutput.failure]
  · simp only [mergedAnswer, call?, hrun, check_eq_ok_iff]
    simp

theorem answer_eq_map :
    tool.answer host args =
      (tool.mergedAnswer host args).status.map fun _ => (host.behaviour args).stdout := by
  rcases run_cases tool host args with ⟨error, hrun⟩ | ⟨call, hrun, -⟩
  · simp [answer, mergedAnswer, hrun, CombinedOutput.failure, Except.map]
  · simp [answer, mergedAnswer, hrun]

theorem outputOf_gateway (state : State) :
    ((tool.gateway host).outputOf args state).1 = tool.answer host args ∧
      ((tool.gateway host).outputOf args state).2.2.calls =
        state.calls ++ (tool.call? host args).toList ∧
      ((tool.gateway host).outputOf args state).2.2.commands = state.commands ++ [args] := by
  simp only [Gateway.outputOf, gateway, output, args_build, answer, call?]
  cases hrun : host.run tool.program args tool.home with
  | error error => simp [build]
  | ok ran => simp [build, State.called]

theorem combinedOf_gateway (state : State) :
    ((tool.gateway host).combinedOf args state).1 = tool.mergedAnswer host args ∧
      ((tool.gateway host).combinedOf args state).2.2.calls =
        state.calls ++ (tool.call? host args).toList ∧
      ((tool.gateway host).combinedOf args state).2.2.commands = state.commands ++ [args] := by
  simp only [Gateway.combinedOf, gateway, combinedOutput, args_build, mergedAnswer,
    call?]
  cases hrun : host.run tool.program args tool.home with
  | error error => simp [build]
  | ok ran => simp [build, State.called]

end Runs

def callsOf (tool : Tool) (host : Host) (commands : List (List String × Response)) :
    List Call :=
  commands.filterMap fun command => tool.call? host command.1

theorem callsOf_append (tool : Tool) (host : Host)
    (first second : List (List String × Response)) :
    tool.callsOf host (first ++ second) =
      tool.callsOf host first ++ tool.callsOf host second :=
  List.filterMap_append

theorem callsOf_eq (tool : Tool) (host : Host) (commands : List (List String × Response)) :
    tool.callsOf host commands = (commands.map (·.1)).filterMap (tool.call? host) := by
  rw [List.filterMap_map]
  rfl

theorem mem_callsOf_args_iff {tool : Tool} {host : Host} {args : List String}
    {commands : List (List String × Response)} :
    args ∈ (tool.callsOf host commands).map (·.args) ↔
      args ∈ commands.map (·.1) ∧ ∃ call, tool.call? host args = some call := by
  simp only [callsOf, List.mem_map, List.mem_filterMap]
  constructor
  · rintro ⟨call, ⟨command, hcommand, hcall⟩, rfl⟩
    rw [args_of_call? hcall]
    exact ⟨⟨command, hcommand, rfl⟩, call, hcall⟩
  · rintro ⟨⟨command, hcommand, rfl⟩, call, hcall⟩
    exact ⟨call, ⟨command, hcommand, hcall⟩, args_of_call? hcall⟩

/-- A piece of control whose trace shows all it does with the tool, and what the tool gives. -/
structure Faithful (tool : Tool) (host : Host) (control : Control State α) :
    Prop where
  calls : ∀ state, (control state).state.calls =
    state.calls ++ tool.callsOf host (Event.commandsOf (control state).trace)
  gives : ∀ state, ∀ command ∈ Event.commandsOf (control state).trace,
    tool.Gives host command.1 command.2
  built : ∀ state, (control state).state.commands =
    state.commands ++ (Event.commandsOf (control state).trace).map (·.1)

namespace Faithful

variable {tool : Tool} {host : Host}

theorem calls_eq {control : Control State α} (faithful : Faithful tool host control) :
    (control State.empty).state.calls =
      (control State.empty).state.commands.filterMap (tool.call? host) := by
  rw [faithful.calls, faithful.built, callsOf_eq]
  rfl

theorem of_quiet {control : Control State α}
    (hquiet : ∀ state, Event.commandsOf (control state).trace = [] ∧
      (control state).state = state) :
    Faithful tool host control where
  calls state := by simp [hquiet state, callsOf]
  gives state command hcommand := by simp [hquiet state] at hcommand
  built state := by simp [hquiet state]

theorem of_ran {control : Control State α} (args : List String)
    (hran : ∀ state, ∃ records response,
      (control state).trace = [.ran args records response] ∧
      tool.Gives host args response ∧
      (control state).state.calls = state.calls ++ (tool.call? host args).toList ∧
      (control state).state.commands = state.commands ++ [args]) :
    Faithful tool host control where
  calls state := by
    obtain ⟨records, response, htrace, -, hcalls, -⟩ := hran state
    rw [hcalls, htrace]
    cases hcall : tool.call? host args with
    | none => simp [callsOf, hcall]
    | some call => simp [callsOf, hcall]
  gives state command hcommand := by
    obtain ⟨records, response, htrace, hgives, -⟩ := hran state
    rw [htrace] at hcommand
    simp only [Event.commandsOf_ran, Event.commandsOf_nil, List.mem_singleton] at hcommand
    subst hcommand
    exact hgives
  built state := by
    obtain ⟨records, response, htrace, -, -, hbuilt⟩ := hran state
    rw [hbuilt, htrace]
    rfl

theorem pure (value : α) : Faithful tool host (Pure.pure value) :=
  of_quiet fun _ => ⟨rfl, rfl⟩

theorem fail (error : Error) :
    Faithful tool host (Control.fail error : Control State α) :=
  of_quiet fun _ => ⟨rfl, rfl⟩

theorem log (record : Record) : Faithful tool host (Control.log record) :=
  of_quiet fun _ => ⟨rfl, rfl⟩

theorem output (args : List String) :
    Faithful tool host (Control.output (tool.gateway host) args) :=
  of_ran args fun state => ⟨_, _, rfl, outputOf_gateway state⟩

theorem combinedOutput (args : List String) :
    Faithful tool host (Control.combinedOutput (tool.gateway host) args) :=
  of_ran args fun state => ⟨_, _, rfl, combinedOf_gateway state⟩

theorem bind {control : Control State α} {next : α → Control State β}
    (hcontrol : Faithful tool host control)
    (hnext : ∀ value, Faithful tool host (next value)) :
    Faithful tool host (control >>= next) where
  calls state := by
    cases hresult : (control state).result with
    | error error =>
        rw [Control.bind_of_error hresult]
        exact hcontrol.calls state
    | ok value =>
        rw [Control.bind_of_ok hresult]
        simp only [(hnext value).calls, hcontrol.calls, callsOf_append,
          Event.commandsOf_append, List.append_assoc]
  gives state command hcommand := by
    cases hresult : (control state).result with
    | error error =>
        rw [Control.bind_of_error hresult] at hcommand
        exact hcontrol.gives state command hcommand
    | ok value =>
        rw [Control.bind_of_ok hresult] at hcommand
        simp only [Event.commandsOf_append, List.mem_append] at hcommand
        rcases hcommand with hfirst | hsecond
        · exact hcontrol.gives state command hfirst
        · exact (hnext value).gives _ command hsecond
  built state := by
    cases hresult : (control state).result with
    | error error =>
        rw [Control.bind_of_error hresult]
        exact hcontrol.built state
    | ok value =>
        rw [Control.bind_of_ok hresult]
        simp only [(hnext value).built, hcontrol.built, Event.commandsOf_append,
          List.map_append, List.append_assoc]

theorem request {disk : DiskManager State} (hdisk : Faithful tool host disk) :
    Faithful tool host disk.request where
  calls state := by simpa [DiskManager.request] using hdisk.calls state
  gives state command hcommand := by
    refine hdisk.gives state command ?_
    simpa [DiskManager.request] using hcommand
  built state := by simpa [DiskManager.request] using hdisk.built state

end Faithful

end Tool

/-- Control that works through the gateway alone hides nothing it does with the tool. -/
theorem Uniform.faithful {tool : Tool} {host : Host} {program : Program α}
    (huniform : Uniform program) :
    tool.Faithful host (program Tool.State (tool.gateway host)) := by
  induction huniform with
  | pure value => exact .pure value
  | fail error => exact .fail error
  | log record => exact .log record
  | output args => exact .output args
  | combinedOutput args => exact .combinedOutput args
  | bind hfirst hnext firstFaithful nextFaithful => exact firstFaithful.bind nextFaithful
  | request hdisk diskFaithful => exact diskFaithful.request

theorem Command.execute_faithful {tool : Tool} {host : Host} (config : Config)
    (command : Command) :
    tool.Faithful host (command.execute config (tool.gateway host)) :=
  (execute_uniform config command).faithful

end VmLifecycle
