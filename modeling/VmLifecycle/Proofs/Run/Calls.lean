import VmLifecycle.Proofs.Stop.Calls

namespace VmLifecycle

def Command.isForced : Command → Bool
  | stop isForced => isForced
  | status => false

theorem Command.trace_status (config : Config) (gateway : Gateway σ) (state : σ) :
    (status.execute config gateway state).trace =
      (Probe.run ⟨config.instanceName⟩ gateway state).trace := by
  rw [execute]
  cases hresult : (Probe.run ⟨config.instanceName⟩ gateway state).result with
  | error error => rw [Control.bind_of_error hresult]
  | ok shown =>
      rw [Control.bind_of_ok hresult]
      cases shown with
      | running => simp
      | stopped => simp
      | nonexistent => simp
      | unrecognized => simp

theorem Probe.commandsOf_run (probe : Probe) (gateway : Gateway σ) (state : σ) :
    (Event.commandsOf (run probe gateway state).trace).map (·.1) =
      [args probe.instanceName] := by
  cases hanswer : (gateway.outputOf (args probe.instanceName) state).1 with
  | error error => rw [run_of_error hanswer]; rfl
  | ok bytes => rw [run_of_ok hanswer]; rfl

theorem Command.exists_order_of_call {config : Config} {command : Command} {tool : Tool}
    {host : Host} {call : Call}
    (hcall : call ∈
      (command.execute config (tool.gateway host) Tool.State.empty).state.calls) :
    ∃ order : Stop.Order, call.args = order.args config command.isForced := by
  cases command with
  | stop isForced =>
      obtain ⟨issued, kept⟩ := Stop.execute_keeps config isForced tool host
      have hargs : call.args ∈ issued.map (Stop.Order.args config isForced) := by
        rw [← kept.args]
        exact List.mem_map_of_mem hcall
      obtain ⟨order, -, hsame⟩ := List.mem_map.mp hargs
      exact ⟨order, hsame.symm⟩
  | status =>
      have faithful : tool.Faithful host (status.execute config (tool.gateway host)) :=
        execute_faithful config status
      rw [faithful.calls, trace_status] at hcall
      simp only [Tool.State.empty, List.nil_append, Tool.callsOf,
        List.mem_filterMap] at hcall
      obtain ⟨ran, hran, hcall⟩ := hcall
      have hargs := List.mem_map_of_mem (f := (·.1)) hran
      rw [Probe.commandsOf_run, List.mem_singleton] at hargs
      refine ⟨.probe, ?_⟩
      rw [Tool.args_of_call? hcall, hargs]
      rfl

def Config.instanceOnly (value : Bytes) : String → Option Bytes :=
  fun name => if name = instanceVariable then some value else none

section Run

variable {arguments : List String} {environment : String → Option Bytes} {host : Host}
  {time : String}

theorem run_calls_of_refusal {refusal : CommandLine.Refusal}
    (hline : CommandLine.parse arguments = .error refusal) :
    (run arguments environment host time).calls = [] := by
  simp only [run, hline, Report.ofRefusal]
  split <;> rfl

theorem run_calls_of_fault {fault : NameFault}
    (hfault : Config.ofLookup (Config.textLookup environment) = .error fault) :
    (run arguments environment host time).calls = [] := by
  cases hline : CommandLine.parse arguments with
  | error refusal => exact run_calls_of_refusal hline
  | ok line =>
      simp only [run, hline, Report.ofExecution_calls, Report.execute, Config.load, hfault]

theorem run_calls_of_config {line : CommandLine} {config : Config}
    (hline : CommandLine.parse arguments = .ok line)
    (hconfig : Config.ofLookup (Config.textLookup environment) = .ok config) :
    (run arguments environment host time).calls =
      (line.command.execute config
        ((Tool.ofConfig config).gateway
          { host with home := environment Config.toolHomeVariable })
        Tool.State.empty).state.calls := by
  simp only [run, hline, Report.ofExecution_calls, Report.execute, Config.load, hconfig]

theorem exists_order_of_run_call {config : Config}
    (hconfig : Config.ofLookup (Config.textLookup environment) = .ok config)
    {call : Call} (hcall : call ∈ (run arguments environment host time).calls) :
    ∃ (isForced : Bool) (order : Stop.Order), call.args = order.args config isForced := by
  cases hline : CommandLine.parse arguments with
  | error refusal =>
      rw [run_calls_of_refusal hline] at hcall
      cases hcall
  | ok line =>
      rw [run_calls_of_config hline hconfig] at hcall
      exact ⟨_, Command.exists_order_of_call hcall⟩

end Run

end VmLifecycle
