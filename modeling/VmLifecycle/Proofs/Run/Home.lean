import VmLifecycle.Proofs.Run.Calls
import VmLifecycle.Proofs.Text.Utf8

namespace VmLifecycle

/-!
The home of the tool. A value that the configuration can hold is handed to the tool anew, and any
other is left to be inherited; either way the tool finds what the program found.
-/

namespace Tool

variable {tool : Tool} {host : Host}

theorem home_of_call? {args : List String} {call : Call}
    (hcall : tool.call? host args = some call) :
    call.home = (tool.home.map Utf8.encode).or host.home := by
  unfold call? Host.run at hcall
  cases hlaunch : host.launch tool.program args tool.home with
  | error error =>
      rw [hlaunch] at hcall
      cases hcall
  | ok _ =>
      rw [hlaunch] at hcall
      cases hcall
      rfl

theorem Faithful.home_of_call {control : Control State α} (faithful : tool.Faithful host control)
    {call : Call} (hcall : call ∈ (control State.empty).state.calls) :
    call.home = (tool.home.map Utf8.encode).or host.home := by
  rw [faithful.calls_eq] at hcall
  obtain ⟨args, -, hcall⟩ := List.mem_filterMap.mp hcall
  exact home_of_call? hcall

end Tool

namespace Config

variable {environment : String → Option Bytes}

theorem encode_of_setting? {name text : String}
    (hset : setting? (textLookup environment) name = some text) :
    environment name = some (Utf8.encode text) := by
  obtain ⟨hread, -⟩ := Option.filter_eq_some_iff.mp hset
  obtain ⟨bytes, hbytes, hdecode⟩ := Option.bind_eq_some_iff.mp hread
  rw [hbytes, Utf8.decode?_eq_some_iff.mp hdecode]

theorem toolHome_of_ofLookup {lookup : String → Option String} {config : Config}
    (hconfig : ofLookup lookup = .ok config) :
    config.toolHome = (setting? lookup toolHomeVariable).map PathText.mk := by
  unfold ofLookup at hconfig
  split at hconfig
  · cases hconfig
  · cases hconfig
    rfl

theorem home_handed_on {config : Config}
    (hconfig : ofLookup (textLookup environment) = .ok config) :
    ((Tool.ofConfig config).home.map Utf8.encode).or (environment toolHomeVariable) =
      environment toolHomeVariable := by
  simp only [Tool.ofConfig, toolHome_of_ofLookup hconfig]
  cases hset : setting? (textLookup environment) toolHomeVariable with
  | none => rfl
  | some text => exact (encode_of_setting? hset).symm

end Config

/-- Every run of the tool finds its home as the program found it: the same bytes, text or not, or
none. -/
theorem tool_home_inherited {arguments : List String} {environment : String → Option Bytes}
    {host : Host} {time : String} {call : Call}
    (hcall : call ∈ (run arguments environment host time).calls) :
    call.home = environment Config.toolHomeVariable := by
  cases hconfig : Config.ofLookup (Config.textLookup environment) with
  | error fault =>
      rw [run_calls_of_fault hconfig] at hcall
      cases hcall
  | ok config =>
      cases hline : CommandLine.parse arguments with
      | error refusal =>
          rw [run_calls_of_refusal hline] at hcall
          cases hcall
      | ok line =>
          rw [run_calls_of_config hline hconfig] at hcall
          rw [(Command.execute_faithful config line.command).home_of_call hcall]
          exact Config.home_handed_on hconfig

def Config.homeOnly (home : Option Bytes) : String → Option Bytes :=
  fun name => if name = toolHomeVariable then home else none

theorem text_and_bytes_inherited :
    (∃ call ∈ (run ["stop"] (Config.homeOnly (some (Utf8.encode "/tür")))
      (Stop.hostOfListing Stop.heldListing) "now").calls,
      call.args = ["stop", "nimbus"] ∧ call.home = some (Utf8.encode "/tür")) ∧
    (∃ call ∈ (run ["stop"] (Config.homeOnly (some [0xff]))
      (Stop.hostOfListing Stop.heldListing) "now").calls,
      call.args = ["stop", "nimbus"] ∧ call.home = some [0xff]) ∧
    ∃ call ∈ (run ["stop"] (Config.homeOnly none)
      (Stop.hostOfListing Stop.heldListing) "now").calls,
      call.args = ["stop", "nimbus"] ∧ call.home = none := by
  have hstopped : ∀ home ∈ [some (Utf8.encode "/tür"), some [0xff], none],
      ∃ call ∈ (run ["stop"] (Config.homeOnly home)
        (Stop.hostOfListing Stop.heldListing) "now").calls,
        call.args = ["stop", "nimbus"] := by
    decide +kernel
  have hhome : ∀ home ∈ [some (Utf8.encode "/tür"), some [0xff], none],
      ∃ call ∈ (run ["stop"] (Config.homeOnly home)
        (Stop.hostOfListing Stop.heldListing) "now").calls,
        call.args = ["stop", "nimbus"] ∧ call.home = home := by
    intro home hmem
    obtain ⟨call, hcall, hargs⟩ := hstopped home hmem
    exact ⟨call, hcall, hargs, tool_home_inherited hcall⟩
  exact ⟨hhome _ (by simp), hhome _ (by simp), hhome _ (by simp)⟩

end VmLifecycle
