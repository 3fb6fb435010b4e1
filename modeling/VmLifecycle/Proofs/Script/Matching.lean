import VmLifecycle.Proofs.Script.Conservation
import VmLifecycle.Proofs.Script.Rehearsal

namespace VmLifecycle.Script

/-!
How far a queue of expectations gets with the commands that are built. Each command takes the first
expectation where it can, and no other choice would get further.
-/

inductive Use where
  | build (args : List String)
  | call (handle : Handle) (mode : Mode)

def Use.args? : Use → Option (List String)
  | build args => some args
  | call _ _ => none

/-- The longest front of a queue whose arguments are, in their order, among those created. -/
structure IsLongestFront (queued : List Expectation) (created : List (List String))
    (front : List Expectation) : Prop where
  isFront : front <+: queued
  found : (front.map (·.args)).Sublist created
  longest : ∀ other, other <+: queued → (other.map (·.args)).Sublist created → other <+: front

namespace IsLongestFront

variable {queued front : List Expectation} {created : List (List String)}

theorem nothing_created (queued : List Expectation) : IsLongestFront queued [] [] where
  isFront := List.nil_prefix
  found := List.Sublist.refl []
  longest other _ hfound := by
    obtain rfl : other = [] := List.map_eq_nil_iff.mp (List.sublist_nil.mp hfound)
    exact List.nil_prefix

/-- Taking the first expectation at once costs nothing: a front that waits for a later command with
the same arguments gets no further. -/
theorem take (longest : IsLongestFront queued created front) (first : Expectation) :
    IsLongestFront (first :: queued) (first.args :: created) (first :: front) where
  isFront := (List.prefix_cons_inj first).mpr longest.isFront
  found := longest.found.cons_cons first.args
  longest other hother hfound := by
    cases other with
    | nil => exact List.nil_prefix
    | cons head rest =>
        obtain ⟨rfl, hrest⟩ := List.cons_prefix_cons.mp hother
        have hfoundRest := List.cons_sublist_cons.mp hfound
        exact (List.prefix_cons_inj head).mpr (longest.longest rest hrest hfoundRest)

theorem pass (longest : IsLongestFront queued created front) {args : List String}
    (hfirst : ∀ first ∈ queued.head?, first.args ≠ args) :
    IsLongestFront queued (args :: created) front where
  isFront := longest.isFront
  found := longest.found.cons args
  longest other hother hfound := by
    cases other with
    | nil => exact List.nil_prefix
    | cons head rest =>
        have hhead : head ∈ queued.head? := by
          obtain ⟨behind, rfl⟩ := hother
          rfl
        rcases List.sublist_cons_iff.mp hfound with hlater | ⟨others, hargs, -⟩
        · exact longest.longest (head :: rest) hother hlater
        · exact absurd (List.cons_eq_cons.mp hargs).1 (hfirst head hhead)

theorem eq_queued_iff (longest : IsLongestFront queued created front) :
    front = queued ↔ (queued.map (·.args)).Sublist created := by
  constructor
  · rintro rfl
    exact longest.found
  · intro hfound
    have hwhole := longest.longest queued List.prefix_rfl hfound
    exact longest.isFront.eq_of_length_le hwhole.length_le

end IsLongestFront

namespace State

def taken (state : State) : List Expectation :=
  state.commands.filterMap Command.taken?

def use (state : State) : Use → State
  | .build args => (build args state).2.2
  | .call handle mode => (state.call handle mode).2

def useAll (state : State) (uses : List Use) : State :=
  uses.foldl use state

section Step

variable {state : State} {args : List String}

theorem invocations_build (state : State) (args : List String) :
    (state.use (.build args)).invocations = state.invocations ++ [args] := by
  simp [use, build, invocations]

theorem build_of_first {first : Expectation} {rest : List Expectation}
    (hqueue : state.expected = first :: rest) :
    (state.use (.build first.args)).expected = rest ∧
      (state.use (.build first.args)).taken = state.taken ++ [first] := by
  have htake : state.take first.args = (some first.response, rest) := by
    simp [take, hqueue]
  simp [use, build, htake, taken, Command.taken?]

theorem build_of_other (hfirst : ∀ first ∈ state.expected.head?, first.args ≠ args) :
    (state.use (.build args)).expected = state.expected ∧
      (state.use (.build args)).taken = state.taken := by
  have htake : state.take args = (none, state.expected) := by
    unfold take
    split
    · next hqueue => rw [hqueue]
    · next first rest hqueue =>
        rw [if_neg (hfirst first (by simp [hqueue])), hqueue]
  simp [use, build, htake, taken, Command.taken?]

theorem call_unbuilt {handle : Handle} (hunbuilt : state.commands[handle]? = none)
    (mode : Mode) : (state.call handle mode).2 = state := by
  cases mode with
  | output => simp [call, output, command, hunbuilt, Command.pending?]
  | combined => simp [call, combinedOutput, command, hunbuilt, Command.pending?]

theorem call_keeps (state : State) (handle : Handle) (mode : Mode) :
    (state.use (.call handle mode)).expected = state.expected ∧
      (state.use (.call handle mode)).taken = state.taken ∧
      (state.use (.call handle mode)).invocations = state.invocations := by
  rw [use]
  cases hcommand : state.commands[handle]? with
  | none =>
      rw [call_unbuilt hcommand]
      exact ⟨rfl, rfl, rfl⟩
  | some command =>
      have htaken := congrArg (List.filterMap id)
        (map_modify_of_same state.commands handle (Command.taken?_afterCall mode))
      rw [List.filterMap_map, List.filterMap_map] at htaken
      rw [call_eq hcommand]
      exact ⟨rfl, htaken, map_modify_of_same _ _ (Command.args_afterCall mode)⟩

end Step

/-- What happens to a script on the way from one state to a later one: commands with these arguments
are built, and they take this front of what it expected. -/
structure Takes (before after : State) (created : List (List String))
    (front : List Expectation) : Prop where
  longest : IsLongestFront before.expected created front
  expected : before.expected = front ++ after.expected
  taken : after.taken = before.taken ++ front
  invocations : after.invocations = before.invocations ++ created

namespace Takes

variable {state after : State} {created : List (List String)} {front : List Expectation}

theorem refl (state : State) : Takes state state [] [] where
  longest := .nothing_created state.expected
  expected := rfl
  taken := (List.append_nil _).symm
  invocations := (List.append_nil _).symm

theorem build (args : List String)
    (takes : Takes (state.use (.build args)) after created front) :
    ∃ front, Takes state after (args :: created) front := by
  obtain ⟨hlongest, hexpected, htaken, hinvocations⟩ := takes
  rw [invocations_build, List.append_assoc] at hinvocations
  by_cases hmatch : ∃ first rest, state.expected = first :: rest ∧ first.args = args
  · obtain ⟨first, rest, hqueue, rfl⟩ := hmatch
    obtain ⟨hleft, htook⟩ := build_of_first hqueue
    rw [hleft] at hlongest hexpected
    rw [htook, List.append_assoc] at htaken
    refine ⟨first :: front, ?_, ?_, htaken, hinvocations⟩
    · rw [hqueue]
      exact hlongest.take first
    · rw [hqueue, hexpected, List.cons_append]
  · have hfirst : ∀ first ∈ state.expected.head?, first.args ≠ args := by
      intro first hhead hargs
      obtain ⟨rest, hqueue⟩ := List.head?_eq_some_iff.mp hhead
      exact hmatch ⟨first, rest, hqueue, hargs⟩
    obtain ⟨hleft, hkept⟩ := build_of_other hfirst
    rw [hleft] at hlongest hexpected
    rw [hkept] at htaken
    exact ⟨front, hlongest.pass hfirst, hexpected, htaken, hinvocations⟩

theorem call (handle : Handle) (mode : Mode)
    (takes : Takes (state.use (.call handle mode)) after created front) :
    Takes state after created front := by
  obtain ⟨hlongest, hexpected, htaken, hinvocations⟩ := takes
  obtain ⟨hleft, hkept, hbuilt⟩ := state.call_keeps handle mode
  rw [hleft] at hlongest hexpected
  rw [hkept] at htaken
  rw [hbuilt] at hinvocations
  exact ⟨hlongest, hexpected, htaken, hinvocations⟩

end Takes

theorem useAll_takes (state : State) (uses : List Use) :
    ∃ front, Takes state (state.useAll uses) (uses.filterMap Use.args?) front := by
  induction uses generalizing state with
  | nil => exact ⟨[], .refl state⟩
  | cons first uses ih =>
      obtain ⟨front, takes⟩ := ih (state.use first)
      cases first with
      | build args => exact takes.build args
      | call handle mode => exact ⟨front, takes.call handle mode⟩

end State

/-- Of expectations queued on a fresh script the commands that are then built take the longest front
that they can, whatever runs of commands come between: it is found among them in its order, and no
longer front is. So the script is satisfied just when the whole queue is found among them. -/
theorem takes_longest_front (queue : List (List String × Response)) (uses : List Use) :
    let state := (State.ofCommands queue).useAll uses
    let queued := queue.map expectation
    let created := uses.filterMap Use.args?
    queued = state.taken ++ state.expected ∧
      IsLongestFront queued created state.taken ∧
      state.invocations = created ∧
      (state.isSatisfied = true ↔ (queue.map (·.1)).Sublist state.invocations) := by
  intro state queued created
  obtain ⟨front, hlongest, hexpected, htaken, hinvocations⟩ :=
    (State.ofCommands queue).useAll_takes uses
  have hqueued : (State.ofCommands queue).expected = queued := by
    rw [State.ofCommands_eq]
  have hfront : state.taken = front := by
    rw [htaken, State.ofCommands_eq]
    rfl
  have hcreated : state.invocations = created := by
    rw [hinvocations, State.ofCommands_eq]
    rfl
  rw [hqueued] at hlongest hexpected
  rw [← hfront] at hlongest hexpected
  refine ⟨hexpected, hlongest, hcreated, ?_⟩
  have hargs : queued.map (·.args) = queue.map (·.1) := by
    rw [List.map_map]
    rfl
  rw [hcreated, ← hargs, ← hlongest.eq_queued_iff, State.isSatisfied, List.isEmpty_iff]
  constructor
  · intro hempty
    rw [hexpected, hempty, List.append_nil]
  · intro hwhole
    rw [hwhole] at hexpected
    exact List.append_right_eq_self.mp hexpected.symm

end VmLifecycle.Script
