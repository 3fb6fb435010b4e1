import VmLifecycle.Gateway.Script

namespace VmLifecycle.Script.State

theorem take_append (state : State) (args : List String) :
    ((state.take args).1.map fun response => Expectation.mk args response).toList ++
      (state.take args).2 = state.expected := by
  unfold take
  split
  · next hempty => rw [hempty]; rfl
  · next first rest hexpected =>
      rw [hexpected]
      split
      · next hargs => rw [← hargs]; rfl
      · rfl

theorem modify_congr {items : List α} {index : Nat} {f g : α → α}
    (hsame : ∀ item, items[index]? = some item → f item = g item) :
    items.modify index f = items.modify index g := by
  apply List.ext_getElem?
  intro other
  simp only [List.getElem?_modify]
  by_cases hindex : index = other
  · subst hindex
    cases hitem : items[index]? with
    | none => rfl
    | some item => simp [hsame item hitem]
  · simp [hindex]

theorem map_modify_of_same (items : List α) (index : Nat) {f : α → β} {g : α → α}
    (hsame : ∀ item, f (g item) = f item) :
    (items.modify index g).map f = items.map f := by
  apply List.ext_getElem?
  intro other
  simp only [List.getElem?_map, List.getElem?_modify]
  cases items[other]? with
  | none => rfl
  | some item =>
      by_cases hindex : index = other
      · simp [hindex, hsame]
      · simp [hindex]

@[simp] theorem expected_spend (state : State) (handle : Handle) :
    (state.spend handle).expected = state.expected := rfl

@[simp] theorem invocations_spend (state : State) (handle : Handle) :
    (state.spend handle).invocations = state.invocations :=
  map_modify_of_same _ _ fun _ => rfl

end VmLifecycle.Script.State
