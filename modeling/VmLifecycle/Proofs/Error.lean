import VmLifecycle.Proofs.Text.Quoted

namespace VmLifecycle

namespace Error

def TellsState : Error → Prop
  | alreadyStopped _ => True
  | notExist _ => True
  | _ => False

theorem head_message {error : Error} (hquiet : ¬ error.TellsState) :
    error.message.toList.head? ≠ some 't' := by
  cases error with
  | alreadyStopped name => exact absurd trivial hquiet
  | notExist name => exact absurd trivial hquiet
  | system cause =>
      show ("I/O error: " ++ cause.message).toList.head? ≠ some 't'
      simp
  | commandFailed command reason =>
      show ("command `" ++ command ++ "` failed: " ++ reason).toList.head? ≠ some 't'
      simp
  | unrecognizedStatus => decide
  | disk text =>
      show ("Disk error: " ++ text).toList.head? ≠ some 't'
      simp
  | invalidConfig text =>
      show ("Invalid configuration: " ++ text).toList.head? ≠ some 't'
      simp
  | document cause =>
      show ("JSON error: " ++ cause.message).toList.head? ≠ some 't'
      simp

theorem head_message_of_tellsState {error : Error} (htells : error.TellsState) :
    error.message.toList.head? = some 't' := by
  cases error with
  | alreadyStopped name =>
      show ("the instance " ++ quoted name ++ " is already stopped").toList.head? = some 't'
      simp
  | notExist name =>
      show ("the instance " ++ quoted name ++ " does not exist").toList.head? = some 't'
      simp
  | _ => cases htells

theorem message_ne_of_quiet {error refusal : Error} (hquiet : ¬ error.TellsState)
    (htells : refusal.TellsState) : error.message ≠ refusal.message := by
  intro hsame
  exact head_message hquiet (hsame ▸ head_message_of_tellsState htells)

theorem message_notExist_ne (first second : String) :
    (notExist first).message ≠ (alreadyStopped second).message := by
  intro hmessage
  have hlast : ("the instance " ++ quoted first ++ " does not exist").toList.getLast? =
      ("the instance " ++ quoted second ++ " is already stopped").toList.getLast? :=
    congrArg (fun text : String => text.toList.getLast?) hmessage
  clear hmessage
  simp only [String.toList_append, List.getLast?_append] at hlast
  simp at hlast

theorem message_alreadyStopped (name : InstanceName) :
    (alreadyStopped name.text).message =
      "the instance \"" ++ name.text ++ "\" is already stopped" := by
  show "the instance " ++ quoted name.text ++ " is already stopped" = _
  rw [name.quoted_text]
  apply String.toList_inj.mp
  simp

theorem message_notExist (name : InstanceName) :
    (notExist name.text).message = "the instance \"" ++ name.text ++ "\" does not exist" := by
  show "the instance " ++ quoted name.text ++ " does not exist" = _
  rw [name.quoted_text]
  apply String.toList_inj.mp
  simp

theorem eq_of_message_alreadyStopped {first second : InstanceName}
    (hmessage : (alreadyStopped first.text).message = (alreadyStopped second.text).message) :
    first = second := by
  rw [message_alreadyStopped, message_alreadyStopped, String.append_left_inj,
    String.append_right_inj] at hmessage
  exact InstanceName.eq_of_text hmessage

theorem eq_of_message_notExist {first second : InstanceName}
    (hmessage : (notExist first.text).message = (notExist second.text).message) :
    first = second := by
  rw [message_notExist, message_notExist, String.append_left_inj,
    String.append_right_inj] at hmessage
  exact InstanceName.eq_of_text hmessage

end Error

end VmLifecycle
