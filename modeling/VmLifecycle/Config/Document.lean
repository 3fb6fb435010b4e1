import VmLifecycle.Config

namespace VmLifecycle.Config

structure Draft where
  instanceName : Option InstanceName := none
  tool : Option String := none
  toolHome : Option (Option String) := none
  dataDisk : Option String := none

namespace Draft

def instanceField : Json.Field Draft :=
  .of "instance" InstanceName.scan (·.instanceName) fun draft name =>
    { draft with instanceName := some name }

def toolField : Json.Field Draft :=
  .of "limactl" (Json.text "path string") (·.tool) fun draft tool => { draft with tool := some tool }

def toolHomeField : Json.Field Draft :=
  .of "lima_home" (Json.text? "path string") (·.toolHome) fun draft home =>
    { draft with toolHome := some home }

def dataDiskField : Json.Field Draft :=
  .of "user_data_disk" (Json.text "a string") (·.dataDisk) fun draft disk =>
    { draft with dataDisk := some disk }

def shape : Json.Shape Draft where
  title := "struct VmConfig"
  fields := [instanceField, toolField, toolHomeField, dataDiskField]
  short length := some (.shortList length "struct VmConfig with 4 elements")

/-- Only the home of the tool may stay away. -/
def finish (draft : Draft) : Except Json.Fault Config :=
  match draft.instanceName, draft.tool, draft.dataDisk with
  | none, _, _ => .error (.missingField instanceField.name)
  | some _, none, _ => .error (.missingField toolField.name)
  | some _, some _, none => .error (.missingField dataDiskField.name)
  | some name, some tool, some disk =>
      .ok
        { instanceName := name
          tool := ⟨tool⟩
          toolHome := (draft.toolHome.getD none).map PathText.mk
          dataDisk := disk }

end Draft

def scan : Json.Scan Config :=
  Draft.shape.scan {} Draft.finish

def read (text : String) : Except Json.Error Config :=
  Json.read scan text

def write (config : Config) : String :=
  String.ofList (Json.writeObject
    [("instance", Json.writeString config.instanceName.text),
      ("limactl", Json.writeString config.tool.text),
      ("lima_home", Json.writeText? (config.toolHome.map (·.text))),
      ("user_data_disk", Json.writeString config.dataDisk)])

end VmLifecycle.Config
