import VmLifecycle.Instance
import VmLifecycle.Log
import VmLifecycle.PathText
import VmLifecycle.Text.Utf8

namespace VmLifecycle

structure Config where
  instanceName : InstanceName
  tool : PathText
  toolHome : Option PathText
  dataDisk : String
  deriving DecidableEq, Repr

namespace Config

def standard : Config where
  instanceName := .standard
  tool := ⟨"limactl"⟩
  toolHome := none
  dataDisk := "nimbus"

def withInstance (config : Config) (name : InstanceName) : Config :=
  { config with instanceName := name }

def withTool (config : Config) (tool : String) : Config :=
  { config with tool := ⟨tool⟩ }

def withToolHome (config : Config) (home : String) : Config :=
  { config with toolHome := some ⟨home⟩ }

def withDataDisk (config : Config) (disk : String) : Config :=
  { config with dataDisk := disk }

/-- Equality up to the spelling of the two paths. -/
def sameAs (a b : Config) : Bool :=
  let sameHome :=
    match a.toolHome, b.toolHome with
    | none, none => true
    | some a, some b => a.sameAs b
    | _, _ => false
  a.instanceName == b.instanceName && a.tool.sameAs b.tool && sameHome &&
    a.dataDisk == b.dataDisk

def instanceVariable : String := "NIMBUS_INSTANCE"

def toolVariable : String := "NIMBUS_LIMACTL"

def toolHomeVariable : String := "LIMA_HOME"

def dataDiskVariable : String := "NIMBUS_USER_DATA_DISK"

/-- An empty variable counts as unset. -/
def setting? (lookup : String → Option String) (name : String) : Option String :=
  (lookup name).filter fun value => !value.isEmpty

def lookupInstance (lookup : String → Option String) : Except NameFault InstanceName :=
  match setting? lookup instanceVariable with
  | none => .ok standard.instanceName
  | some text => InstanceName.parse text

def ofLookup (lookup : String → Option String) : Except NameFault Config :=
  match lookupInstance lookup with
  | .error fault => .error fault
  | .ok name =>
      .ok
        { instanceName := name
          tool := ((setting? lookup toolVariable).map PathText.mk).getD standard.tool
          toolHome := (setting? lookup toolHomeVariable).map PathText.mk
          dataDisk := (setting? lookup dataDiskVariable).getD standard.dataDisk }

def loadedRecord (config : Config) : Record where
  level := .debug
  message := "Loaded VM configuration"
  fields := [("instance", config.instanceName.text), ("limactl", config.tool.text)]

/-- Loading leaves a record when it succeeds. -/
def load (lookup : String → Option String) : Except Error Config × List Record :=
  match ofLookup lookup with
  | .error fault => (.error fault.toError, [])
  | .ok config => (.ok config, [config.loadedRecord])

/-- Variables as a process has them: a value that is no text counts as unset. -/
def textLookup (environment : String → Option Bytes) (name : String) : Option String :=
  (environment name).bind Utf8.decode?

end Config

end VmLifecycle
