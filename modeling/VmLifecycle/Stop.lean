import VmLifecycle.Probe

namespace VmLifecycle

/-- Stops one instance. The data disk is detached before every stop, and unless the stop is forced
the instance has to be running. -/
structure Stop where
  instanceName : InstanceName

namespace Stop

def args (name : InstanceName) (isForced : Bool) : List String :=
  if isForced then ["stop", "--force", name.text] else ["stop", name.text]

def stoppingRecord (isForced : Bool) : Record where
  level := .info
  message :=
    if isForced then "Forcibly stopping Nimbus virtual machine..."
    else "Stopping existing Nimbus virtual machine..."

def stoppedRecord : Record where
  level := .info
  message := "Nimbus virtual machine stopped successfully"

def failedRecord (output : String) : Record where
  level := .error
  message := "Nimbus virtual machine failed to stop, debug logs:\n" ++ output

def permit (name : InstanceName) : Status → Control σ Unit
  | .running => pure ()
  | .stopped => Control.fail (.alreadyStopped name.text)
  | .nonexistent => Control.fail (.notExist name.text)
  | .unrecognized => Control.fail .unrecognizedStatus

/-- Runs the stop command; when it fails, all it wrote is logged once. -/
def issue (gateway : Gateway σ) (args : List String) : Control σ Unit := do
  let combined ← Control.combinedOutput gateway args
  match combined.status with
  | .ok () => pure ()
  | .error error =>
      Control.log (failedRecord combined.text)
      Control.fail error

def detachAndStop (stop : Stop) (gateway : Gateway σ) (disk : DiskManager σ) (isForced : Bool) :
    Control σ Unit := do
  disk.request
  Control.log (stoppingRecord isForced)
  issue gateway (args stop.instanceName isForced)
  Control.log stoppedRecord

def run (stop : Stop) (gateway : Gateway σ) (disk : DiskManager σ) (isForced : Bool) :
    Control σ Unit :=
  if isForced then stop.detachAndStop gateway disk true
  else do
    let status ← Probe.run ⟨stop.instanceName⟩ gateway
    permit stop.instanceName status
    stop.detachAndStop gateway disk false

def describe (stop : Stop) : String :=
  "StopAction \x7b instance: " ++ stop.instanceName.describe ++ ", .. \x7d"

end Stop

end VmLifecycle
