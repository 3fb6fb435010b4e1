import VmLifecycle.Control
import VmLifecycle.Disk.Listing

namespace VmLifecycle

namespace Disk

def listArgs (disk : String) : List String :=
  ["disk", "ls", disk, "--json"]

def unlockArgs (disk : String) : List String :=
  ["disk", "unlock", disk]

def missingRecord (disk : String) : Record where
  level := .debug
  message := "User data disk not found, nothing to detach"
  fields := [("disk", disk)]

def unheldRecord (disk : Disk) : Record where
  level := .debug
  message := "User data disk is not attached"
  fields := [("disk", disk.name)]

def detachingRecord (disk : Disk) : Record where
  level := .info
  message := "Detaching user data disk"
  fields := [("disk", disk.name), ("instance", disk.holder)]

def look (gateway : Gateway σ) (name : String) : Control σ (Option Disk) := do
  let output ← Control.output gateway (listArgs name)
  match findInListing output name with
  | .ok found => pure found
  | .error error => Control.fail (.document error)

def unlock (gateway : Gateway σ) (name : String) : Control σ Unit := do
  let combined ← Control.combinedOutput gateway (unlockArgs name)
  match combined.status with
  | .ok () => pure ()
  | .error error =>
      Control.fail (.disk
        ("failed to detach " ++ name ++ ": " ++ error.message ++ ": " ++ trim combined.text))

def detach (gateway : Gateway σ) (name : String) : Control σ Unit := do
  match ← look gateway name with
  | none => Control.log (missingRecord name)
  | some disk =>
      if disk.holder.isEmpty then
        Control.log (unheldRecord disk)
      else do
        Control.log (detachingRecord disk)
        unlock gateway name

def describeManager (disk : String) : String :=
  "LimaDiskManager \x7b disk: " ++ quoted disk ++ ", .. \x7d"

end Disk

end VmLifecycle
