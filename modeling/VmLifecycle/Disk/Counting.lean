import VmLifecycle.Control

namespace VmLifecycle

/-!
A disk manager without disks: it counts the requests and answers them all alike.
-/

structure CountingDisk where
  failure : Option String := none

namespace CountingDisk

def requestRecord (calls : Nat) : Record where
  level := .debug
  message := "Mock: Detach user data disk"
  fields := [("calls", toString calls)]

def manager (disk : CountingDisk) : DiskManager Nat := fun calls =>
  { result :=
      match disk.failure with
      | none => .ok ()
      | some message => .error (.disk message)
    trace := [.logged (requestRecord (calls + 1))]
    state := calls + 1 }

end CountingDisk

end VmLifecycle
