import VmLifecycle.Control
import VmLifecycle.Instance
import VmLifecycle.Status

namespace VmLifecycle

structure Probe where
  instanceName : InstanceName

namespace Probe

/-- The template by which the tool lists the status column alone. -/
def statusFormat : String := "\x7b\x7b.Status\x7d\x7d"

def args (name : InstanceName) : List String :=
  ["ls", "-f", statusFormat, name.text]

def statusRecord (output : String) : Record where
  level := .debug
  message := "Status of virtual machine: " ++ output

/-- Every run asks the tool anew; what it prints is classified without the blanks around it. -/
def run (probe : Probe) (gateway : Gateway σ) : Control σ Status := do
  let bytes ← Control.output gateway (args probe.instanceName)
  let output := trim (Utf8.decodeLossy bytes)
  Control.log (statusRecord output)
  return Status.classify output

def describe (probe : Probe) : String :=
  "StatusProber \x7b instance: " ++ probe.instanceName.describe ++ ", .. \x7d"

end Probe

end VmLifecycle
