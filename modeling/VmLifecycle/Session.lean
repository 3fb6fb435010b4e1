import VmLifecycle.Disk.Counting
import VmLifecycle.Disk.Manager
import VmLifecycle.Gateway.Script
import VmLifecycle.Gateway.Tool
import VmLifecycle.Stop

namespace VmLifecycle

/-!
A session keeps a probe, a stop, a disk manager and a gateway, and takes steps on them one by one.
-/

namespace Session

inductive Backend where
  | scripted
  | tool (tool : Tool)

inductive DiskChoice where
  | counting (disk : CountingDisk)
  | managed (name : String)

structure Setup where
  instanceName : InstanceName := .standard
  backend : Backend := .scripted
  disk : DiskChoice := .counting {}

structure Bench where
  script : Script.State := {}
  tool : Tool.State := {}
  detaches : Nat := 0

def Setup.gateway (setup : Setup) (host : Host) : Gateway Bench :=
  match setup.backend with
  | .scripted => Script.gateway.within (·.script) fun script bench => { bench with script }
  | .tool tool => (tool.gateway host).within (·.tool) fun tool bench => { bench with tool }

def Setup.diskManager (setup : Setup) (host : Host) : DiskManager Bench :=
  match setup.disk with
  | .counting disk =>
      Control.within disk.manager (·.detaches) fun detaches bench => { bench with detaches }
  | .managed name => Disk.detach (setup.gateway host) name

def Setup.diskName (setup : Setup) : String :=
  match setup.disk with
  | .counting _ => Config.standard.dataDisk
  | .managed name => name

inductive Step where
  | expect (args : List String) (response : Response)
  | build (args : List String)
  | output (index : Nat)
  | combinedOutput (index : Nat)
  | probe
  | stop (isForced : Bool)
  | detach
  | detachCount
  | invocations
  | callCount
  | isSatisfied
  | useHost (host : Host)
  | instanceNames
  | describe

inductive Answer where
  | done
  | count (n : Nat)
  | flag (value : Bool)
  | texts (items : List String)
  | argLists (lists : List (List String))
  | output (result : Except Error Bytes)
  | combined (result : CombinedOutput)
  | status (result : Except Error Status)
  | finished (result : Except Error Unit)

structure State where
  setup : Setup
  host : Host
  bench : Bench := {}
  handles : List Handle := []

structure Reply where
  answer : Answer
  records : List Record := []

def describe (setup : Setup) : List String :=
  [Probe.describe ⟨setup.instanceName⟩, VmLifecycle.Stop.describe ⟨setup.instanceName⟩,
    Disk.describeManager setup.diskName, "MockDiskManager \x7b .. \x7d",
    "MockCommandCreator \x7b .. \x7d"]

namespace State

def handle (state : State) (index : Nat) : Handle :=
  state.handles[index]?.getD 0

def control (state : State) (control : Control Bench α) (answer : Except Error α → Answer) :
    Reply × State :=
  let outcome := control state.bench
  (⟨answer outcome.result, Event.recordsOf outcome.trace⟩, { state with bench := outcome.state })

def step (state : State) : Step → Reply × State
  | .expect args response =>
      let script := state.bench.script.expect args response
      (⟨.done, []⟩, { state with bench := { state.bench with script } })
  | .build args =>
      let (handle, records, bench) :=
        (state.setup.gateway state.host).build args state.bench
      (⟨.count state.handles.length, records⟩,
        { state with bench, handles := state.handles ++ [handle] })
  | .output index =>
      let (result, records, bench) :=
        (state.setup.gateway state.host).output (state.handle index) state.bench
      (⟨.output result, records⟩, { state with bench })
  | .combinedOutput index =>
      let (result, records, bench) :=
        (state.setup.gateway state.host).combinedOutput (state.handle index) state.bench
      (⟨.combined result, records⟩, { state with bench })
  | .probe =>
      state.control (Probe.run ⟨state.setup.instanceName⟩ (state.setup.gateway state.host)) .status
  | .stop isForced =>
      state.control
        (VmLifecycle.Stop.run ⟨state.setup.instanceName⟩ (state.setup.gateway state.host)
          (state.setup.diskManager state.host) isForced)
        .finished
  | .detach => state.control (state.setup.diskManager state.host) .finished
  | .detachCount => (⟨.count state.bench.detaches, []⟩, state)
  | .invocations => (⟨.argLists state.bench.script.invocations, []⟩, state)
  | .callCount => (⟨.count state.bench.script.callCount, []⟩, state)
  | .isSatisfied => (⟨.flag state.bench.script.isSatisfied, []⟩, state)
  | .useHost host => (⟨.done, []⟩, { state with host })
  | .instanceNames =>
      let name := state.setup.instanceName.text
      (⟨.texts [name, name], []⟩, state)
  | .describe => (⟨.texts (Session.describe state.setup), []⟩, state)

end State

end Session

end VmLifecycle
