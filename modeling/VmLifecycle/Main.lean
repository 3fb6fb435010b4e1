import Std.Time.DateTime
import VmLifecycle.Host.Document
import VmLifecycle.Run

namespace VmLifecycle

/-!
The program for a terminal. It is told on its standard input, as a document, what the tool does on
the host; without one no program can be started.
-/

namespace Main

def padded (width : Nat) (n : Int) : String :=
  let digits := toString n.toNat
  "".pushn '0' (width - digits.length) ++ digits

def stamp (moment : Std.Time.PlainDateTime) : String :=
  padded 4 moment.date.year.toInt ++ "-" ++ padded 2 moment.date.month.val ++ "-" ++
    padded 2 moment.date.day.val ++ "T" ++ padded 2 moment.time.hour.val ++ ":" ++
    padded 2 moment.time.minute.val ++ ":" ++ padded 2 moment.time.second.val ++ "." ++
    padded 6 (moment.time.nanosecond.val / 1000) ++ "Z"

def emptyHost : Host where
  start _ := .error .noEntry
  behaviour _ := .unknown

def usedVariables : List String :=
  [Config.instanceVariable, Config.toolVariable, Config.toolHomeVariable,
    Config.dataDiskVariable, Report.plainVariable, Report.colorVariable]

def environment : IO (String → Option Bytes) := do
  let entries ← usedVariables.mapM fun name => do
    return (name, (← IO.getEnv name).map Utf8.encode)
  return fun name => (entries.lookup name).join

end Main

end VmLifecycle

def main (arguments : List String) : IO UInt32 := do
  let input ← (← IO.getStdin).readToEnd
  let host := (VmLifecycle.Host.Document.read? input).getD VmLifecycle.Main.emptyHost
  let now ← Std.Time.Timestamp.now
  let moment := (Std.Time.DateTime.ofTimestamp now Std.Time.TimeZone.ZoneRules.UTC).date.get
  let environment ← VmLifecycle.Main.environment
  let report := VmLifecycle.run arguments environment host (VmLifecycle.Main.stamp moment)
  IO.print report.stdout
  IO.eprint report.stderr
  return report.exitCode.toUInt32
