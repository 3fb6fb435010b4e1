import VmLifecycle.Disk.Manager
import VmLifecycle.Gateway.Script
import VmLifecycle.Proofs.Control.Recorded
import VmLifecycle.Proofs.Probe.Classification

namespace VmLifecycle.Stop

/-- Runs one after another, each on the back ends as the one before left them and with a book of its
own. -/
def books (stop : Stop) (gateway : Gateway σ) (disk : DiskManager σ) :
    List Bool → σ → List (Bool × List Deed)
  | [], _ => []
  | isForced :: rest, state =>
      let outcome := stop.run gateway.recorded disk.recorded isForced (state, [])
      (isForced, outcome.state.2) :: stop.books gateway disk rest outcome.state.1

/-- A stop command with all that its run asked of the gateway and the disk manager, in order, and
what they gave. -/
inductive Licensed (name : InstanceName) : Bool → List String → List Deed → Prop
  | forced :
      Licensed name true ["stop", "--force", name.text]
        [.detached (.ok ()),
          .built handle ["stop", "--force", name.text], .gave handle (.combined combined)]
  | probed (hrunning : IsSurrounded "Running" bytes) :
      Licensed name false ["stop", name.text]
        [.built probe ["ls", "-f", "\x7b\x7b.Status\x7d\x7d", name.text],
          .gave probe (.output (.ok bytes)), .detached (.ok ()),
          .built handle ["stop", name.text], .gave handle (.combined combined)]

inductive Admitted (name : InstanceName) : Bool → List Deed → Prop
  | forced : Admitted name true []
  | probed (hrunning : IsSurrounded "Running" bytes) :
      Admitted name false
        [.built probe (Probe.args name), .gave probe (.output (.ok bytes))]

/-- The books that a run can leave: it ends with a probe that does not find the instance running,
with a detach that fails, or with the stop command. -/
inductive Booked (name : InstanceName) : Bool → List Deed → Prop
  | halted (hanswer : ∀ bytes, answer = .ok bytes → ¬IsSurrounded "Running" bytes) :
      Booked name false [.built probe (Probe.args name), .gave probe (.output answer)]
  | detachFailed (admitted : Admitted name isForced before) :
      Booked name isForced (before ++ [.detached (.error error)])
  | issued (admitted : Admitted name isForced before) :
      Booked name isForced
        (before ++ [.detached (.ok ()), .built handle (args name isForced),
          .gave handle (.combined combined)])

section Course

variable {name : InstanceName} {isForced : Bool} {given : Stages}
  {trace : List Event} {result : Except Error Unit} {book : List Deed}

theorem Entry.admitted (entry : Entry name isForced given trace)
    (kept : Kept Returned trace book) : Admitted name isForced book := by
  cases entry with
  | forced hforced =>
      rw [kept_nil_iff] at kept
      subst hforced kept
      exact .forced
  | probed hforced hprobe hrunning =>
      obtain ⟨probe, rfl⟩ : ∃ probe, book = _ := by simpa using kept
      subst hforced
      exact .probed (Probe.shown_eq_running_iff.mp hrunning)

theorem Finish.booked (finish : Finish name isForced given trace result)
    (kept : Kept Returned trace book) {before : List Deed}
    (admitted : Admitted name isForced before) : Booked name isForced (before ++ book) := by
  cases finish with
  | detachFailed hdetach =>
      obtain rfl : book = _ := by simpa using kept
      exact .detachFailed admitted
  | stopFailed hdetach hstatus =>
      obtain ⟨more, rfl, hcommand⟩ := kept_detached_iff.mp kept
      obtain ⟨handle, rfl⟩ : ∃ handle, more = _ := by simpa using hcommand
      exact .issued admitted
  | stopped hdetach hstatus =>
      obtain ⟨more, rfl, hcommand⟩ := kept_detached_iff.mp kept
      obtain ⟨handle, rfl⟩ : ∃ handle, more = _ := by simpa using hcommand
      exact .issued admitted

theorem Course.booked (course : Course name isForced given trace result)
    (kept : Kept Returned trace book) : Booked name isForced book := by
  cases course with
  | probeFailed hforced hprobe =>
      obtain ⟨probe, rfl⟩ : ∃ probe, book = _ := by simpa using kept
      subst hforced
      exact .halted nofun
  | refused hforced hprobe hrefusal =>
      obtain ⟨probe, rfl⟩ : ∃ probe, book = _ := by simpa using kept
      subst hforced
      refine .halted ?_
      intro bytes hbytes surrounded
      cases hbytes
      rw [Probe.shown_eq_running_iff.mpr surrounded] at hrefusal
      cases hrefusal
  | entered entry finish =>
      obtain ⟨before, after, rfl, hbefore, hafter⟩ := kept.exists_of_append
      exact finish.booked hafter (entry.admitted hbefore)

end Course

theorem run_booked (stop : Stop) (gateway : Gateway σ) (disk : DiskManager σ) (isForced : Bool)
    (state : σ) :
    Booked stop.instanceName isForced
      (stop.run gateway.recorded disk.recorded isForced (state, [])).state.2 :=
  (run_course stop gateway disk isForced state).booked
    ((stop.run_recorded gateway disk isForced).kept state)

theorem booked_of_mem_books {stop : Stop} {gateway : Gateway σ} {disk : DiskManager σ}
    {modes : List Bool} {state : σ} {isForced : Bool} {book : List Deed}
    (hrun : (isForced, book) ∈ stop.books gateway disk modes state) :
    Booked stop.instanceName isForced book := by
  induction modes generalizing state with
  | nil => cases hrun
  | cons mode rest ih =>
      rcases List.mem_cons.mp hrun with hfirst | hlater
      · cases hfirst
        exact stop.run_booked gateway disk isForced state
      · exact ih hlater

section Booked

variable {name : InstanceName} {isForced : Bool} {command : List String} {book : List Deed}

theorem Admitted.lists_eq (admitted : Admitted name isForced book) :
    Deed.lists book = if isForced then [] else [Probe.args name] := by
  cases admitted with
  | forced => rfl
  | probed hrunning => rfl

theorem Booked.licensed (booked : Booked name isForced book) (hcommand : command ∈ Deed.lists book)
    (hstop : command.head? = some "stop") : Licensed name isForced command book := by
  have hprobe : command ≠ Probe.args name := by
    intro hsame
    simp [hsame, Probe.args] at hstop
  cases booked with
  | halted hanswer => simp [hprobe] at hcommand
  | detachFailed admitted =>
      cases isForced <;> simp [admitted.lists_eq, hprobe] at hcommand
  | issued admitted =>
      obtain rfl : command = args name isForced := by
        cases isForced <;> simpa [admitted.lists_eq, hprobe] using hcommand
      cases admitted with
      | forced => exact .forced
      | probed hrunning => exact .probed hrunning

theorem Admitted.running_of_probe (admitted : Admitted name isForced book) {handle : Handle}
    {answer : Except Error Bytes} (hprobe : .gave handle (.output answer) ∈ book) :
    ∃ bytes, answer = .ok bytes ∧ IsSurrounded "Running" bytes := by
  cases admitted with
  | forced => simp at hprobe
  | probed hrunning =>
      obtain ⟨-, rfl⟩ : handle = _ ∧ answer = _ := by simpa using hprobe
      exact ⟨_, rfl, hrunning⟩

theorem Booked.of_probe (booked : Booked name isForced book) {handle : Handle}
    {answer : Except Error Bytes} (hprobe : .gave handle (.output answer) ∈ book)
    (hanswer : ∀ bytes, answer = .ok bytes → ¬IsSurrounded "Running" bytes) :
    book = [.built handle (Probe.args name), .gave handle (.output answer)] := by
  cases booked with
  | halted hother =>
      obtain ⟨rfl, rfl⟩ : handle = _ ∧ answer = _ := by simpa using hprobe
      rfl
  | detachFailed admitted =>
      obtain ⟨bytes, hbytes, hrunning⟩ := admitted.running_of_probe (by simpa using hprobe)
      exact absurd hrunning (hanswer bytes hbytes)
  | issued admitted =>
      obtain ⟨bytes, hbytes, hrunning⟩ := admitted.running_of_probe (by simpa using hprobe)
      exact absurd hrunning (hanswer bytes hbytes)

theorem Booked.no_stop_of_detach_failed (booked : Booked name isForced book) {error : Error}
    (hdetach : .detached (.error error) ∈ book) (hcommand : command ∈ Deed.lists book) :
    command.head? ≠ some "stop" := by
  intro hstop
  have licensed := booked.licensed hcommand hstop
  clear booked hcommand
  cases licensed with
  | forced => simp at hdetach
  | probed hrunning => simp at hdetach

end Booked

/-- In every sequence of runs, over every gateway and disk manager, each stop command is licensed by
the book of its own run; a run whose probe does not find the instance running asks for nothing
more, and a run whose detach fails builds no stop command. -/
theorem stop_commands_licensed (stop : Stop) (gateway : Gateway σ)
    (disk : DiskManager σ) (modes : List Bool) (state : σ) {isForced : Bool} {book : List Deed}
    (hrun : (isForced, book) ∈ stop.books gateway disk modes state) :
    (∀ command ∈ Deed.lists book, command.head? = some "stop" →
      Licensed stop.instanceName isForced command book) ∧
    (∀ handle answer, .gave handle (.output answer) ∈ book →
      (∀ bytes, answer = .ok bytes → ¬IsSurrounded "Running" bytes) →
      book =
        [.built handle ["ls", "-f", "\x7b\x7b.Status\x7d\x7d", stop.instanceName.text],
          .gave handle (.output answer)]) ∧
    (∀ error, .detached (.error error) ∈ book →
      ∀ command ∈ Deed.lists book, command.head? ≠ some "stop") := by
  have booked := booked_of_mem_books hrun
  refine ⟨?_, ?_, ?_⟩
  · intro command hcommand hstop
    exact booked.licensed hcommand hstop
  · intro handle answer hprobe hanswer
    exact booked.of_probe hprobe hanswer
  · intro error hdetach command hcommand
    exact booked.no_stop_of_detach_failed hdetach hcommand

def twoStopsScript : Script.State where
  expected :=
    [⟨Probe.args .standard, .output (.ok (Utf8.encode "Running\n"))⟩,
      ⟨Disk.listArgs "nimbus", .output (.ok [])⟩,
      ⟨["stop", "nimbus"], .combined (.success [])⟩,
      ⟨Probe.args .standard, .output (.ok (Utf8.encode "Stopped\n"))⟩]

theorem two_stops_licensed :
    ∃ first second,
      books ⟨.standard⟩ Script.gateway (Disk.detach Script.gateway "nimbus")
        [false, false] twoStopsScript = [(false, first), (false, second)] ∧
      ["stop", "nimbus"] ∈ Deed.lists first ∧
      Licensed .standard false ["stop", "nimbus"] first ∧
      Deed.lists second = [["ls", "-f", "\x7b\x7b.Status\x7d\x7d", "nimbus"]] := by
  have hlicensed := stop_commands_licensed ⟨.standard⟩ Script.gateway
    (Disk.detach Script.gateway "nimbus") [false, false] twoStopsScript List.mem_cons_self
  have hstop : ["stop", "nimbus"] ∈ Deed.lists (run ⟨.standard⟩ Script.gateway.recorded
      (DiskManager.recorded (Disk.detach Script.gateway "nimbus")) false
      (twoStopsScript, [])).state.2 := by
    decide +kernel
  exact ⟨_, _, rfl, hstop, hlicensed.1 _ hstop rfl, by decide +kernel⟩

end VmLifecycle.Stop
