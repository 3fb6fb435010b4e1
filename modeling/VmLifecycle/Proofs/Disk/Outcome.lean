import VmLifecycle.Gateway.Script
import VmLifecycle.Proofs.Control.Recorded
import VmLifecycle.Proofs.Disk.Course
import VmLifecycle.Proofs.Disk.Format

namespace VmLifecycle.Disk

def notice (name holder : String) : Record where
  level := .info
  message := "Detaching user data disk"
  fields := [("disk", name), ("instance", holder)]

def notices (inside : List Event) : List Record :=
  (Event.ownRecords inside).filter (·.message = "Detaching user data disk")

/-- What follows from what the listing tells of the disk: the commands behind the listing with what
they give, the notices and the result. -/
inductive Follows (name : String) :
    Except Json.Error (Option Disk) → List Deed → List Record → Except Error Unit → Prop
  | malformed : Follows name (.error cause) [] [] (.error (.document cause))
  | missing : Follows name (.ok none) [] [] (.ok ())
  | unheld (hholder : disk.holder = "") : Follows name (.ok (some disk)) [] [] (.ok ())
  | unlocked (hholder : disk.holder ≠ "") (hstatus : combined.status = .ok ()) :
      Follows name (.ok (some disk))
        [.built handle ["disk", "unlock", name], .gave handle (.combined combined)]
        [notice name disk.holder] (.ok ())
  | unlockFailed (hholder : disk.holder ≠ "") (hstatus : combined.status = .error error)
      (hshown : IsCore (Utf8.decodeLossyChars combined.output) shown.toList) :
      Follows name (.ok (some disk))
        [.built handle ["disk", "unlock", name], .gave handle (.combined combined)]
        [notice name disk.holder]
        (.error (.disk ("failed to detach " ++ name ++ ": " ++ error.message ++ ": " ++ shown)))

theorem isCore_text (combined : CombinedOutput) :
    IsCore (Utf8.decodeLossyChars combined.output) (trim combined.text).toList := by
  rw [trim, CombinedOutput.text, Utf8.decodeLossy, String.toList_ofList, String.toList_ofList]
  exact isCore_trimChars _

section Course

variable {name : String} {given : Stages} {inside : List Event} {result : Except Error Unit}
  {book : List Deed}

theorem name_eq_of_find {bytes : Bytes} {disk : Disk}
    (hfind : findInListing bytes name = .ok (some disk)) : disk.name = name := by
  have htells := tells_find name (entryLines bytes)
  rw [← findInListing, hfind] at htells
  exact htells.name_eq

theorem Course.of_listing_failed (course : Course name given inside result)
    (kept : Kept Opened inside book) {error : Error} (hlisting : given.listing = .error error) :
    ∃ handle, book = [.built handle (listArgs name), .gave handle (.output (.error error))] ∧
      notices inside = [] ∧ result = .error error := by
  cases course with
  | listingFailed hfailed =>
      cases hlisting.symm.trans hfailed
      obtain ⟨handle, rfl⟩ : ∃ handle, book = _ := by simpa using kept
      exact ⟨handle, rfl, rfl, rfl⟩
  | _ hbytes => simp [hlisting] at hbytes

theorem Course.of_listed (course : Course name given inside result)
    (kept : Kept Opened inside book) {bytes : Bytes} (hlisting : given.listing = .ok bytes) :
    ∃ handle behind,
      book = .built handle (listArgs name) :: .gave handle (.output (.ok bytes)) :: behind ∧
        Follows name (findInListing bytes name) behind (notices inside) result := by
  cases course with
  | listingFailed hfailed => simp [hlisting] at hfailed
  | listingMalformed hlisted hfind =>
      cases hlisting.symm.trans hlisted
      obtain ⟨handle, rfl⟩ : ∃ handle, book = _ := by simpa using kept
      exact ⟨handle, [], rfl, by rw [hfind]; exact .malformed⟩
  | missing hlisted hfind =>
      cases hlisting.symm.trans hlisted
      obtain ⟨handle, rfl⟩ : ∃ handle, book = _ := by simpa using kept
      exact ⟨handle, [], rfl, by rw [hfind]; exact .missing⟩
  | unheld hlisted hfind hholder =>
      cases hlisting.symm.trans hlisted
      obtain ⟨handle, rfl⟩ : ∃ handle, book = _ := by simpa using kept
      exact ⟨handle, [], rfl, by rw [hfind]; exact .unheld hholder⟩
  | unlockFailed hlisted hfind hholder hstatus =>
      cases hlisting.symm.trans hlisted
      obtain ⟨handle, behind, rfl, hbehind⟩ := kept_ran_iff.mp kept
      obtain ⟨unlock, rfl⟩ : ∃ unlock, behind = _ := by simpa using hbehind
      obtain rfl := name_eq_of_find hfind
      exact ⟨handle, _, rfl, by
        rw [hfind]; exact .unlockFailed hholder hstatus (isCore_text given.unlock)⟩
  | unlocked hlisted hfind hholder hstatus =>
      cases hlisting.symm.trans hlisted
      obtain ⟨handle, behind, rfl, hbehind⟩ := kept_ran_iff.mp kept
      obtain ⟨unlock, rfl⟩ : ∃ unlock, behind = _ := by simpa using hbehind
      obtain rfl := name_eq_of_find hfind
      exact ⟨handle, _, rfl, by rw [hfind]; exact .unlocked hholder hstatus⟩

end Course

/-- A detach lists its disk once and first. It ends there with the error of the listing command or
of the first malformed line, and with success when no entry is of the disk or the first such entry
has no holder. For a holder it gives notice, unlocks the disk once and ends as that command does.
What the listing tells is said of its bytes: of all of them line by line, and of written ones by
what was written. -/
theorem detach_follows_listing (gateway : Gateway σ) (name : String) (state : σ) :
    let listing := (gateway.outputOf ["disk", "ls", name, "--json"] state).1
    let outcome := detach gateway.recorded name (state, [])
    ∃ handle behind,
      outcome.state.2 =
        .built handle ["disk", "ls", name, "--json"] :: .gave handle (.output listing) :: behind ∧
      (∀ error, listing = .error error →
        behind = [] ∧ notices outcome.trace = [] ∧ outcome.result = .error error) ∧
      ∀ bytes, listing = .ok bytes →
        (∃ told, Told name bytes told ∧
          Follows name told behind (notices outcome.trace) outcome.result) ∧
        ∀ told, Listed name bytes told →
          Follows name told behind (notices outcome.trace) outcome.result := by
  intro listing outcome
  obtain ⟨book, hkept, houtcome⟩ := (detach_uniform name).recorded gateway state []
  have course : Course name (stages gateway name state) _ _ := detach_course gateway name state
  simp only [outcome, houtcome, List.nil_append]
  cases hlisting : listing with
  | error error =>
      obtain ⟨handle, rfl, hnotices, hresult⟩ := course.of_listing_failed hkept hlisting
      refine ⟨handle, [], rfl, ?_, nofun⟩
      intro other hother
      cases hother
      exact ⟨rfl, hnotices, hresult⟩
  | ok bytes =>
      obtain ⟨handle, behind, rfl, follows⟩ := course.of_listed hkept hlisting
      refine ⟨handle, behind, rfl, nofun, ?_⟩
      intro other hother
      cases hother
      refine ⟨⟨_, told_findInListing bytes name, follows⟩, ?_⟩
      intro told listed
      rwa [listed.find_eq] at follows

def heldLines : List Char :=
  write { name := "spare" } ++ ['\n'] ++ (tagged ++ ['\r', '\n'] ++ [])

def heldScript : Script.State where
  expected :=
    [⟨["disk", "ls", "data", "--json"], .output (.ok (Utf8.encodeChars heldLines ++ [0x7b]))⟩,
      ⟨["disk", "unlock", "data"], .combined (.success [])⟩]

theorem held_disk_unlocked :
    let outcome := detach Script.gateway.recorded "data" (heldScript, [])
    Listed "data" (Utf8.encodeChars heldLines ++ [0x7b])
        (.ok (some { name := "data", holder := "dev" })) ∧
      ∃ probe handle combined,
        outcome.state.2 =
          [.built probe ["disk", "ls", "data", "--json"],
            .gave probe (.output (.ok (Utf8.encodeChars heldLines ++ [0x7b]))),
            .built handle ["disk", "unlock", "data"], .gave handle (.combined combined)] ∧
        notices outcome.trace = [notice "data" "dev"] ∧ outcome.result = .ok () := by
  intro outcome
  have hspare := line_of_isWritten (isWritten_write { name := "spare" }) (feed_not_mem_write _)
  have hheld := line_of_isWritten tagged_isWritten (by decide)
  have hlines : Lines [{ name := "spare" }, { name := "data", holder := "dev" }] heldLines :=
    .cons hspare (by decide) (.cons hheld (by decide) .nil)
  have listed : Listed "data" (Utf8.encodeChars heldLines ++ [0x7b])
      (.ok (some { name := "data", holder := "dev" })) := .found hlines (by decide) [0x7b]
  obtain ⟨probe, behind, hbook, -, hlisted⟩ :=
    detach_follows_listing Script.gateway "data" heldScript
  have follows := (hlisted _ rfl).2 _ listed
  have hends : outcome.result.isOk = true := by decide +kernel
  refine ⟨listed, ?_⟩
  rw [show outcome.state.2 = _ from hbook]
  generalize notices outcome.trace = told, outcome.result = result at follows hends ⊢
  cases follows with
  | unheld hholder => exact absurd hholder (by decide)
  | unlocked hholder hstatus => exact ⟨probe, _, _, rfl, rfl, rfl⟩
  | unlockFailed hholder hstatus hshown => cases hends

end VmLifecycle.Disk
