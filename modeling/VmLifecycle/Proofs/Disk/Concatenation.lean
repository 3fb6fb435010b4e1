import VmLifecycle.Proofs.Disk.Listing
import VmLifecycle.Proofs.Text.Lines
import VmLifecycle.Proofs.Text.Lossy

namespace VmLifecycle.Disk

theorem filter_lines_append_feed (before after : List Char) :
    ((lines (before ++ '\n' :: after)).map trimChars).filter (!·.isEmpty) =
      ((lines before).map trimChars).filter (!·.isEmpty) ++
        ((lines after).map trimChars).filter (!·.isEmpty) := by
  rw [lines_append_feed, List.map_append, List.filter_append]
  rcases lines_append_last_feed before with hsame | hempty
  · rw [hsame]
  · have hblank : trimChars [] = [] := trimChars_of_areBlanks areBlanks_nil
    rw [hempty, List.map_append, List.filter_append]
    simp [hblank]

theorem entryLines_append (first second : Bytes) :
    entryLines (first ++ 0x0a :: second) = entryLines first ++ entryLines second := by
  have hfeed : Char.ofNat (0x0a : UInt8).toNat = '\n' := rfl
  rw [entryLines, Utf8.decodeLossyChars_append_ascii (by decide), hfeed,
    filter_lines_append_feed, entryLines, entryLines]

/-- Of two listings joined at a line feed, the second is searched exactly when the first is well
formed as far as it is read and does not list the disk. -/
theorem findInListing_append_feed (first second : Bytes) (name : String) :
    findInListing (first ++ 0x0a :: second) name =
      match findInListing first name with
      | .error error => .error error
      | .ok (some disk) => .ok (some disk)
      | .ok none => findInListing second name := by
  rw [findInListing, entryLines_append, find_append]
  rfl

theorem feed_not_mem_decode {line : Bytes} (hline : 0x0a ∉ line) :
    '\n' ∉ Utf8.decodeLossyChars line :=
  fun hmem => hline (Utf8.mem_of_mem_decodeLossyChars (by decide) hmem)

theorem entryLines_of_line {line : Bytes} (hline : '\n' ∉ Utf8.decodeLossyChars line) :
    entryLines line = [trimChars (Utf8.decodeLossyChars line)].filter (!·.isEmpty) := by
  rw [entryLines, lines_of_line hline]
  split
  · next hempty =>
      have hblank : trimChars [] = [] := trimChars_of_areBlanks areBlanks_nil
      simp [hempty, hblank]
  · rfl

/-- What rows of bytes hold, those of them that hold more than white space. -/
inductive Entries : List Bytes → List (List Char) → Prop
  | nil : Entries [] []
  | blank (hcore : IsCore (Utf8.decodeLossyChars row) []) (more : Entries rows entries) :
      Entries (row :: rows) entries
  | entry (hcore : IsCore (Utf8.decodeLossyChars row) core) (hsome : core ≠ [])
      (more : Entries rows entries) : Entries (row :: rows) (core :: entries)

theorem Entries.cons_row {row : Bytes} {rows : List Bytes} {entries : List (List Char)}
    (hrow : 0x0a ∉ row) (more : Entries rows entries) :
    Entries (row :: rows) (entryLines row ++ entries) := by
  have hcore := isCore_trimChars (Utf8.decodeLossyChars row)
  rw [entryLines_of_line (feed_not_mem_decode hrow)]
  by_cases hblank : trimChars (Utf8.decodeLossyChars row) = []
  · rw [hblank] at hcore ⊢
    exact .blank hcore more
  · rw [List.filter_cons_of_pos (by simpa using hblank)]
    exact .entry hcore hblank more

theorem entries_of_rows {rows : List Bytes} (hrows : ∀ row ∈ rows, 0x0a ∉ row) :
    Entries rows (entryLines ([0x0a].intercalate rows)) := by
  induction rows with
  | nil =>
      have hnone : entryLines [] = [] := by simp [entryLines, Utf8.decodeLossyChars, lines]
      exact hnone ▸ .nil
  | cons row rest ih =>
      obtain ⟨hrow, hrest⟩ := List.forall_mem_cons.mp hrows
      cases rest with
      | nil => simpa using Entries.nil.cons_row hrow
      | cons next rest =>
          rw [List.intercalate_cons_cons, List.append_assoc, List.singleton_append,
            entryLines_append]
          exact (ih hrest).cons_row hrow

theorem not_mem_of_mem_splitOn {sep : UInt8} {bytes row : Bytes} (hrow : row ∈ bytes.splitOn sep) :
    sep ∉ row := by
  induction bytes generalizing row with
  | nil =>
      obtain rfl : row = [] := by simpa using hrow
      exact List.not_mem_nil
  | cons b rest ih =>
      rw [List.splitOn_cons_eq_if_modifyHead] at hrow
      split at hrow
      · rcases List.mem_cons.mp hrow with rfl | hlater
        · exact List.not_mem_nil
        · exact ih hlater
      · next hb =>
          cases hrest : rest.splitOn sep with
          | nil => simp [hrest] at hrow
          | cons first more =>
              rw [hrest, List.modifyHead_cons] at hrow
              rcases List.mem_cons.mp hrow with rfl | hlater
              · have hfirst : sep ∉ first := ih (hrest ▸ List.mem_cons_self)
                have hother : sep ≠ b := by
                  intro hsame
                  exact hb (beq_iff_eq.mpr hsame.symm)
                exact List.not_mem_cons_of_ne_of_not_mem hother hfirst
              · exact ih (hrest ▸ List.mem_cons_of_mem first hlater)

/-- What a listing tells of a disk: its rows are the bytes between line feeds. -/
inductive Told (name : String) : Bytes → Except Json.Error (Option Disk) → Prop
  | listing (hrows : ∀ row ∈ rows, 0x0a ∉ row) (entries : Entries rows shown)
      (tells : Tells name shown told) : Told name ([0x0a].intercalate rows) told

theorem told_findInListing (bytes : Bytes) (name : String) :
    Told name bytes (findInListing bytes name) := by
  have hrows : ∀ row ∈ bytes.splitOn 0x0a, 0x0a ∉ row := fun row => not_mem_of_mem_splitOn
  have htold := Told.listing hrows (entries_of_rows hrows) (tells_find name _)
  rwa [List.intercalate_splitOn] at htold

end VmLifecycle.Disk
