import VmLifecycle.Proofs.Disk.Concatenation
import VmLifecycle.Proofs.Disk.Written

namespace VmLifecycle.Disk

/-- A line, with the disk that it shows unless it is blank. -/
inductive Line : List Disk → List Char → Prop
  | blank (hblank : AreBlanks cs) (hline : '\n' ∉ cs) : Line [] cs
  | entry (hwritten : IsWritten disk cs) (hbefore : AreBlanks before) (hafter : AreBlanks after)
      (hline : '\n' ∉ before ++ cs ++ after) : Line [disk] (before ++ cs ++ after)

inductive Lines : List Disk → List Char → Prop
  | nil : Lines [] []
  | cons (first : Line shown cs) (hending : ending ∈ [['\n'], ['\r', '\n']])
      (more : Lines disks text) : Lines (shown ++ disks) (cs ++ ending ++ text)

/-- A line of bytes that is neither blank nor a disk, with the error that it gives by itself. -/
structure IsMalformed (line : Bytes) (cause : Json.Error) : Prop where
  isLine : 0x0a ∉ line
  isEntry : trimChars (Utf8.decodeLossyChars line) ≠ []
  isRefused : read (String.ofList (trimChars (Utf8.decodeLossyChars line))) = .error cause

def Shows (entries : List (List Char)) (disks : List Disk) : Prop :=
  entries.map (fun entry => read (String.ofList entry)) = disks.map .ok

section Shows

variable {entries more : List (List Char)} {disks others : List Disk}

theorem Shows.append (first : Shows entries disks) (second : Shows more others) :
    Shows (entries ++ more) (disks ++ others) := by
  rw [Shows, List.map_append, List.map_append, first, second]

theorem Shows.find_append (hshows : Shows entries disks) (name : String)
    (rest : List (List Char)) :
    find name (entries ++ rest) =
      match disks.find? (·.name = name) with
      | some disk => .ok (some disk)
      | none => find name rest := by
  induction entries generalizing disks with
  | nil =>
      cases disks with
      | nil => rfl
      | cons disk disks => simp [Shows] at hshows
  | cons entry entries ih =>
      cases disks with
      | nil => simp [Shows] at hshows
      | cons disk disks =>
          obtain ⟨hread, hmore⟩ :
              read (String.ofList entry) = .ok disk ∧ Shows entries disks :=
            List.cons_eq_cons.mp hshows
          rw [List.cons_append, find, hread]
          by_cases hname : disk.name = name
          · simp [hname]
          · simp [hname, ih hmore]

end Shows

section Line

variable {shown disks : List Disk} {cs text : List Char}

theorem line_of_isWritten {disk : Disk} (hwritten : IsWritten disk cs) (hline : '\n' ∉ cs) :
    Line [disk] cs := by
  have hentry := Line.entry hwritten areBlanks_nil areBlanks_nil (by simpa using hline)
  simpa using hentry

theorem trimChars_of_isWritten {disk : Disk} (hwritten : IsWritten disk cs) :
    trimChars cs = cs ∧ cs ≠ [] := by
  cases hwritten with
  | object hobject hname hholder hmountPoint hothers =>
      cases hobject with
      | object hgap hleads hspaced =>
          exact ⟨trimChars_of_ends (by decide) (by decide) _, by simp⟩

theorem Line.feed_not_mem (line : Line shown cs) : '\n' ∉ cs := by
  cases line with
  | blank hblank hline => exact hline
  | entry hwritten hbefore hafter hline => exact hline

theorem Line.append_return (line : Line shown cs) : Line shown (cs ++ ['\r']) := by
  have hreturn : AreBlanks ['\r'] := by
    intro c hc
    rw [List.mem_singleton.mp hc]
    decide
  cases line with
  | blank hblank hline => exact .blank (hblank.append hreturn) (by simpa using hline)
  | entry hwritten hbefore hafter hline =>
      rw [List.append_assoc]
      exact .entry hwritten hbefore (hafter.append hreturn) (by simpa using hline)

theorem Line.shows (line : Line shown cs) : Shows (entryLines (Utf8.encodeChars cs)) shown := by
  have hdecode := Utf8.decodeLossyChars_encodeChars cs
  have hfeed := line.feed_not_mem
  rw [← hdecode] at hfeed
  rw [entryLines_of_line hfeed, hdecode]
  cases line with
  | blank hblank hline =>
      rw [trimChars_of_areBlanks hblank]
      rfl
  | @entry disk cs before after hwritten hbefore hafter hline =>
      obtain ⟨htrim, hsome⟩ := trimChars_of_isWritten hwritten
      rw [trimChars_append_right hafter, trimChars_append_left hbefore, htrim]
      simp [Shows, hsome, read_of_isWritten hwritten]

theorem encodeChars_append_feed (before after : List Char) :
    Utf8.encodeChars (before ++ '\n' :: after) =
      Utf8.encodeChars before ++ 0x0a :: Utf8.encodeChars after := by
  simp [Utf8.encodeChars, Utf8.encodeChar]

theorem Lines.shows (hlines : Lines disks text) :
    ∃ entries, Shows entries disks ∧
      ∀ rest, entryLines (Utf8.encodeChars text ++ rest) = entries ++ entryLines rest := by
  induction hlines with
  | nil => exact ⟨[], rfl, fun rest => rfl⟩
  | @cons shown cs ending disks text first hending more ih =>
      obtain ⟨entries, hentries, hmore⟩ := ih
      obtain ⟨ended, hended, htext⟩ : ∃ ended, Line shown ended ∧
          cs ++ ending ++ text = ended ++ '\n' :: text := by
        simp only [List.mem_cons, List.not_mem_nil, or_false] at hending
        rcases hending with rfl | rfl
        · exact ⟨cs, first, by simp⟩
        · exact ⟨cs ++ ['\r'], first.append_return, by simp⟩
      refine ⟨entryLines (Utf8.encodeChars ended) ++ entries, hended.shows.append hentries, ?_⟩
      intro rest
      rw [htext, encodeChars_append_feed, List.append_assoc, List.cons_append, entryLines_append,
        hmore, List.append_assoc]

theorem lines_write (disks : List Disk) :
    Lines disks (disks.flatMap fun disk => write disk ++ ['\n']) := by
  induction disks with
  | nil => exact .nil
  | cons disk disks ih =>
      have hline := line_of_isWritten (isWritten_write disk) (feed_not_mem_write disk)
      exact .cons hline (by simp) ih

end Line

/-- What a listing of written lines tells of a disk: the first one of the name, whatever follows its
line, none, or the error of a malformed line before it. -/
inductive Listed (name : String) : Bytes → Except Json.Error (Option Disk) → Prop
  | whole (hlines : Lines disks text) (hlast : Line shown last) :
      Listed name (Utf8.encodeChars (text ++ last))
        (.ok ((disks ++ shown).find? (·.name = name)))
  | found (hlines : Lines disks text) (hdisk : disks.find? (·.name = name) = some disk)
      (rest : Bytes) : Listed name (Utf8.encodeChars text ++ rest) (.ok (some disk))
  | malformed (hlines : Lines disks text) (hnone : disks.find? (·.name = name) = none)
      (hmalformed : IsMalformed line cause) (hrest : rest = [] ∨ ∃ more, rest = 0x0a :: more) :
      Listed name (Utf8.encodeChars text ++ (line ++ rest)) (.error cause)

theorem IsMalformed.find_entryLines {line rest : Bytes} {cause : Json.Error}
    (malformed : IsMalformed line cause) (name : String)
    (hrest : rest = [] ∨ ∃ more, rest = 0x0a :: more) :
    find name (entryLines (line ++ rest)) = .error cause := by
  have hentries : entryLines line = [trimChars (Utf8.decodeLossyChars line)] := by
    rw [entryLines_of_line (feed_not_mem_decode malformed.isLine)]
    simp [malformed.isEntry]
  rcases hrest with rfl | ⟨more, rfl⟩
  · rw [List.append_nil, hentries, find, malformed.isRefused]
  · rw [entryLines_append, hentries, List.singleton_append, find, malformed.isRefused]

theorem Listed.find_eq {name : String} {bytes : Bytes} {told : Except Json.Error (Option Disk)}
    (listed : Listed name bytes told) : findInListing bytes name = told := by
  cases listed with
  | @whole disks text shown last hlines hlast =>
      obtain ⟨entries, hentries, hlisting⟩ := hlines.shows
      have hbytes : Utf8.encodeChars (text ++ last) =
          Utf8.encodeChars text ++ Utf8.encodeChars last := List.flatMap_append
      have hfind := (hentries.append hlast.shows).find_append name []
      rw [List.append_nil] at hfind
      rw [findInListing, hbytes, hlisting, hfind]
      cases (disks ++ shown).find? (·.name = name) with
      | none => rfl
      | some disk => rfl
  | found hlines hdisk rest =>
      obtain ⟨entries, hentries, hlisting⟩ := hlines.shows
      rw [findInListing, hlisting, hentries.find_append, hdisk]
  | malformed hlines hnone hmalformed hrest =>
      obtain ⟨entries, hentries, hlisting⟩ := hlines.shows
      rw [findInListing, hlisting, hentries.find_append, hnone]
      exact hmalformed.find_entryLines name hrest

/-- In a listing the first disk of the name is found, whatever follows its line, or none when no
line shows one; a malformed line before it gives its own error. -/
theorem findInListing_of_lines {disks : List Disk} {text : List Char} (hlines : Lines disks text)
    (name : String) :
    (∀ shown last, Line shown last →
      findInListing (Utf8.encodeChars (text ++ last)) name =
        .ok ((disks ++ shown).find? (·.name = name))) ∧
    (∀ disk, disks.find? (·.name = name) = some disk → ∀ rest,
      findInListing (Utf8.encodeChars text ++ rest) name = .ok (some disk)) ∧
    (disks.find? (·.name = name) = none → ∀ line cause, IsMalformed line cause →
      findInListing (Utf8.encodeChars text ++ line) name = .error cause ∧
        ∀ rest, findInListing (Utf8.encodeChars text ++ (line ++ 0x0a :: rest)) name =
          .error cause) := by
  refine ⟨?_, ?_, ?_⟩
  · intro shown last hlast
    exact (Listed.whole hlines hlast).find_eq
  · intro disk hdisk rest
    exact (Listed.found hlines hdisk rest).find_eq
  · intro hnone line cause hmalformed
    refine ⟨?_, ?_⟩
    · have hend := (Listed.malformed hlines hnone hmalformed (.inl rfl)).find_eq
      rwa [List.append_nil] at hend
    · intro rest
      exact (Listed.malformed hlines hnone hmalformed (.inr ⟨rest, rfl⟩)).find_eq

def tagged : List Char :=
  Json.writeObject
    [("tags", ['[', ']']), ("instance", Json.writeString "dev"),
      ("name", Json.writeString "data")]

theorem tagged_isWritten : IsWritten { name := "data", holder := "dev" } tagged := by
  let tags := Json.printed ("tags", ['[', ']'])
  let holder := Json.printed ("instance", Json.writeString "dev")
  have hlist : Json.IsValue ['[', ']'] :=
    .list Json.isSpaces_nil [] (by simp) (by simp) (by simp)
  refine .object (Json.isObject_writeObject _) ?_ ?_ ?_ ?_
  · exact .member [tags, holder] (by simp [tags, holder, Json.printed])
      (Json.isLiteral_writeString "data") (by simp)
  · exact .member [tags] (by simp [tags, Json.printed])
      (Json.isLiteral_writeString "dev") (by simp [Json.printed])
  · exact .omitted (by simp [Json.printed]) rfl
  · simp [Json.printed, fieldNames, hlist]

theorem tagged_disk_found :
    let disk : Disk := { name := "data", holder := "dev" }
    let text := tagged ++ ['\r', '\n'] ++ (['\t'] ++ ['\n'] ++ [])
    let cause : Json.Error := ⟨.endInObject, some ⟨1, 1⟩⟩
    Lines [disk] text ∧ Line [] [] ∧ IsMalformed [0x7b] cause ∧
      findInListing (Utf8.encodeChars (text ++ [])) "data" = .ok (some disk) ∧
      findInListing (Utf8.encodeChars text ++ [0x7b]) "data" = .ok (some disk) ∧
      findInListing (Utf8.encodeChars text ++ [0x7b]) "spare" = .error cause := by
  intro disk text cause
  have hline : Line [disk] tagged := line_of_isWritten tagged_isWritten (by decide)
  have hblank : Line [] ['\t'] := .blank (by simp [AreBlanks, isBlank]) (by decide)
  have hlines : Lines [disk] text := .cons hline (by decide) (.cons hblank (by decide) .nil)
  have hnone : Line [] [] := .blank areBlanks_nil (by decide)
  have hmalformed : IsMalformed [0x7b] cause := by
    have hbytes : ([0x7b] : Bytes) = Utf8.encodeChars ['\x7b'] := rfl
    refine ⟨by decide, ?_, ?_⟩
    · rw [hbytes, Utf8.decodeLossyChars_encodeChars]
      decide
    · rw [hbytes, Utf8.decodeLossyChars_encodeChars]
      rfl
  obtain ⟨hwhole, hfollowed, -⟩ := findInListing_of_lines hlines "data"
  obtain ⟨-, -, hfails⟩ := findInListing_of_lines hlines "spare"
  refine ⟨hlines, hnone, hmalformed, hwhole [] [] hnone, hfollowed disk rfl [0x7b], ?_⟩
  exact (hfails rfl [0x7b] cause hmalformed).1

end VmLifecycle.Disk
