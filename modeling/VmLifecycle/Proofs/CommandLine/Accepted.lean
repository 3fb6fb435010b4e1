import VmLifecycle.Proofs.CommandLine.Flags

namespace VmLifecycle.CommandLine

theorem Token.ofArgument_eq_dashes_iff {argument : String} :
    Token.ofArgument argument = .dashes ↔ argument = "--" := by
  constructor
  · intro htoken
    have hwrites := Token.writes_ofArgument argument
    rw [htoken] at hwrites
    cases hwrites
    rfl
  · rintro rfl
    rfl

theorem eq_ok_iff_of_bind {scope : Scope} {given : List Flag} {token : Token}
    {whole : Except Refusal α} {result : α} (take : Except Refusal (List Flag))
    (next : List Flag → Except Refusal α) (hwhole : whole = take.bind next)
    (htake : ∀ taken, take = .ok taken ↔
      ∃ flags, token.Gives flags ∧ scope.Takes given flags ∧ taken = given ++ flags) :
    whole = .ok result ↔
      ∃ first, token.Gives first ∧ scope.Takes given first ∧
        next (given ++ first) = .ok result := by
  subst hwhole
  constructor
  · intro hbind
    cases hok : take with
    | error refusal => rw [hok] at hbind; cases hbind
    | ok taken =>
        obtain ⟨first, hgives, htakes, rfl⟩ := (htake taken).mp hok
        rw [hok] at hbind
        exact ⟨first, hgives, htakes, hbind⟩
  · rintro ⟨first, hgives, htakes, hnext⟩
    rw [(htake _).mpr ⟨first, hgives, htakes, rfl⟩]
    exact hnext

section Flags

variable {scope : Scope} {given read : List Flag} {argument : String} {rest arguments : List String}

theorem readFlags_cons_iff :
    readFlags scope given (argument :: rest) = .ok read ↔
      (argument = "--" ∧ rest = [] ∧ read = given) ∨
        ∃ first, Gives argument first ∧ scope.Takes given first ∧
          readFlags scope (given ++ first) rest = .ok read := by
  rw [← Token.ofArgument_eq_dashes_iff]
  simp only [gives_iff, readFlags]
  generalize Token.ofArgument argument = token
  cases token with
  | dashes => cases rest <;> simp [eq_comm]
  | word text => simp
  | long name value =>
      simp only [reduceCtorEq, false_and, false_or]
      refine eq_ok_iff_of_bind (takeLong scope given name value rest) (readFlags scope · rest) ?_
        (fun taken => takeLong_eq_ok_iff)
      cases takeLong scope given name value rest <;> rfl
  | cluster letters =>
      simp only [reduceCtorEq, false_and, false_or]
      refine eq_ok_iff_of_bind (takeCluster scope given letters) (readFlags scope · rest) ?_
        (fun taken => takeCluster_eq_ok_iff)
      cases takeCluster scope given letters <;> rfl

theorem readFlags_eq_ok_iff :
    readFlags scope given arguments = .ok read ↔
      ∃ behind last flags, arguments = behind ++ last ∧ (last = [] ∨ last = ["--"]) ∧
        GiveAll behind flags ∧ scope.Takes given flags ∧ read = given ++ flags := by
  induction arguments generalizing given with
  | nil =>
      constructor
      · rintro ⟨⟩
        exact ⟨[], [], [], rfl, .inl rfl, .nil, .nil, (List.append_nil _).symm⟩
      · rintro ⟨behind, last, flags, harguments, -, hgive, -, rfl⟩
        obtain ⟨rfl, -⟩ := List.append_eq_nil_iff.mp harguments.symm
        cases hgive
        rw [readFlags, List.append_nil]
  | cons argument rest ih =>
      rw [readFlags_cons_iff]
      constructor
      · rintro (⟨rfl, rfl, rfl⟩ | ⟨first, hfirst, hhead, hrest⟩)
        · exact ⟨[], ["--"], [], rfl, .inr rfl, .nil, .nil, (List.append_nil _).symm⟩
        · obtain ⟨behind, last, flags, rfl, hlast, hmore, htail, rfl⟩ := ih.mp hrest
          exact ⟨argument :: behind, last, first ++ flags, rfl, hlast, .cons hfirst hmore,
            Scope.Takes.append_iff.mpr ⟨hhead, htail⟩, List.append_assoc _ _ _⟩
      · rintro ⟨behind, last, flags, harguments, hlast, hgive, htakes, rfl⟩
        cases hgive with
        | nil =>
            rcases hlast with rfl | rfl
            · cases harguments
            · cases harguments
              exact .inl ⟨rfl, rfl, List.append_nil _⟩
        | @cons argument' first behind flags hfirst hmore =>
            cases harguments
            obtain ⟨hhead, htail⟩ := Scope.Takes.append_iff.mp htakes
            exact .inr ⟨first, hfirst, hhead, ih.mpr ⟨behind, last, flags, rfl, hlast, hmore,
              htail, (List.append_assoc _ _ _).symm⟩⟩

end Flags

section Top

variable {given : List Flag} {argument word : String} {rest arguments : List String} {inner : Scope}
  {line : CommandLine}

theorem command?_top_eq_some_iff :
    Scope.top.command? word = some inner ↔
      (word = "stop" ∧ inner = .stop) ∨ (word = "status" ∧ inner = .status) ∨
        (word = "help" ∧ inner = .help) := by
  constructor
  · intro hcommand
    obtain ⟨⟨name, inner⟩, hfind, rfl⟩ := Option.map_eq_some_iff.mp hcommand
    have hname : name = word := by simpa using List.find?_some hfind
    have hmember := List.mem_of_find?_eq_some hfind
    rw [hname] at hmember
    simpa [Scope.commands] using hmember
  · rintro (⟨rfl, rfl⟩ | ⟨rfl, rfl⟩ | ⟨rfl, rfl⟩) <;> rfl

theorem Token.ofArgument_of_command (hcommand : Scope.top.command? word = some inner) :
    Token.ofArgument word = .word word := by
  rcases command?_top_eq_some_iff.mp hcommand with ⟨rfl, -⟩ | ⟨rfl, -⟩ | ⟨rfl, -⟩ <;> rfl

theorem readTop_cons_iff :
    readTop given (argument :: rest) = .ok line ↔
      (∃ inner, Scope.top.command? argument = some inner ∧
        readCommand given inner rest = .ok line) ∨
        ∃ first, Gives argument first ∧ Scope.top.Takes given first ∧
          readTop (given ++ first) rest = .ok line := by
  have hwrites := Token.writes_ofArgument argument
  have hplain : Token.ofArgument argument ≠ .word argument →
      ∀ inner, Scope.top.command? argument ≠ some inner :=
    fun htoken inner hcommand => htoken (Token.ofArgument_of_command hcommand)
  simp only [gives_iff, readTop]
  generalize Token.ofArgument argument = token at hwrites hplain
  cases token with
  | dashes => simp [hplain (by simp)]
  | word text =>
      cases hwrites
      cases hcommand : Scope.top.command? argument <;> simp [hcommand]
  | long name value =>
      simp only [hplain (by simp), false_and, exists_false, false_or]
      refine eq_ok_iff_of_bind (takeLong .top given name value rest) (readTop · rest) ?_
        (fun taken => takeLong_eq_ok_iff)
      cases takeLong .top given name value rest <;> rfl
  | cluster letters =>
      simp only [hplain (by simp), false_and, exists_false, false_or]
      refine eq_ok_iff_of_bind (takeCluster .top given letters) (readTop · rest) ?_
        (fun taken => takeCluster_eq_ok_iff)
      cases takeCluster .top given letters <;> rfl

theorem readTop_eq_ok_iff :
    readTop given arguments = .ok line ↔
      ∃ before early word inner rest, arguments = before ++ word :: rest ∧
        GiveAll before early ∧ Scope.top.Takes given early ∧
        Scope.top.command? word = some inner ∧
        readCommand (given ++ early) inner rest = .ok line := by
  induction arguments generalizing given with
  | nil => simp [readTop]
  | cons argument rest ih =>
      rw [readTop_cons_iff]
      constructor
      · rintro (⟨inner, hcommand, hread⟩ | ⟨first, hfirst, hhead, hrest⟩)
        · refine ⟨[], [], argument, inner, rest, rfl, .nil, .nil, hcommand, ?_⟩
          rwa [List.append_nil]
        · obtain ⟨before, early, word, inner, rest, rfl, hmore, htail, hcommand, hread⟩ :=
            ih.mp hrest
          refine ⟨argument :: before, first ++ early, word, inner, rest, rfl, .cons hfirst hmore,
            Scope.Takes.append_iff.mpr ⟨hhead, htail⟩, hcommand, ?_⟩
          rwa [← List.append_assoc]
      · rintro ⟨before, early, word, inner, rest, harguments, hgive, htakes, hcommand, hread⟩
        cases hgive with
        | nil =>
            cases harguments
            rw [List.append_nil] at hread
            exact .inl ⟨inner, hcommand, hread⟩
        | @cons argument' first before early hfirst hmore =>
            cases harguments
            obtain ⟨hhead, htail⟩ := Scope.Takes.append_iff.mp htakes
            rw [← List.append_assoc] at hread
            exact .inr ⟨first, hfirst, hhead, ih.mpr ⟨before, early, word, inner, rest, rfl,
              hmore, htail, hcommand, hread⟩⟩

end Top

section Line

variable {before rest arguments : List String} {early : List Flag} {line : CommandLine}

theorem giveAll_takes_top_iff :
    GiveAll before early ∧ Scope.top.Takes [] early ↔
      (before = [] ∧ early = []) ∨
        ((before = ["-v"] ∨ before = ["--verbose"]) ∧ early = [.verbose]) := by
  constructor
  · rintro ⟨hgive, htakes⟩
    obtain ⟨hunforced, honce⟩ :=
      (Scope.Takes.nil_iff_of_isSwitch hgive.isSwitch List.mem_cons_self).mp htakes
    have hverbose : ∀ flag ∈ early, flag = .verbose := by
      intro flag hflag
      rcases hgive.isSwitch flag hflag with hsame | rfl
      · exact hsame
      · exact absurd (hunforced hflag) (by decide)
    rcases early with _ | ⟨flag, _ | ⟨other, more⟩⟩
    · exact .inl ⟨giveAll_nil_iff.mp hgive, rfl⟩
    · obtain rfl := hverbose flag List.mem_cons_self
      obtain ⟨argument, rfl, hgives⟩ := giveAll_singleton_iff.mp hgive
      exact .inr ⟨by simpa using gives_verbose_iff.mp hgives, rfl⟩
    · obtain rfl := hverbose flag (by simp)
      obtain rfl := hverbose other (by simp)
      simp at honce
  · have takes_verbose : Scope.top.Takes [] [.verbose] :=
      Scope.Takes.singleton_iff.mpr ⟨List.mem_cons_self, List.not_mem_nil⟩
    rintro (⟨rfl, rfl⟩ | ⟨rfl | rfl, rfl⟩)
    · exact ⟨.nil, .nil⟩
    · exact ⟨giveAll_singleton_iff.mpr ⟨_, rfl, gives_verbose_iff.mpr (.inl rfl)⟩, takes_verbose⟩
    · exact ⟨giveAll_singleton_iff.mpr ⟨_, rfl, gives_verbose_iff.mpr (.inr rfl)⟩, takes_verbose⟩

theorem exists_takes_top_iff :
    (∃ early, GiveAll before early ∧ Scope.top.Takes [] early) ↔
      before = [] ∨ before = ["-v"] ∨ before = ["--verbose"] := by
  simp only [giveAll_takes_top_iff]
  constructor
  · rintro ⟨early, ⟨hnone, -⟩ | ⟨hone, -⟩⟩
    · exact .inl hnone
    · exact .inr hone
  · rintro (hnone | hone)
    · exact ⟨[], .inl ⟨hnone, rfl⟩⟩
    · exact ⟨[.verbose], .inr ⟨hone, rfl⟩⟩

theorem verbose_mem_iff_of_takes_top (hgive : GiveAll before early)
    (htakes : Scope.top.Takes [] early) : .verbose ∈ early ↔ before ≠ [] := by
  rcases giveAll_takes_top_iff.mp ⟨hgive, htakes⟩ with ⟨rfl, rfl⟩ | ⟨rfl | rfl, rfl⟩ <;> simp

theorem map_readFlags_eq_ok_iff {scope : Scope} (hverbose : .verbose ∈ scope.flags)
    {ofFlags : List Flag → CommandLine} :
    (readFlags scope [] rest).map ofFlags = .ok line ↔
      ∃ behind last flags, rest = behind ++ last ∧ (last = [] ∨ last = ["--"]) ∧
        GiveAll behind flags ∧ (.force ∈ flags → .force ∈ scope.flags) ∧ flags.Nodup ∧
        line = ofFlags flags := by
  constructor
  · intro hmap
    cases hread : readFlags scope [] rest with
    | error refusal => rw [hread] at hmap; cases hmap
    | ok flags =>
        rw [hread] at hmap
        cases hmap
        obtain ⟨behind, last, flags, rfl, hlast, hgive, htakes, rfl⟩ := readFlags_eq_ok_iff.mp hread
        obtain ⟨hforce, honce⟩ :=
          (Scope.Takes.nil_iff_of_isSwitch hgive.isSwitch hverbose).mp htakes
        exact ⟨behind, last, flags, rfl, hlast, hgive, hforce, honce, rfl⟩
  · rintro ⟨behind, last, flags, rfl, hlast, hgive, hforce, honce, rfl⟩
    have htakes : scope.Takes [] flags :=
      (Scope.Takes.nil_iff_of_isSwitch hgive.isSwitch hverbose).mpr ⟨hforce, honce⟩
    have hread : readFlags scope [] (behind ++ last) = .ok flags :=
      readFlags_eq_ok_iff.mpr ⟨behind, last, flags, rfl, hlast, hgive, htakes, rfl⟩
    rw [hread]
    rfl

theorem eq_mk_iff {command : Command} {flags : List Flag} :
    line = ⟨command, early.contains .verbose || flags.contains .verbose⟩ ↔
      line.command = command ∧ (line.isVerbose = true ↔ .verbose ∈ early ∨ .verbose ∈ flags) := by
  obtain ⟨named, isVerbose⟩ := line
  rw [CommandLine.mk.injEq, Bool.eq_iff_iff]
  simp

theorem isLine_of_readCommand {word : String} {inner : Scope}
    (hbefore : before = [] ∨ before = ["-v"] ∨ before = ["--verbose"])
    (hearly : .verbose ∈ early ↔ before ≠ []) (hword : Scope.top.command? word = some inner)
    (hread : readCommand early inner rest = .ok line) : IsLine (before ++ word :: rest) line := by
  rcases command?_top_eq_some_iff.mp hword with ⟨rfl, rfl⟩ | ⟨rfl, rfl⟩ | ⟨rfl, rfl⟩
  · obtain ⟨behind, last, flags, rfl, hlast, hbehind, -, honce, hline⟩ :=
      (map_readFlags_eq_ok_iff (by decide)).mp hread
    obtain ⟨hcommand, hverbose⟩ := eq_mk_iff.mp hline
    rw [hearly] at hverbose
    exact .stop hbefore hbehind honce hlast hcommand List.contains_iff_mem hverbose
  · obtain ⟨behind, last, flags, rfl, hlast, hbehind, hforce, honce, hline⟩ :=
      (map_readFlags_eq_ok_iff (by decide)).mp hread
    obtain ⟨hcommand, hverbose⟩ := eq_mk_iff.mp hline
    rw [hearly] at hverbose
    have hunforced : .force ∉ flags := fun hforced => absurd (hforce hforced) (by decide)
    exact .status hbefore hbehind hunforced honce hlast hcommand hverbose
  · -- The help command always ends in a refusal, which shows the help.
    cases hread

theorem IsLine.exists_readCommand (hline : IsLine arguments line) :
    ∃ before word inner rest, arguments = before ++ word :: rest ∧
      (before = [] ∨ before = ["-v"] ∨ before = ["--verbose"]) ∧
      Scope.top.command? word = some inner ∧
      ∀ early, (.verbose ∈ early ↔ before ≠ []) → readCommand early inner rest = .ok line := by
  cases hline with
  | @stop before behind flags last isForced _ hbefore hbehind honce hlast hcommand hforced
      hverbose =>
      refine ⟨before, "stop", .stop, behind ++ last, rfl, hbefore, rfl, fun early hearly => ?_⟩
      rw [← hearly] at hverbose
      have hsame : isForced = flags.contains .force :=
        Bool.eq_iff_iff.mpr (hforced.trans List.contains_iff_mem.symm)
      rw [hsame] at hcommand
      exact (map_readFlags_eq_ok_iff (by decide)).mpr ⟨behind, last, flags, rfl, hlast, hbehind,
        fun _ => by decide, honce, eq_mk_iff.mpr ⟨hcommand, hverbose⟩⟩
  | @status before behind flags last _ hbefore hbehind hunforced honce hlast hcommand hverbose =>
      refine ⟨before, "status", .status, behind ++ last, rfl, hbefore, rfl, fun early hearly => ?_⟩
      rw [← hearly] at hverbose
      exact (map_readFlags_eq_ok_iff (by decide)).mpr ⟨behind, last, flags, rfl, hlast, hbehind,
        fun hforced => absurd hforced hunforced, honce, eq_mk_iff.mpr ⟨hcommand, hverbose⟩⟩

/-- A command line is read exactly when it is one of the grammar, and as what it stands for. -/
theorem parse_eq_ok_iff_isLine : parse arguments = .ok line ↔ IsLine arguments line := by
  constructor
  · intro hparse
    obtain ⟨before, early, word, inner, rest, rfl, hgive, htakes, hword, hread⟩ :=
      readTop_eq_ok_iff.mp hparse
    have hbefore := exists_takes_top_iff.mp ⟨early, hgive, htakes⟩
    exact isLine_of_readCommand hbefore (verbose_mem_iff_of_takes_top hgive htakes) hword hread
  · intro hline
    obtain ⟨before, word, inner, rest, rfl, hbefore, hword, hread⟩ := hline.exists_readCommand
    obtain ⟨early, hgive, htakes⟩ := exists_takes_top_iff.mpr hbefore
    exact readTop_eq_ok_iff.mpr ⟨before, early, word, inner, rest, rfl, hgive, htakes, hword,
      hread early (verbose_mem_iff_of_takes_top hgive htakes)⟩

example : parse ["-v", "stop", "-fv", "--"] = .ok ⟨.stop true, true⟩ := by rfl

end Line

end VmLifecycle.CommandLine
