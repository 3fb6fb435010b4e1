import VmLifecycle.Proofs.CommandLine.Accepted

namespace VmLifecycle.CommandLine

/-!
What an accepted command line asks for can be told without regard to the places of its flags. So it
does not matter where the verbose flag is added: it makes the line verbose and changes nothing else.
-/

def Holds (arguments : List String) (flag : Flag) : Prop :=
  ∃ argument ∈ arguments, ∃ flags, Gives argument flags ∧ flag ∈ flags

/-- What a line asks for, told by which arguments are there, wherever they stand. -/
structure Tells (arguments : List String) (line : CommandLine) : Prop where
  verbose : line.isVerbose = true ↔ Holds arguments .verbose
  stop : "stop" ∈ arguments →
    ∃ isForced, line.command = .stop isForced ∧ (isForced = true ↔ Holds arguments .force)
  status : "stop" ∉ arguments → line.command = .status

/-- A line, and the line with the verbose flag at one more place: anywhere as an argument of its
own, or anywhere among the letters of a cluster. -/
inductive AddsVerbose : List String → List String → Prop
  | argument (hadded : added = "-v" ∨ added = "--verbose") :
      AddsVerbose (before ++ behind) (before ++ added :: behind)
  | letter (hletters : Letters (first ++ second) flags) (hsome : first ++ second ≠ []) :
      AddsVerbose (before ++ String.ofList ('-' :: (first ++ second)) :: behind)
        (before ++ String.ofList ('-' :: (first ++ 'v' :: second)) :: behind)

section Unique

variable {letters : List Char} {argument : String} {flags others : List Flag} {flag : Flag}

theorem Letters.unique (hletters : Letters letters flags) (hothers : Letters letters others) :
    flags = others := by
  induction hletters generalizing others with
  | nil =>
      cases hothers
      rfl
  | verbose _ ih =>
      cases hothers with
      | verbose hmore => rw [ih hmore]
  | force _ ih =>
      cases hothers with
      | force hmore => rw [ih hmore]

theorem Gives.unique (hgives : Gives argument flags) (hothers : Gives argument others) :
    flags = others := by
  rw [gives_iff] at hgives hothers
  generalize Token.ofArgument argument = token at hgives hothers
  cases hgives with
  | @long flag _ =>
      generalize hname : flag.long = name at hothers
      cases hothers with
      | long _ => rw [Flag.long_injective hname]
  | cluster hletters => exact hletters.unique (Token.gives_cluster_iff.mp hothers)

theorem Gives.exists_mem_iff (hgives : Gives argument flags) :
    (∃ others, Gives argument others ∧ flag ∈ others) ↔ flag ∈ flags := by
  constructor
  · rintro ⟨others, hothers, hflag⟩
    rwa [hgives.unique hothers]
  · intro hflag
    exact ⟨flags, hgives, hflag⟩

end Unique

section Holds

variable {argument word : String} {arguments first second : List String} {flags : List Flag}
  {flag : Flag} {inner : Scope}

theorem holds_cons_iff :
    Holds (argument :: arguments) flag ↔
      (∃ flags, Gives argument flags ∧ flag ∈ flags) ∨ Holds arguments flag := by
  simp [Holds]

theorem holds_append_iff :
    Holds (first ++ second) flag ↔ Holds first flag ∨ Holds second flag := by
  simp [Holds, or_and_right, exists_or]

theorem GiveAll.holds_iff (hgive : GiveAll arguments flags) :
    Holds arguments flag ↔ flag ∈ flags := by
  induction hgive with
  | nil => simp [Holds]
  | cons hfirst _ ih => rw [holds_cons_iff, hfirst.exists_mem_iff, ih, List.mem_append]

theorem not_gives_of_command (hword : Scope.top.command? word = some inner) :
    ¬ Gives word flags := by
  rw [gives_iff, Token.ofArgument_of_command hword]
  exact Token.not_gives_word

theorem GiveAll.not_mem_of_command (hgive : GiveAll arguments flags)
    (hword : Scope.top.command? word = some inner) : word ∉ arguments := by
  induction hgive with
  | nil => exact List.not_mem_nil
  | cons hfirst _ ih =>
      intro hmember
      rcases List.mem_cons.mp hmember with rfl | hlater
      · exact not_gives_of_command hword hfirst
      · exact ih hlater

end Holds

section Line

variable {before behind last arguments longer : List String} {early flags : List Flag}
  {flag : Flag} {word : String} {inner : Scope} {line other : CommandLine}

theorem holds_line_iff (hearly : GiveAll before early)
    (hword : Scope.top.command? word = some inner) (hbehind : GiveAll behind flags)
    (hlast : last = [] ∨ last = ["--"]) :
    Holds (before ++ word :: (behind ++ last)) flag ↔ flag ∈ early ∨ flag ∈ flags := by
  have hcommand : ¬ ∃ flags, Gives word flags ∧ flag ∈ flags :=
    fun ⟨_, hgives, _⟩ => not_gives_of_command hword hgives
  have hdashes : ¬ Holds last flag := by
    rcases hlast with rfl | rfl
    · simp [Holds]
    · simp [Holds, gives_iff, Token.ofArgument_eq_dashes_iff.mpr rfl]
  rw [holds_append_iff, holds_cons_iff, holds_append_iff, hearly.holds_iff, hbehind.holds_iff,
    or_iff_right hcommand, or_iff_left hdashes]

theorem tells_of_parse (hparse : parse arguments = .ok line) : Tells arguments line := by
  obtain ⟨before, early, word, inner, rest, rfl, hearly, htakes, hword, hread⟩ :=
    readTop_eq_ok_iff.mp hparse
  have hunforced : .force ∉ early := fun hforced => absurd (htakes.known _ hforced) (by decide)
  rcases command?_top_eq_some_iff.mp hword with ⟨rfl, rfl⟩ | ⟨rfl, rfl⟩ | ⟨rfl, rfl⟩
  · obtain ⟨behind, last, flags, rfl, hlast, hbehind, -, -, hline⟩ :=
      (map_readFlags_eq_ok_iff (by decide)).mp hread
    obtain ⟨hcommand, hverbose⟩ := eq_mk_iff.mp hline
    have hholds (flag : Flag) : Holds _ flag ↔ _ :=
      holds_line_iff hearly hword hbehind hlast
    refine ⟨hverbose.trans (hholds .verbose).symm, fun _ => ⟨_, hcommand, ?_⟩, ?_⟩
    · rw [hholds, or_iff_right hunforced]
      exact List.contains_iff_mem
    · intro hstop
      exact absurd (List.mem_append_right before List.mem_cons_self) hstop
  · obtain ⟨behind, last, flags, rfl, hlast, hbehind, -, -, hline⟩ :=
      (map_readFlags_eq_ok_iff (by decide)).mp hread
    obtain ⟨hcommand, hverbose⟩ := eq_mk_iff.mp hline
    have hstop : "stop" ∉ before ++ "status" :: (behind ++ last) := by
      have hknown : Scope.top.command? "stop" = some .stop := rfl
      have hbefore := hearly.not_mem_of_command hknown
      have hflags := hbehind.not_mem_of_command hknown
      have hend : "stop" ∉ last := by rcases hlast with rfl | rfl <;> decide
      simp [hbefore, hflags, hend]
    exact ⟨hverbose.trans (holds_line_iff hearly hword hbehind hlast).symm,
      fun hmember => absurd hmember hstop, fun _ => hcommand⟩
  · cases hread

theorem Tells.command_eq (tells : Tells arguments line) (others : Tells longer other)
    (hstop : "stop" ∈ longer ↔ "stop" ∈ arguments)
    (hforce : Holds longer .force ↔ Holds arguments .force) : other.command = line.command := by
  by_cases hword : "stop" ∈ arguments
  · obtain ⟨isForced, hcommand, hforced⟩ := tells.stop hword
    obtain ⟨isOtherForced, hother, hotherForced⟩ := others.stop (hstop.mpr hword)
    have hsame : isOtherForced = isForced :=
      Bool.eq_iff_iff.mpr (hotherForced.trans (hforce.trans hforced.symm))
    rw [hcommand, hother, hsame]
  · rw [tells.status hword, others.status (mt hstop.mp hword)]

end Line

section Added

variable {arguments longer : List String} {first second : List Char} {flags : List Flag}
  {line other : CommandLine}

theorem Letters.insert_verbose (hletters : Letters (first ++ second) flags) :
    ∃ more, Letters (first ++ 'v' :: second) more ∧ .verbose ∈ more ∧
      (.force ∈ more ↔ .force ∈ flags) := by
  induction first generalizing flags with
  | nil => exact ⟨.verbose :: flags, .verbose hletters, by simp, by simp⟩
  | cons letter first ih =>
      obtain ⟨flag, later, rfl, rfl, hswitch, hlater⟩ := hletters.exists_of_cons
      obtain ⟨more, hmore, hverbose, hforce⟩ := ih hlater
      exact ⟨flag :: more, hmore.cons hswitch, List.mem_cons_of_mem flag hverbose,
        by simp [hforce]⟩

theorem AddsVerbose.exists_replaced (hadds : AddsVerbose arguments longer) :
    ∃ before replaced flags given more behind,
      arguments = before ++ (replaced ++ behind) ∧ longer = before ++ (given ++ behind) ∧
      GiveAll replaced flags ∧ GiveAll given more ∧ .verbose ∈ more ∧
      (.force ∈ more ↔ .force ∈ flags) := by
  cases hadds with
  | @argument added before behind hadded =>
      exact ⟨before, [], [], [added], [.verbose], behind, rfl, rfl, .nil,
        giveAll_singleton_iff.mpr ⟨added, rfl, gives_verbose_iff.mpr hadded⟩, by simp, by simp⟩
  | @letter first second flags before behind hletters hsome =>
      obtain ⟨more, hmore, hverbose, hforce⟩ := hletters.insert_verbose
      refine ⟨before, [_], flags ++ [], [_], more ++ [], behind, rfl, rfl,
        .cons (.cluster hletters hsome) .nil, .cons (.cluster hmore (by simp)) .nil, ?_, ?_⟩
      · rwa [List.append_nil]
      · rwa [List.append_nil, List.append_nil]

theorem parse_of_addsVerbose (hparse : parse arguments = .ok line)
    (hadds : AddsVerbose arguments longer) (hlonger : parse longer = .ok other) :
    other = ⟨line.command, true⟩ := by
  have tells := tells_of_parse hparse
  have others := tells_of_parse hlonger
  obtain ⟨before, replaced, flags, given, more, behind, rfl, rfl, hreplaced, hgiven, hverbose,
    hforce⟩ := hadds.exists_replaced
  have hisVerbose : other.isVerbose = true := by
    rw [others.verbose, holds_append_iff, holds_append_iff, hgiven.holds_iff]
    exact .inr (.inl hverbose)
  have hcommand : other.command = line.command := by
    apply tells.command_eq others
    · have hstop : Scope.top.command? "stop" = some .stop := rfl
      have hold := hreplaced.not_mem_of_command hstop
      have hnew := hgiven.not_mem_of_command hstop
      simp [hold, hnew]
    · simp only [holds_append_iff, hreplaced.holds_iff, hgiven.holds_iff, hforce]
  rw [← hcommand, ← hisVerbose]

end Added

end VmLifecycle.CommandLine
