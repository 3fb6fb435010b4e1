import VmLifecycle.CommandLine

namespace VmLifecycle.CommandLine

inductive Letters : List Char → List Flag → Prop
  | nil : Letters [] []
  | verbose (hmore : Letters letters flags) : Letters ('v' :: letters) (.verbose :: flags)
  | force (hmore : Letters letters flags) : Letters ('f' :: letters) (.force :: flags)

inductive Gives : String → List Flag → Prop
  | verbose : Gives "--verbose" [.verbose]
  | force : Gives "--force" [.force]
  | cluster (hletters : Letters letters flags) (hsome : letters ≠ []) :
      Gives (String.ofList ('-' :: letters)) flags

inductive GiveAll : List String → List Flag → Prop
  | nil : GiveAll [] []
  | cons (hfirst : Gives argument first) (hmore : GiveAll arguments flags) :
      GiveAll (argument :: arguments) (first ++ flags)

/-- A command between its flags, of which at most one stands before it and none behind it comes
twice, and perhaps two dashes at the end. Only a stop is forced. -/
inductive IsLine : List String → CommandLine → Prop
  | stop (hbefore : before = [] ∨ before = ["-v"] ∨ before = ["--verbose"])
      (hbehind : GiveAll behind flags) (honce : flags.Nodup)
      (hlast : last = [] ∨ last = ["--"])
      (hcommand : line.command = .stop isForced) (hforced : isForced = true ↔ .force ∈ flags)
      (hverbose : line.isVerbose = true ↔ before ≠ [] ∨ .verbose ∈ flags) :
      IsLine (before ++ "stop" :: (behind ++ last)) line
  | status (hbefore : before = [] ∨ before = ["-v"] ∨ before = ["--verbose"])
      (hbehind : GiveAll behind flags) (hunforced : .force ∉ flags) (honce : flags.Nodup)
      (hlast : last = [] ∨ last = ["--"]) (hcommand : line.command = .status)
      (hverbose : line.isVerbose = true ↔ before ≠ [] ∨ .verbose ∈ flags) :
      IsLine (before ++ "status" :: (behind ++ last)) line

/-- A flag that changes how a command is carried out; the others ask for a text. -/
def Flag.IsSwitch (flag : Flag) : Prop :=
  flag = .verbose ∨ flag = .force

section Letters

variable {letter : Char} {letters : List Char} {flag : Flag} {flags : List Flag}

theorem Letters.cons (hswitch : flag.IsSwitch) (hmore : Letters letters flags) :
    Letters (flag.short :: letters) (flag :: flags) := by
  rcases hswitch with rfl | rfl
  · exact .verbose hmore
  · exact .force hmore

theorem Letters.exists_of_cons (hletters : Letters (letter :: letters) flags) :
    ∃ flag more, flags = flag :: more ∧ letter = flag.short ∧ flag.IsSwitch ∧
      Letters letters more := by
  cases hletters with
  | verbose hmore => exact ⟨_, _, rfl, rfl, .inl rfl, hmore⟩
  | force hmore => exact ⟨_, _, rfl, rfl, .inr rfl, hmore⟩

theorem Letters.isSwitch (hletters : Letters letters flags) : ∀ flag ∈ flags, flag.IsSwitch := by
  induction hletters with
  | nil => simp
  | verbose _ ih => exact List.forall_mem_cons.mpr ⟨.inl rfl, ih⟩
  | force _ ih => exact List.forall_mem_cons.mpr ⟨.inr rfl, ih⟩

theorem Gives.isSwitch {argument : String} (hgives : Gives argument flags) :
    ∀ flag ∈ flags, flag.IsSwitch := by
  cases hgives with
  | verbose => exact List.forall_mem_singleton.mpr (.inl rfl)
  | force => exact List.forall_mem_singleton.mpr (.inr rfl)
  | cluster hletters => exact hletters.isSwitch

theorem GiveAll.isSwitch {arguments : List String} (hgive : GiveAll arguments flags) :
    ∀ flag ∈ flags, flag.IsSwitch := by
  induction hgive with
  | nil => simp
  | cons hfirst _ ih => exact List.forall_mem_append.mpr ⟨hfirst.isSwitch, ih⟩

theorem Gives.ne_nil {argument : String} (hgives : Gives argument flags) : flags ≠ [] := by
  cases hgives with
  | verbose => exact List.cons_ne_nil _ _
  | force => exact List.cons_ne_nil _ _
  | cluster hletters hsome =>
      rintro rfl
      cases hletters
      exact hsome rfl

theorem gives_verbose_iff {argument : String} :
    Gives argument [.verbose] ↔ argument = "-v" ∨ argument = "--verbose" := by
  constructor
  · intro hgives
    cases hgives with
    | verbose => exact .inr rfl
    | cluster hletters =>
        cases hletters with
        | verbose hmore =>
            cases hmore
            exact .inl rfl
  · rintro (rfl | rfl)
    · exact .cluster (.verbose .nil) (List.cons_ne_nil _ _)
    · exact .verbose

theorem giveAll_nil_iff {arguments : List String} : GiveAll arguments [] ↔ arguments = [] := by
  constructor
  · intro hgive
    generalize hflags : [] = flags at hgive
    cases hgive with
    | nil => rfl
    | cons hfirst hmore =>
        exact absurd (List.append_eq_nil_iff.mp hflags.symm).1 hfirst.ne_nil
  · rintro rfl
    exact .nil

theorem giveAll_singleton_iff {arguments : List String} :
    GiveAll arguments [flag] ↔ ∃ argument, arguments = [argument] ∧ Gives argument [flag] := by
  constructor
  · intro hgive
    generalize hflags : [flag] = flags at hgive
    cases hgive with
    | nil => cases hflags
    | cons hfirst hmore =>
        rcases List.singleton_eq_append_iff.mp hflags with ⟨hnone, -⟩ | ⟨rfl, rfl⟩
        · exact absurd hnone hfirst.ne_nil
        · exact ⟨_, by rw [giveAll_nil_iff.mp hmore], hfirst⟩
  · rintro ⟨argument, rfl, hgives⟩
    exact .cons hgives .nil

end Letters

inductive Token.Gives : Token → List Flag → Prop
  | long (hswitch : flag.IsSwitch) : Gives (.long flag.long none) [flag]
  | cluster (hletters : Letters letters flags) : Gives (.cluster letters) flags

theorem Token.gives_cluster_iff {letters : List Char} {flags : List Flag} :
    (cluster letters).Gives flags ↔ Letters letters flags := by
  constructor
  · intro hgives
    cases hgives with
    | cluster hletters => exact hletters
  · exact .cluster

@[simp] theorem Token.not_gives_dashes {flags : List Flag} : ¬ dashes.Gives flags := by
  rintro ⟨⟩

@[simp] theorem Token.not_gives_word {text : String} {flags : List Flag} :
    ¬ (word text).Gives flags := by
  rintro ⟨⟩

/-- The arguments that have a form; a value attached to a flag does not matter. -/
inductive Token.Writes : Token → String → Prop
  | dashes : Writes .dashes "--"
  | long : Writes (.long name none) ("--" ++ name)
  | valued : Writes (.long name (some value)) argument
  | cluster (hsome : letters ≠ []) : Writes (.cluster letters) (String.ofList ('-' :: letters))
  | word : Writes (.word text) text

theorem Token.writes_ofArgument (argument : String) : (ofArgument argument).Writes argument := by
  have htext : String.ofList argument.toList = argument := String.ofList_toList
  unfold ofArgument
  split
  · next hdashes =>
    rw [hdashes] at htext
    rw [← htext]
    exact .dashes
  · next rest hdashes hrest =>
    rw [hrest] at htext
    unfold splitLong
    split
    · next hwhole =>
      have hname : rest.takeWhile (· != '=') = rest := by
        have happend : rest.takeWhile (· != '=') ++ rest.dropWhile (· != '=') = rest :=
          List.takeWhile_append_dropWhile
        rwa [hwhole, List.append_nil] at happend
      have hargument : argument = "--" ++ String.ofList rest := by
        rw [← htext]
        apply String.toList_inj.mp
        simp
      rw [hname, hargument]
      exact .long
    · exact .valued
  · next letter rest hletters =>
    rw [hletters] at htext
    rw [← htext]
    exact .cluster (List.cons_ne_nil _ _)
  · exact .word

theorem Token.ofArgument_ofList {letter : Char} (hdash : letter ≠ '-') (letters : List Char) :
    ofArgument (String.ofList ('-' :: letter :: letters)) = .cluster (letter :: letters) := by
  simp [ofArgument, hdash]

theorem gives_iff {argument : String} {flags : List Flag} :
    Gives argument flags ↔ (Token.ofArgument argument).Gives flags := by
  constructor
  · intro hgives
    cases hgives with
    | verbose => exact @Token.Gives.long .verbose (.inl rfl)
    | force => exact @Token.Gives.long .force (.inr rfl)
    | @cluster letters _ hletters hsome =>
        have hdash : ∀ letter more, letters = letter :: more → letter ≠ '-' := by
          rintro letter more rfl
          obtain ⟨flag, _, -, rfl, rfl | rfl, -⟩ := hletters.exists_of_cons
          · decide
          · decide
        cases letters with
        | nil => exact absurd rfl hsome
        | cons letter more =>
            rw [Token.ofArgument_ofList (hdash letter more rfl)]
            exact .cluster hletters
  · intro hgives
    have hwrites := Token.writes_ofArgument argument
    generalize Token.ofArgument argument = token at hgives hwrites
    cases hgives with
    | @long flag hswitch =>
        cases hwrites
        rcases hswitch with rfl | rfl
        · exact .verbose
        · exact .force
    | cluster hletters =>
        cases hwrites with
        | cluster hsome => exact .cluster hletters hsome

end VmLifecycle.CommandLine
