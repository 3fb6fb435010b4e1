import VmLifecycle.CommandLine.Parser
import VmLifecycle.Proofs.CommandLine.Grammar

namespace VmLifecycle.CommandLine

/-- Flags that a scope takes behind those given before. -/
structure Scope.Takes (scope : Scope) (given flags : List Flag) : Prop where
  known : ∀ flag ∈ flags, flag ∈ scope.flags
  fresh : ∀ flag ∈ flags, flag ∉ given
  once : flags.Nodup

namespace Scope.Takes

variable {scope : Scope} {given first more : List Flag} {flag : Flag}

theorem nil : scope.Takes given [] :=
  ⟨by simp, by simp, List.nodup_nil⟩

theorem singleton_iff : scope.Takes given [flag] ↔ flag ∈ scope.flags ∧ flag ∉ given := by
  constructor
  · intro takes
    exact ⟨takes.known flag List.mem_cons_self, takes.fresh flag List.mem_cons_self⟩
  · rintro ⟨hknown, hfresh⟩
    exact ⟨by simpa using hknown, by simpa using hfresh, by simp⟩

theorem append_iff :
    scope.Takes given (first ++ more) ↔
      scope.Takes given first ∧ scope.Takes (given ++ first) more := by
  constructor
  · rintro ⟨hknown, hfresh, honce⟩
    obtain ⟨hfirst, hmore, hapart⟩ := List.nodup_append.mp honce
    refine ⟨⟨?_, ?_, hfirst⟩, ⟨?_, ?_, hmore⟩⟩
    · exact fun flag hflag => hknown flag (List.mem_append_left more hflag)
    · exact fun flag hflag => hfresh flag (List.mem_append_left more hflag)
    · exact fun flag hflag => hknown flag (List.mem_append_right first hflag)
    · intro flag hflag hbefore
      rcases List.mem_append.mp hbefore with hgiven | hearlier
      · exact hfresh flag (List.mem_append_right first hflag) hgiven
      · exact hapart flag hearlier flag hflag rfl
  · rintro ⟨hfirst, hmore⟩
    refine ⟨?_, ?_, List.nodup_append.mpr ⟨hfirst.once, hmore.once, ?_⟩⟩
    · exact fun flag hflag =>
        (List.mem_append.mp hflag).elim (hfirst.known flag) (hmore.known flag)
    · intro flag hflag hgiven
      rcases List.mem_append.mp hflag with hearly | hlate
      · exact hfirst.fresh flag hearly hgiven
      · exact hmore.fresh flag hlate (List.mem_append_left first hgiven)
    · rintro flag hearly _ hlate rfl
      exact hmore.fresh flag hlate (List.mem_append_right given hearly)

theorem nil_iff_of_isSwitch {flags : List Flag} (hswitch : ∀ flag ∈ flags, flag.IsSwitch)
    (hverbose : .verbose ∈ scope.flags) :
    scope.Takes [] flags ↔ (.force ∈ flags → .force ∈ scope.flags) ∧ flags.Nodup := by
  constructor
  · intro takes
    exact ⟨takes.known .force, takes.once⟩
  · rintro ⟨hforce, honce⟩
    refine ⟨?_, by simp, honce⟩
    intro flag hflag
    rcases hswitch flag hflag with rfl | rfl
    · exact hverbose
    · exact hforce hflag

end Scope.Takes

theorem Flag.long_injective : Function.Injective long := by
  intro flag other hsame
  cases flag <;> cases other <;> simp_all [long]

theorem Flag.short_injective : Function.Injective short := by
  intro flag other hsame
  cases flag <;> cases other <;> simp_all [short]

theorem find?_key_eq_some_iff [BEq κ] [LawfulBEq κ] {key : Flag → κ}
    (hkey : Function.Injective key) {flags : List Flag} {wanted : κ} {flag : Flag} :
    flags.find? (fun other => key other == wanted) = some flag ↔
      flag ∈ flags ∧ key flag = wanted := by
  have hfound : ∀ found, flags.find? (fun other => key other == wanted) = some found →
      key found = wanted := by
    intro found hfind
    simpa using List.find?_some hfind
  constructor
  · intro hfind
    exact ⟨List.mem_of_find?_eq_some hfind, hfound flag hfind⟩
  · rintro ⟨hflag, hwanted⟩
    have hsome : (flags.find? fun other => key other == wanted).isSome = true :=
      List.find?_isSome.mpr ⟨flag, hflag, by simp [hwanted]⟩
    obtain ⟨found, hfind⟩ := Option.isSome_iff_exists.mp hsome
    rw [hfind, hkey ((hfound found hfind).trans hwanted.symm)]

section Take

variable {scope : Scope} {given taken : List Flag} {flag : Flag}

theorem flagOfLong?_eq_some_iff {name : String} :
    flagOfLong? scope name = some flag ↔ flag ∈ scope.flags ∧ flag.long = name :=
  find?_key_eq_some_iff Flag.long_injective

theorem flagOfShort?_eq_some_iff {letter : Char} :
    flagOfShort? scope letter = some flag ↔ flag ∈ scope.flags ∧ flag.short = letter :=
  find?_key_eq_some_iff Flag.short_injective

theorem takeFlag_eq_ok_iff :
    takeFlag scope given flag = .ok taken ↔
      flag.IsSwitch ∧ flag ∉ given ∧ taken = given ++ [flag] := by
  cases flag with
  | help => simp [takeFlag, Flag.IsSwitch]
  | version => simp [takeFlag, Flag.IsSwitch]
  | verbose =>
      by_cases hgiven : Flag.verbose ∈ given
      · simp [takeFlag, hgiven]
      · simp [takeFlag, hgiven, Flag.IsSwitch, eq_comm]
  | force =>
      by_cases hgiven : Flag.force ∈ given
      · simp [takeFlag, hgiven]
      · simp [takeFlag, hgiven, Flag.IsSwitch, eq_comm]

theorem takeLong_eq_ok_iff {name : String} {value : Option String} {ahead : List String} :
    takeLong scope given name value ahead = .ok taken ↔
      ∃ flags, (Token.long name value).Gives flags ∧ scope.Takes given flags ∧
        taken = given ++ flags := by
  constructor
  · intro htake
    unfold takeLong at htake
    split at htake
    · next flag hflag =>
      obtain ⟨hknown, rfl⟩ := flagOfLong?_eq_some_iff.mp hflag
      obtain ⟨hswitch, hfresh, rfl⟩ := takeFlag_eq_ok_iff.mp htake
      exact ⟨[flag], .long hswitch, Scope.Takes.singleton_iff.mpr ⟨hknown, hfresh⟩, rfl⟩
    · cases htake
    · cases htake
  · rintro ⟨flags, hgives, htakes, rfl⟩
    cases hgives with
    | @long flag hswitch =>
        obtain ⟨hknown, hfresh⟩ := Scope.Takes.singleton_iff.mp htakes
        simp only [takeLong, flagOfLong?_eq_some_iff.mpr ⟨hknown, rfl⟩]
        exact takeFlag_eq_ok_iff.mpr ⟨hswitch, hfresh, rfl⟩

theorem takeCluster_eq_ok_iff {letters : List Char} :
    takeCluster scope given letters = .ok taken ↔
      ∃ flags, (Token.cluster letters).Gives flags ∧ scope.Takes given flags ∧
        taken = given ++ flags := by
  simp only [Token.gives_cluster_iff]
  induction letters generalizing given with
  | nil =>
      constructor
      · rintro ⟨⟩
        exact ⟨[], .nil, .nil, (List.append_nil _).symm⟩
      · rintro ⟨flags, ⟨⟩, -, rfl⟩
        rw [takeCluster, List.append_nil]
  | cons letter letters ih =>
      constructor
      · intro htake
        rw [takeCluster] at htake
        split at htake
        · cases htake
        · next flag hflag =>
          obtain ⟨hknown, rfl⟩ := flagOfShort?_eq_some_iff.mp hflag
          split at htake
          · cases htake
          · next behind hbehind =>
            obtain ⟨hswitch, hfresh, rfl⟩ := takeFlag_eq_ok_iff.mp hbehind
            obtain ⟨more, hletters, htakes, rfl⟩ := ih.mp htake
            have hhead := Scope.Takes.singleton_iff.mpr ⟨hknown, hfresh⟩
            exact ⟨[flag] ++ more, hletters.cons hswitch,
              Scope.Takes.append_iff.mpr ⟨hhead, htakes⟩, List.append_assoc _ _ _⟩
      · rintro ⟨flags, hletters, htakes, rfl⟩
        obtain ⟨flag, more, rfl, rfl, hswitch, hmore⟩ := hletters.exists_of_cons
        rw [← List.singleton_append] at htakes
        obtain ⟨hhead, htail⟩ := Scope.Takes.append_iff.mp htakes
        obtain ⟨hknown, hfresh⟩ := Scope.Takes.singleton_iff.mp hhead
        simp only [takeCluster, flagOfShort?_eq_some_iff.mpr ⟨hknown, rfl⟩,
          takeFlag_eq_ok_iff.mpr ⟨hswitch, hfresh, rfl⟩]
        exact ih.mpr ⟨more, hmore, htail, (List.append_cons given flag more)⟩

end Take

end VmLifecycle.CommandLine
