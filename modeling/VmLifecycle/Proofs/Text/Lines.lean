import Mathlib.Data.List.TakeWhile
import VmLifecycle.Text.Blank

namespace VmLifecycle

def AreBlanks (cs : List Char) : Prop :=
  ∀ c ∈ cs, isBlank c = true

/-- The code points with the Unicode property White_Space. -/
def whiteSpace : List Nat :=
  [0x09, 0x0a, 0x0b, 0x0c, 0x0d, 0x20, 0x85, 0xa0, 0x1680, 0x2000, 0x2001, 0x2002, 0x2003,
    0x2004, 0x2005, 0x2006, 0x2007, 0x2008, 0x2009, 0x200a, 0x2028, 0x2029, 0x202f, 0x205f,
    0x3000]

def AreWhiteSpace (cs : List Char) : Prop :=
  ∀ c ∈ cs, c.toNat ∈ whiteSpace

theorem isBlank_iff {c : Char} : isBlank c = true ↔ c.toNat ∈ whiteSpace := by
  simp only [isBlank, whiteSpace, Bool.or_eq_true, Bool.and_eq_true, decide_eq_true_eq,
    List.mem_cons, List.not_mem_nil, or_false]
  omega

theorem areBlanks_iff {cs : List Char} : AreBlanks cs ↔ AreWhiteSpace cs :=
  forall₂_congr fun _ _ => isBlank_iff

/-- What a text holds between the white space at its two ends. -/
structure IsCore (cs core : List Char) : Prop where
  between : ∃ before after, AreWhiteSpace before ∧ AreWhiteSpace after ∧
    cs = before ++ core ++ after
  first : ∀ c ∈ core.head?, c.toNat ∉ whiteSpace
  last : ∀ c ∈ core.getLast?, c.toNat ∉ whiteSpace

section Trim

variable {before after cs core : List Char}

theorem areBlanks_nil : AreBlanks [] :=
  fun _ hc => absurd hc List.not_mem_nil

theorem AreBlanks.append (hbefore : AreBlanks before) (hafter : AreBlanks after) :
    AreBlanks (before ++ after) := by
  intro c hc
  rcases List.mem_append.mp hc with hfirst | hsecond
  · exact hbefore c hfirst
  · exact hafter c hsecond

theorem trimChars_append_left (hbefore : AreBlanks before) :
    trimChars (before ++ cs) = trimChars cs := by
  rw [trimChars, List.dropWhile_append_of_pos hbefore, trimChars]

theorem trimChars_append_right (hafter : AreBlanks after) :
    trimChars (cs ++ after) = trimChars cs := by
  have hreverse : ∀ c ∈ after.reverse, isBlank c = true :=
    fun c hc => hafter c (List.mem_reverse.mp hc)
  rw [trimChars, trimChars, List.dropWhile_append]
  split
  · next hnone =>
      have hempty : cs.dropWhile isBlank = [] := List.isEmpty_iff.mp hnone
      rw [hempty, List.dropWhile_eq_nil_iff.mpr hafter]
  · rw [List.reverse_append, List.dropWhile_append_of_pos hreverse]

theorem exists_blanks_after (cs : List Char) :
    ∃ after, AreBlanks after ∧ trimChars cs ++ after = cs.dropWhile isBlank := by
  let rest := cs.dropWhile isBlank
  refine ⟨(rest.reverse.takeWhile isBlank).reverse, ?_, ?_⟩
  · exact fun c hc => List.mem_takeWhile_imp (List.mem_reverse.mp hc)
  · rw [trimChars, ← List.reverse_append, List.takeWhile_append_dropWhile, List.reverse_reverse]

theorem exists_blanks_around (cs : List Char) :
    ∃ before after, AreBlanks before ∧ AreBlanks after ∧
      cs = before ++ trimChars cs ++ after := by
  obtain ⟨after, hafter, hrest⟩ := exists_blanks_after cs
  refine ⟨cs.takeWhile isBlank, after, fun c hc => List.mem_takeWhile_imp hc, hafter, ?_⟩
  rw [List.append_assoc, hrest, List.takeWhile_append_dropWhile]

theorem trimChars_eq_iff (hcore : trimChars core = core) :
    trimChars cs = core ↔
      ∃ before after, AreBlanks before ∧ AreBlanks after ∧ cs = before ++ core ++ after := by
  constructor
  · rintro rfl
    exact exists_blanks_around cs
  · rintro ⟨before, after, hbefore, hafter, rfl⟩
    rw [trimChars_append_right hafter, trimChars_append_left hbefore, hcore]

theorem trimChars_of_ends {first last : Char} (hfirst : isBlank first = false)
    (hlast : isBlank last = false) (cs : List Char) :
    trimChars (first :: cs ++ [last]) = first :: cs ++ [last] := by
  rw [trimChars, List.cons_append, List.dropWhile_cons_of_neg (by simp [hfirst]),
    ← List.cons_append, List.reverse_append, List.reverse_singleton, List.singleton_append,
    List.dropWhile_cons_of_neg (by simp [hlast]), List.reverse_cons, List.reverse_reverse]

theorem trimChars_of_areBlanks (hcs : AreBlanks cs) : trimChars cs = [] := by
  rw [← List.append_nil cs, trimChars_append_left hcs]
  rfl

theorem isCore_trimChars (cs : List Char) : IsCore cs (trimChars cs) := by
  refine ⟨?_, ?_, ?_⟩
  · obtain ⟨before, after, hbefore, hafter, hcs⟩ := exists_blanks_around cs
    exact ⟨before, after, areBlanks_iff.mp hbefore, areBlanks_iff.mp hafter, hcs⟩
  · intro c hc
    obtain ⟨after, -, hrest⟩ := exists_blanks_after cs
    have hfirst := List.head?_dropWhile_not isBlank cs
    rw [← hrest, List.head?_append, Option.mem_def.mp hc] at hfirst
    rw [← isBlank_iff]
    simpa using hfirst
  · intro c hc
    have hlast := List.head?_dropWhile_not isBlank (cs.dropWhile isBlank).reverse
    rw [trimChars, List.getLast?_reverse] at hc
    rw [Option.mem_def.mp hc] at hlast
    rw [← isBlank_iff]
    simpa using hlast

end Trim

section Lines

variable {c : Char} {cs line : List Char} {more : List (List Char)}

theorem lines_cons_feed (cs : List Char) : lines ('\n' :: cs) = [] :: lines cs := by
  rw [lines, if_pos rfl]

theorem lines_cons_of_nil (hc : c ≠ '\n') (hlines : lines cs = []) :
    lines (c :: cs) = [[c]] := by
  rw [lines, if_neg hc, hlines]

theorem lines_cons_of_cons (hc : c ≠ '\n') (hlines : lines cs = line :: more) :
    lines (c :: cs) = (c :: line) :: more := by
  rw [lines, if_neg hc, hlines]

theorem exists_line_of_cons (c : Char) (cs : List Char) :
    ∃ line more, lines (c :: cs) = line :: more := by
  by_cases hc : c = '\n'
  · subst hc
    exact ⟨_, _, lines_cons_feed cs⟩
  · cases hlines : lines cs with
    | nil => exact ⟨_, _, lines_cons_of_nil hc hlines⟩
    | cons line more => exact ⟨_, _, lines_cons_of_cons hc hlines⟩

theorem lines_append_feed (before after : List Char) :
    lines (before ++ '\n' :: after) = lines (before ++ ['\n']) ++ lines after := by
  induction before with
  | nil => simp [lines_cons_feed, lines]
  | cons c before ih =>
      by_cases hc : c = '\n'
      · subst hc
        simp only [List.cons_append, lines_cons_feed, ih]
      · obtain ⟨line, more, hfirst⟩ : ∃ line more, lines (before ++ ['\n']) = line :: more := by
          cases before with
          | nil => exact exists_line_of_cons '\n' []
          | cons d before => exact exists_line_of_cons d (before ++ ['\n'])
        rw [hfirst, List.cons_append] at ih
        rw [List.cons_append, lines_cons_of_cons hc ih, List.cons_append,
          lines_cons_of_cons hc hfirst, List.cons_append]

theorem lines_of_line (hline : '\n' ∉ cs) : lines cs = if cs = [] then [] else [cs] := by
  induction cs with
  | nil => rfl
  | cons c cs ih =>
      obtain ⟨hc, hmore⟩ : '\n' ≠ c ∧ '\n' ∉ cs := by simpa using hline
      cases cs with
      | nil => exact lines_cons_of_nil hc.symm rfl
      | cons d cs => exact lines_cons_of_cons hc.symm (ih hmore)

theorem lines_append_last_feed (cs : List Char) :
    lines (cs ++ ['\n']) = lines cs ∨ lines (cs ++ ['\n']) = lines cs ++ [[]] := by
  induction cs with
  | nil => exact .inr rfl
  | cons c cs ih =>
      by_cases hc : c = '\n'
      · subst hc
        simp only [List.cons_append, lines_cons_feed]
        rcases ih with hsame | hempty
        · exact .inl (by rw [hsame])
        · exact .inr (by rw [hempty])
      · cases hlines : lines cs with
        | nil =>
            have hnone : cs = [] := by
              cases cs with
              | nil => rfl
              | cons d rest =>
                  obtain ⟨line, more, hline⟩ := exists_line_of_cons d rest
                  rw [hline] at hlines
                  cases hlines
            subst hnone
            left
            rw [lines_cons_of_nil hc hlines]
            exact lines_cons_of_cons hc (lines_cons_feed [])
        | cons line more =>
            rw [hlines, List.cons_append] at ih
            rw [lines_cons_of_cons hc hlines, List.cons_append]
            rcases ih with hsame | hempty
            · exact .inl (lines_cons_of_cons hc hsame)
            · exact .inr (lines_cons_of_cons hc hempty)

end Lines

end VmLifecycle
