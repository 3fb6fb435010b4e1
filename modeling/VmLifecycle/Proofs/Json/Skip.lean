import VmLifecycle.Json.Skip
import VmLifecycle.Proofs.Json.Literal
import VmLifecycle.Proofs.Json.Number

namespace VmLifecycle.Json

/-!
Skipping a value. Whatever brackets are open, a value costs some rounds and leaves the scanner
where a value without parts would: behind it, on the way up through the open brackets.
-/

def climb (rounds : Nat) : Except Stop Ascent → Except Stop (List Char)
  | .error stop => .error stop
  | .ok (.finished rest) => .ok rest
  | .ok (.item frames rest) =>
      match enter frames rest with
      | .error stop => .error stop
      | .ok rest => skipRounds rounds frames rest

theorem skipRounds_succ (rounds : Nat) (frames : List Frame) (cs : List Char) :
    skipRounds (rounds + 1) frames cs = climb rounds (skipHead frames cs) := by
  rw [skipRounds]
  cases skipHead frames cs with
  | error stop => rfl
  | ok ascent => cases ascent <;> rfl

theorem climb_item {rounds : Nat} {frames : List Frame} {cs rest : List Char}
    (henter : enter frames cs = .ok rest) :
    climb rounds (.ok (.item frames cs)) = skipRounds rounds frames rest := by
  rw [climb, henter]

/-- The value starts as one and is skipped in no more rounds than it has characters. -/
structure Skippable (value : List Char) : Prop where
  head : ∃ c cs, value = c :: cs ∧ isSpace c = false ∧ c ≠ ']'
  rounds : ∃ taken, taken ≤ value.length ∧ ∀ rounds frames before rest,
    IsSpaces before → IsDelimited rest →
      skipRounds (rounds + taken) frames (before ++ value ++ rest) =
        climb rounds (ascend true frames rest)

section Leaf

variable {before value rest : List Char}

theorem skipSpace_spaced (hbefore : IsSpaces before) {c : Char} (hc : isSpace c = false)
    (cs : List Char) : skipSpace (before ++ c :: cs) = c :: cs := by
  rw [skipSpace_append hbefore, skipSpace_cons hc]

theorem skippable_of_skipLeaf {c : Char} {cs : List Char} (hspace : isSpace c = false)
    (hlist : c ≠ '[') (hobject : c ≠ '\x7b') (hclose : c ≠ ']')
    (hleaf : ∀ rest, IsDelimited rest → skipLeaf (c :: cs ++ rest) = .ok rest) :
    Skippable (c :: cs) := by
  refine ⟨⟨c, cs, rfl, hspace, hclose⟩, 1, by simp, ?_⟩
  intro rounds frames before rest hbefore hend
  have hhead : skipHead frames (before ++ (c :: cs) ++ rest) = ascend true frames rest := by
    rw [List.append_assoc, List.cons_append, skipHead, skipSpace_spaced hbefore hspace]
    split
    · next heq => cases heq; exact absurd rfl hlist
    · next heq => cases heq; exact absurd rfl hobject
    · rw [← List.cons_append, hleaf rest hend]
  rw [skipRounds_succ, hhead]

theorem skipLeaf_digit {c : Char} (hc : c.isDigit = true) (cs : List Char) :
    skipLeaf (c :: cs) = skipNumber (c :: cs) := by
  have hdigit : Numeral.isDigit c = true := hc
  rw [skipLeaf, if_pos hdigit]
  all_goals
    rintro rfl
    cases hc

theorem IsWhole.head {whole : List Char} (hwhole : IsWhole whole) :
    ∃ c cs, whole = c :: cs ∧ c.isDigit = true := by
  cases hwhole with
  | zero => exact ⟨'0', [], rfl, rfl⟩
  | digits hzero hfirst hmore => exact ⟨_, _, rfl, hfirst⟩

theorem not_bracket_of_isDigit {c : Char} (hc : c.isDigit = true) :
    isSpace c = false ∧ c ≠ '[' ∧ c ≠ '\x7b' ∧ c ≠ ']' := by
  have hne : ∀ d : Char, d.isDigit = false → c ≠ d := by
    rintro d hd rfl
    rw [hc] at hd
    cases hd
  simp [isSpace, hne]

theorem skippable_word (hword : value ∈ words) : Skippable value := by
  simp only [words, List.mem_cons, List.not_mem_nil, or_false] at hword
  rcases hword with rfl | rfl | rfl
  all_goals
    apply skippable_of_skipLeaf rfl (by decide) (by decide) (by decide)
    intro rest hend
    simp [skipLeaf, word]

theorem skippable_number (hnumber : IsNumber value) : Skippable value := by
  cases hnumber with
  | @positive whole fraction exponent hwhole hfraction hexponent =>
      obtain ⟨c, cs, rfl, hc⟩ := hwhole.head
      obtain ⟨hspace, hlist, hobject, hclose⟩ := not_bracket_of_isDigit hc
      apply skippable_of_skipLeaf hspace hlist hobject hclose
      intro rest hend
      have hskip := skipNumber_append hwhole hfraction hexponent hend
      rw [← hskip]
      exact skipLeaf_digit hc (cs ++ fraction ++ exponent ++ rest)
  | @negative whole fraction exponent hwhole hfraction hexponent =>
      apply skippable_of_skipLeaf rfl (by decide) (by decide) (by decide)
      intro rest hend
      exact skipNumber_append hwhole hfraction hexponent hend

theorem skippable_string (hstring : IsString value) : Skippable value := by
  obtain ⟨inside, hinside, rfl⟩ := hstring
  apply skippable_of_skipLeaf rfl (by decide) (by decide) (by decide)
  intro rest hend
  have hskip := skipString_of_isInside hinside rest
  simpa [skipLeaf] using hskip

end Leaf

namespace Frame

def opening : Frame → Char
  | list => '['
  | object => '\x7b'

def IsLead : Frame → List Char → Prop
  | list, lead => lead = []
  | object, lead => Json.IsLead IsString lead

end Frame

section Key

variable {lead : List Char}

theorem skipColon_spaced {after : List Char} (hafter : IsSpaces after) (rest : List Char) :
    skipColon (after ++ ':' :: rest) = .ok rest := by
  rw [skipColon, skipSpace_spaced hafter (by decide)]
  rfl

theorem skipKey_of_isString {key after : List Char} (hkey : IsString key)
    (hafter : IsSpaces after) (rest : List Char) :
    skipKey (key ++ after ++ ':' :: rest) = .ok rest := by
  obtain ⟨inside, hinside, rfl⟩ := hkey
  have hcs : '"' :: inside ++ ['"'] ++ after ++ ':' :: rest =
      '"' :: (inside ++ '"' :: (after ++ ':' :: rest)) := by simp
  rw [hcs, skipKey, skipSpace_cons (by decide)]
  simp only [skipString_of_isInside hinside, skipColon_spaced hafter]

theorem enter_of_isLead {frame : Frame} (hlead : frame.IsLead lead) (outer : List Frame)
    (rest : List Char) : enter (frame :: outer) (lead ++ rest) = .ok rest := by
  cases frame with
  | list =>
      cases hlead
      rfl
  | object =>
      cases hlead with
      | @key before key after hbefore hkey hafter =>
          have hskip := skipKey_of_isString hkey hafter rest
          obtain ⟨inside, hinside, rfl⟩ := hkey
          have hspaces : skipSpace (before ++ ('"' :: inside ++ ['"']) ++ after ++ [':'] ++ rest) =
              skipSpace (('"' :: inside ++ ['"']) ++ after ++ ':' :: rest) := by
            simp only [List.append_assoc, skipSpace_append hbefore]
            rfl
          rw [enter, skipKey, hspaces]
          exact hskip

end Key

section Ascend

variable {frame : Frame} {outer : List Frame} {before after rest : List Char}

theorem ascend_spaces (afterItem : Bool) (hbefore : IsSpaces before) :
    ascend afterItem (frame :: outer) (before ++ rest) =
      ascend afterItem (frame :: outer) rest := by
  induction before with
  | nil => rfl
  | cons c before ih =>
      have hc : isSpace c = true := isSpace_of_mem (hbefore c List.mem_cons_self)
      rw [List.cons_append, ascend, if_pos hc]
      exact ih fun d hd => hbefore d (List.mem_cons_of_mem c hd)

theorem ascend_close (afterItem : Bool) :
    ascend afterItem (frame :: outer) (frame.close :: rest) = ascend true outer rest := by
  cases frame <;> rw [ascend, if_neg (by decide), if_neg (by simp [Frame.close]), if_pos rfl]

theorem ascend_comma :
    ascend true (frame :: outer) (',' :: rest) = .ok (.item (frame :: outer) rest) := by
  rw [ascend, if_neg (by decide), if_pos (by decide)]

theorem ascend_first {c : Char} (hspace : isSpace c = false) (hclose : c ≠ frame.close) :
    ascend false (frame :: outer) (c :: rest) = .ok (.item (frame :: outer) (c :: rest)) := by
  rw [ascend, if_neg (by simp [hspace]), if_neg (by simp), if_neg hclose, if_neg (by simp)]

theorem isDelimited_part (frame : Frame) (hafter : IsSpaces after) (more : List Part)
    (rest : List Char) : IsDelimited (after ++ Part.joinMore more ++ frame.close :: rest) := by
  intro c hc
  cases after with
  | cons d after =>
      cases hc
      exact List.mem_append_left [',', ']', '\x7d'] (hafter c List.mem_cons_self)
  | nil =>
      cases more with
      | nil =>
          cases hc
          cases frame <;> decide
      | cons part more =>
          cases hc
          decide

end Ascend

structure Frame.Holds (frame : Frame) (part : Part) : Prop where
  lead : frame.IsLead part.lead
  spaced : part.IsSpaced
  value : Skippable part.value

section Compound

variable {frame : Frame} {gap : List Char} {part : Part} {parts more : List Part}

theorem climb_more (hmore : ∀ part ∈ more, frame.Holds part) :
    ∃ taken, taken ≤ (Part.joinMore more).length ∧ ∀ rounds outer after rest,
      IsSpaces after →
        climb (rounds + taken)
            (ascend true (frame :: outer) (after ++ Part.joinMore more ++ frame.close :: rest)) =
          climb rounds (ascend true outer rest) := by
  induction more with
  | nil =>
      refine ⟨0, Nat.zero_le _, ?_⟩
      intro rounds outer after rest hafter
      rw [List.append_assoc, ascend_spaces true hafter]
      exact congrArg (climb rounds) (ascend_close true)
  | cons part more ih =>
      obtain ⟨hpart, hrest⟩ := List.forall_mem_cons.mp hmore
      obtain ⟨hgap, hbehind⟩ := hpart.spaced
      obtain ⟨takenMore, hboundMore, hclimb⟩ := ih hrest
      obtain ⟨taken, hbound, hskip⟩ := hpart.value.rounds
      -- The part's own rounds end behind it, with the frame still open, where `ih` goes on.
      refine ⟨takenMore + taken, ?_, ?_⟩
      · simp only [Part.joinMore, Part.chars, List.flatMap_cons, List.length_append,
          List.length_cons] at hboundMore ⊢
        omega
      · intro rounds outer after rest hafter
        have hcs : Part.joinMore (part :: more) ++ frame.close :: rest =
            ',' :: (part.lead ++ (part.gap ++ part.value ++
              (part.after ++ Part.joinMore more ++ frame.close :: rest))) := by
          simp [Part.joinMore, Part.chars]
        rw [List.append_assoc, ascend_spaces true hafter, hcs, ascend_comma,
          climb_item (enter_of_isLead hpart.lead outer _), ← Nat.add_assoc,
          hskip _ _ _ _ hgap (isDelimited_part frame hbehind more rest),
          hclimb _ _ _ _ hbehind]

theorem enter_first (hpart : frame.Holds part) (hgap : IsSpaces gap) (outer : List Frame)
    (behind : List Char) :
    ∃ cs before, IsSpaces before ∧
      ascend false (frame :: outer) (gap ++ part.lead ++ part.gap ++ part.value ++ behind) =
        .ok (.item (frame :: outer) cs) ∧
      enter (frame :: outer) cs = .ok (before ++ part.value ++ behind) := by
  obtain ⟨hpartGap, -⟩ := hpart.spaced
  have hlead := hpart.lead
  cases frame with
  | list =>
      obtain ⟨c, cs, hvalue, hspace, hclose⟩ := hpart.value.head
      have hnone : part.lead = [] := hlead
      refine ⟨part.value ++ behind, [], isSpaces_nil, ?_, rfl⟩
      rw [hnone, hvalue, List.append_nil, List.append_assoc, List.append_assoc,
        ascend_spaces false hgap, ascend_spaces false hpartGap]
      exact ascend_first hspace hclose
  | object =>
      obtain ⟨before, key, after, hbefore, hkey, hafter, hparts⟩ : ∃ before key after,
          IsSpaces before ∧ IsString key ∧ IsSpaces after ∧
            part.lead = before ++ key ++ after ++ [':'] := by
        generalize part.lead = lead at hlead
        cases hlead with
        | key hbefore hkey hafter => exact ⟨_, _, _, hbefore, hkey, hafter, rfl⟩
      -- The first item starts at its key, so the space before its value is still to come.
      refine ⟨key ++ after ++ ':' :: (part.gap ++ part.value ++ behind), part.gap, hpartGap,
        ?_, skipKey_of_isString hkey hafter _⟩
      obtain ⟨inside, -, rfl⟩ := hkey
      rw [hparts]
      simp only [List.append_assoc]
      rw [ascend_spaces false hgap, ascend_spaces false hbefore]
      exact ascend_first (by decide) (by decide)

theorem skipHead_opening {before : List Char} (hbefore : IsSpaces before) (frame : Frame)
    (outer : List Frame) (rest : List Char) :
    skipHead outer (before ++ frame.opening :: rest) = ascend false (frame :: outer) rest := by
  cases frame <;> rw [skipHead, skipSpace_spaced hbefore (by decide)] <;> rfl

theorem skippable_compound (hgap : IsSpaces gap) (hparts : ∀ part ∈ parts, frame.Holds part) :
    Skippable (frame.opening :: gap ++ Part.join parts ++ [frame.close]) := by
  refine ⟨⟨frame.opening, gap ++ Part.join parts ++ [frame.close], rfl, ?_, ?_⟩, ?_⟩
  · cases frame <;> decide
  · cases frame <;> decide
  · cases parts with
    | nil =>
        refine ⟨1, by simp, ?_⟩
        intro rounds outer before rest hbefore hend
        have hcs : before ++ (frame.opening :: gap ++ Part.join [] ++ [frame.close]) ++ rest =
            before ++ frame.opening :: (gap ++ frame.close :: rest) := by
          simp [Part.join]
        rw [hcs, skipRounds_succ, skipHead_opening hbefore, ascend_spaces false hgap,
          ascend_close]
    | cons first more =>
        obtain ⟨hfirst, hmore⟩ := List.forall_mem_cons.mp hparts
        obtain ⟨hgapFirst, hbehind⟩ := hfirst.spaced
        obtain ⟨takenMore, hboundMore, hclimb⟩ := climb_more hmore
        obtain ⟨taken, hbound, hskip⟩ := hfirst.value.rounds
        refine ⟨takenMore + taken + 1, ?_, ?_⟩
        · simp only [Part.join, Part.chars, List.length_append, List.length_cons]
          omega
        · intro rounds outer before rest hbefore hend
          let behind := first.after ++ Part.joinMore more ++ frame.close :: rest
          have hcs : before ++ (frame.opening :: gap ++ Part.join (first :: more) ++
                [frame.close]) ++ rest =
              before ++ frame.opening ::
                (gap ++ first.lead ++ first.gap ++ first.value ++ behind) := by
            simp [Part.join, Part.chars, behind]
          obtain ⟨cs, space, hspace, hascend, henter⟩ := enter_first hfirst hgap outer behind
          rw [hcs, ← Nat.add_assoc, skipRounds_succ, skipHead_opening hbefore, hascend,
            climb_item henter, ← Nat.add_assoc,
            hskip _ _ _ _ hspace (isDelimited_part frame hbehind more rest),
            hclimb _ _ _ _ hbehind]

end Compound

theorem IsValue.skippable {value : List Char} (hvalue : IsValue value) : Skippable value := by
  induction hvalue with
  | word hword => exact skippable_word hword
  | number hnumber => exact skippable_number hnumber
  | string hstring => exact skippable_string hstring
  | list hgap parts hleads hspaced hvalues ih =>
      have hparts : ∀ part ∈ parts, Frame.list.Holds part :=
        fun part hpart => ⟨hleads part hpart, hspaced part hpart, ih part hpart⟩
      exact skippable_compound hgap hparts
  | object hgap parts hleads hspaced hvalues ih =>
      have hparts : ∀ part ∈ parts, Frame.object.Holds part :=
        fun part hpart => ⟨hleads part hpart, hspaced part hpart, ih part hpart⟩
      exact skippable_compound hgap hparts

/-- A well-formed value of any depth is skipped, whatever follows it. -/
theorem skipValue_append {bound : Nat} {gap value rest : List Char} (hvalue : IsValue value)
    (hbound : value.length ≤ bound) (hgap : IsSpaces gap) (hend : IsDelimited rest) :
    skipValue bound (gap ++ value ++ rest) = .ok rest := by
  obtain ⟨taken, htaken, hskip⟩ := hvalue.skippable.rounds
  have hrounds : bound = bound - taken + taken := by omega
  rw [skipValue, hrounds, hskip _ _ _ _ hgap hend, ascend, climb]

end VmLifecycle.Json
