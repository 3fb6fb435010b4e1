import VmLifecycle.Json.Literal
import VmLifecycle.Proofs.Json.Grammar

namespace VmLifecycle.Json

section Space

variable {before : List Char} {c : Char}

theorem isSpace_of_mem (hc : c ∈ [' ', '\t', '\n', '\r']) : isSpace c = true := by
  simp only [List.mem_cons, List.not_mem_nil, or_false] at hc
  rcases hc with rfl | rfl | rfl | rfl <;> rfl

theorem skipSpace_append (hbefore : IsSpaces before) (rest : List Char) :
    skipSpace (before ++ rest) = skipSpace rest := by
  induction before with
  | nil => rfl
  | cons c before ih =>
      have hc : isSpace c = true := isSpace_of_mem (hbefore c List.mem_cons_self)
      rw [List.cons_append, skipSpace, List.dropWhile_cons_of_pos hc]
      exact ih fun d hd => hbefore d (List.mem_cons_of_mem c hd)

theorem skipSpace_cons (hc : isSpace c = false) (rest : List Char) :
    skipSpace (c :: rest) = c :: rest := by
  rw [skipSpace, List.dropWhile_cons_of_neg (by simp [hc])]

end Space

section Unit

variable {value : Nat} {c : Char}

theorem hexDigit?_of_isHex (hhex : IsHex value c) : hexDigit? c = some value := by
  have hlower : ∀ n : Fin 16, hexDigit? lowerHex[n] = some n.val := by decide
  have hupper : ∀ n : Fin 16, hexDigit? upperHex[n] = some n.val := by decide
  rcases hhex with hdigit | hdigit
  · obtain ⟨hlt, rfl⟩ := List.getElem?_eq_some_iff.mp hdigit
    exact hlower ⟨value, hlt⟩
  · obtain ⟨hlt, rfl⟩ := List.getElem?_eq_some_iff.mp hdigit
    exact hupper ⟨value, hlt⟩

theorem utf8Size_of_isHex (hhex : IsHex value c) : c.utf8Size = 1 := by
  have hlower : ∀ digit ∈ lowerHex, digit.utf8Size = 1 := by
    simp [lowerHex, Char.utf8Size]
  have hupper : ∀ digit ∈ upperHex, digit.utf8Size = 1 := by
    simp [upperHex, Char.utf8Size]
  rcases hhex with hdigit | hdigit
  · exact hlower c (List.mem_of_getElem? hdigit)
  · exact hupper c (List.mem_of_getElem? hdigit)

theorem IsUnit.length_eq {unit : Nat} {digits : List Char} (hunit : IsUnit unit digits) :
    digits.length = 4 := by
  cases hunit with
  | digits hfirst hsecond hthird hfourth => rfl

theorem codeUnit_of_isUnit {unit : Nat} {digits : List Char} (hunit : IsUnit unit digits)
    (rest : List Char) : codeUnit (digits ++ rest) = .ok unit := by
  cases hunit with
  | digits hfirst hsecond hthird hfourth =>
      simp [codeUnit, width, utf8Size_of_isHex hfirst, utf8Size_of_isHex hsecond,
        utf8Size_of_isHex hthird, utf8Size_of_isHex hfourth, hexDigit?_of_isHex hfirst,
        hexDigit?_of_isHex hsecond, hexDigit?_of_isHex hthird, hexDigit?_of_isHex hfourth]

end Unit

section Escape

variable {c letter : Char} {digits high low : List Char}

theorem shortEscape?_of_mem (hescape : (letter, c) ∈ shortEscapes) :
    shortEscape? letter = some c ∧ letter ≠ 'u' := by
  have hall : ∀ escape ∈ shortEscapes,
      shortEscape? escape.1 = some escape.2 ∧ escape.1 ≠ 'u' := by decide
  exact hall _ hescape

theorem escaped_short (hescape : (letter, c) ∈ shortEscapes) (rest : List Char) :
    escaped (letter :: rest) = .ok (c, 1) := by
  obtain ⟨hshort, hletter⟩ := shortEscape?_of_mem hescape
  rw [escaped]
  · rw [hshort]
  · exact hletter

theorem not_surrogate (c : Char) :
    isLowSurrogate c.toNat = false ∧ isHighSurrogate c.toNat = false := by
  have hvalid : c.toNat < 0xd800 ∨ 0xdfff < c.toNat ∧ c.toNat < 0x110000 := c.valid
  simp only [isLowSurrogate, isHighSurrogate, Bool.and_eq_false_iff, decide_eq_false_iff_not]
  omega

theorem escaped_unit (hunit : IsUnit c.toNat digits) (rest : List Char) :
    escaped ('u' :: (digits ++ rest)) = .ok (c, 5) := by
  obtain ⟨hlow, hhigh⟩ := not_surrogate c
  simp [escaped, codeUnit_of_isUnit hunit, hlow, hhigh]

theorem joinSurrogates_split (hplane : 0x10000 ≤ c.toNat) :
    joinSurrogates (0xd800 + (c.toNat - 0x10000) / 0x400)
      (0xdc00 + (c.toNat - 0x10000) % 0x400) = c := by
  have hsum : (0xd800 + (c.toNat - 0x10000) / 0x400 - 0xd800) * 0x400 +
      (0xdc00 + (c.toNat - 0x10000) % 0x400 - 0xdc00) + 0x10000 = c.toNat := by omega
  rw [joinSurrogates, hsum, Char.ofNat_toNat]

theorem escaped_pair (hplane : 0x10000 ≤ c.toNat)
    (hhigh : IsUnit (0xd800 + (c.toNat - 0x10000) / 0x400) high)
    (hlow : IsUnit (0xdc00 + (c.toNat - 0x10000) % 0x400) low) (rest : List Char) :
    escaped ('u' :: (high ++ '\\' :: 'u' :: (low ++ rest))) = .ok (c, 11) := by
  have hvalid : c.toNat < 0xd800 ∨ 0xdfff < c.toNat ∧ c.toNat < 0x110000 := c.valid
  have hfirst : isLowSurrogate (0xd800 + (c.toNat - 0x10000) / 0x400) = false ∧
      isHighSurrogate (0xd800 + (c.toNat - 0x10000) / 0x400) = true := by
    simp only [isLowSurrogate, isHighSurrogate, Bool.and_eq_false_iff, Bool.and_eq_true,
      decide_eq_false_iff_not, decide_eq_true_eq]
    omega
  have hsecond : isLowSurrogate (0xdc00 + (c.toNat - 0x10000) % 0x400) = true := by
    simp only [isLowSurrogate, Bool.and_eq_true, decide_eq_true_eq]
    omega
  have hdrop : (high ++ '\\' :: 'u' :: (low ++ rest)).drop 4 = '\\' :: 'u' :: (low ++ rest) :=
    List.drop_left' hhigh.length_eq
  simp only [escaped, codeUnit_of_isUnit hhigh, hfirst.1, hfirst.2, hdrop, lowHalf,
    codeUnit_of_isUnit hlow, hsecond, joinSurrogates_split hplane, if_true,
    Bool.false_eq_true, if_false]

end Escape

section Read

variable {c : Char} {spelled text inside : List Char}

theorem readStringFrom_plain (hplain : IsPlain c) (read rest : List Char) :
    readStringFrom read (c :: rest) = readStringFrom (c :: read) rest := by
  obtain ⟨hquote, hbackslash, hcontrol⟩ := hplain
  rw [readStringFrom, if_neg hquote, if_neg hbackslash, if_neg (Nat.not_lt.mpr hcontrol)]

theorem readStringFrom_escaped {cs : List Char} {taken : Nat}
    (hescaped : escaped cs = .ok (c, taken)) (read : List Char) :
    readStringFrom read ('\\' :: cs) = readStringFrom (c :: read) (cs.drop taken) := by
  rw [readStringFrom, if_neg (by decide), if_pos rfl, hescaped]

theorem readStringFrom_spelled (spells : Spells c spelled) (read rest : List Char) :
    readStringFrom read (spelled ++ rest) = readStringFrom (c :: read) rest := by
  cases spells with
  | plain hplain => exact readStringFrom_plain hplain read rest
  | short hescape => exact readStringFrom_escaped (escaped_short hescape rest) read
  | @unit digits _ hunit =>
      have hdrop : (digits ++ rest).drop 4 = rest := List.drop_left' hunit.length_eq
      rw [List.cons_append, List.cons_append,
        readStringFrom_escaped (escaped_unit hunit rest), List.drop_succ_cons, hdrop]
  | @pair high low _ hplane hhigh hlow =>
      have hdrop : (high ++ '\\' :: 'u' :: (low ++ rest)).drop 10 = rest := by
        simp [List.drop_append, hhigh.length_eq, hlow.length_eq]
      have hcs : '\\' :: 'u' :: high ++ '\\' :: 'u' :: low ++ rest =
          '\\' :: 'u' :: (high ++ '\\' :: 'u' :: (low ++ rest)) := by simp
      rw [hcs, readStringFrom_escaped (escaped_pair hplane hhigh hlow rest),
        List.drop_succ_cons, hdrop]

theorem readStringFrom_spellsAll (spells : SpellsAll text inside) (read rest : List Char) :
    readStringFrom read (inside ++ '"' :: rest) = .ok (read.reverse ++ text, rest) := by
  induction spells generalizing read with
  | nil =>
      rw [List.nil_append, readStringFrom, if_pos rfl, List.append_nil]
  | cons first more ih =>
      rw [List.append_assoc, readStringFrom_spelled first, ih]
      simp

theorem readString_of_spellsAll {text : String} (spells : SpellsAll text.toList inside)
    (rest : List Char) : readString (inside ++ '"' :: rest) = .ok (text, rest) := by
  rw [readString, readStringFrom_spellsAll spells]
  simp

end Read

section Skip

variable {inside : List Char}

theorem skipString_of_isInside (hinside : IsInside inside) (rest : List Char) :
    skipString (inside ++ '"' :: rest) = .ok rest := by
  induction hinside with
  | nil => rw [List.nil_append, skipString, if_pos rfl]
  | plain hplain more ih =>
      obtain ⟨hquote, hbackslash, hcontrol⟩ := hplain
      rw [List.cons_append, skipString, if_neg hquote, if_neg hbackslash,
        if_neg (Nat.not_lt.mpr hcontrol), ih]
  | @short letter c rest' hescape more ih =>
      obtain ⟨hshort, hletter⟩ := shortEscape?_of_mem hescape
      have hlength : escapeLength (letter :: (rest' ++ '"' :: rest)) = .ok 1 := by
        rw [escapeLength]
        · rw [hshort]
        · exact hletter
      rw [List.cons_append, List.cons_append, skipString, if_neg (by decide), if_pos rfl, hlength]
      exact ih
  | @unit n digits rest' hunit more ih =>
      have hdrop : (digits ++ (rest' ++ '"' :: rest)).drop 4 = rest' ++ '"' :: rest :=
        List.drop_left' hunit.length_eq
      have hlength : escapeLength ('u' :: (digits ++ (rest' ++ '"' :: rest))) = .ok 5 := by
        rw [escapeLength, codeUnit_of_isUnit hunit]
      have hcs : '\\' :: 'u' :: digits ++ rest' ++ '"' :: rest =
          '\\' :: 'u' :: (digits ++ (rest' ++ '"' :: rest)) := by simp
      rw [hcs, skipString, if_neg (by decide), if_pos rfl, hlength]
      simp only [List.drop_succ_cons, hdrop, ih]

end Skip

end VmLifecycle.Json
