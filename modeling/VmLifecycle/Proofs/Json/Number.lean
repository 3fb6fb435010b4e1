import VmLifecycle.Json.Number
import VmLifecycle.Proofs.Json.Grammar

namespace VmLifecycle.Json

/-- What may stand behind a value: nothing, space, or a character of the enclosing form. -/
def IsDelimited (rest : List Char) : Prop :=
  ∀ c ∈ rest.head?, c ∈ [' ', '\t', '\n', '\r', ',', ']', '\x7d']

namespace Numeral

variable {cs whole fraction exponent rest : List Char}

theorem isDigit_of_areDigits (hdigits : AreDigits cs) : ∀ c ∈ cs, isDigit c = true :=
  hdigits

theorem startsWithDigit_append (hsome : cs ≠ []) (hdigits : AreDigits cs) :
    startsWithDigit (cs ++ rest) = true := by
  cases cs with
  | nil => exact absurd rfl hsome
  | cons c cs => exact hdigits c List.mem_cons_self

theorem startsWithDigit_eq_false (hstop : ∀ c ∈ rest.head?, isDigit c = false) :
    startsWithDigit rest = false := by
  cases rest with
  | nil => rfl
  | cons c rest => exact hstop c rfl

theorem takeWhile_digits (hdigits : AreDigits cs) (hstop : ∀ c ∈ rest.head?, isDigit c = false) :
    (cs ++ rest).takeWhile isDigit = cs := by
  have hnone : rest.takeWhile isDigit = [] := by
    cases rest with
    | nil => rfl
    | cons c rest => rw [List.takeWhile_cons, if_neg (by simp [hstop c rfl])]
  rw [List.takeWhile_append_of_pos (isDigit_of_areDigits hdigits), hnone, List.append_nil]

theorem dropWhile_digits (hdigits : AreDigits cs) (hstop : ∀ c ∈ rest.head?, isDigit c = false) :
    (cs ++ rest).dropWhile isDigit = rest := by
  rw [List.dropWhile_append_of_pos (isDigit_of_areDigits hdigits)]
  cases rest with
  | nil => rfl
  | cons c rest => rw [List.dropWhile_cons, if_neg (by simp [hstop c rfl])]

theorem not_digit_of_delimited (hend : IsDelimited rest) {c : Char} (hc : c ∈ rest.head?) :
    isDigit c = false ∧ c ≠ '.' ∧ c ≠ 'e' ∧ c ≠ 'E' := by
  have hall : ∀ d ∈ [' ', '\t', '\n', '\r', ',', ']', '\x7d'],
      isDigit d = false ∧ d ≠ '.' ∧ d ≠ 'e' ∧ d ≠ 'E' := by
    simp [isDigit]
  exact hall c (hend c hc)

theorem scanWhole_of_isWhole (atEnd : Fault) (hwhole : IsWhole whole)
    (hstop : ∀ c ∈ rest.head?, isDigit c = false) :
    scanWhole atEnd (whole ++ rest) = .ok (whole, rest) := by
  cases hwhole with
  | zero =>
      rw [List.cons_append, List.nil_append, scanWhole, startsWithDigit_eq_false hstop]
      rfl
  | @digits c cs hzero hfirst hmore =>
      have hdigit : isDigit c = true := hfirst
      rw [List.cons_append, scanWhole]
      · rw [takeWhile_digits hmore hstop, dropWhile_digits hmore hstop, if_pos hdigit]
      · exact hzero

theorem scanFraction_of_isFraction (atEnd : Fault) (hfraction : IsFraction fraction)
    (hstop : ∀ c ∈ rest.head?, isDigit c = false ∧ c ≠ '.') :
    ∃ digits, scanFraction atEnd (fraction ++ rest) = .ok (digits, rest) := by
  have hstop' : ∀ c ∈ rest.head?, isDigit c = false := fun c hc => (hstop c hc).1
  cases hfraction with
  | none =>
      refine ⟨[], ?_⟩
      rw [List.nil_append, scanFraction]
      rintro more rfl
      exact (hstop '.' rfl).2 rfl
  | @digits cs hsome hdigits =>
      have hmore : (cs ++ rest).isEmpty = false := by
        rw [List.isEmpty_eq_false_iff]
        exact List.append_ne_nil_of_left_ne_nil hsome rest
      refine ⟨cs, ?_⟩
      simp [scanFraction, hmore, startsWithDigit_append hsome hdigits,
        takeWhile_digits hdigits hstop', dropWhile_digits hdigits hstop']

theorem exponentSign_append {sign : List Char} (hsign : sign ∈ [[], ['+'], ['-']])
    (hsome : cs ≠ []) (hdigits : AreDigits cs) (rest : List Char) :
    ∃ up, exponentSign (sign ++ cs ++ rest) = (up, cs ++ rest) := by
  simp only [List.mem_cons, List.not_mem_nil, or_false] at hsign
  rcases hsign with rfl | rfl | rfl
  · cases cs with
    | nil => exact absurd rfl hsome
    | cons c cs =>
        have hc : isDigit c = true := hdigits c List.mem_cons_self
        refine ⟨true, ?_⟩
        rw [List.nil_append, List.cons_append, exponentSign]
        · rintro more ⟨⟩
          cases hc
        · rintro more ⟨⟩
          cases hc
  · exact ⟨true, rfl⟩
  · exact ⟨false, rfl⟩

theorem scanExponent_of_isExponent (atEnd : Fault) (hexponent : IsExponent exponent)
    (hend : IsDelimited rest) :
    ∃ read, scanExponent atEnd (exponent ++ rest) = .ok (read, rest) := by
  cases hexponent with
  | none =>
      refine ⟨none, ?_⟩
      cases rest with
      | nil => rfl
      | cons c rest =>
          obtain ⟨-, -, hlower, hupper⟩ := not_digit_of_delimited hend (c := c) rfl
          simp [scanExponent, hlower, hupper]
  | @digits letter sign cs hletter hsign hsome hdigits =>
      have hstop : ∀ c ∈ rest.head?, isDigit c = false :=
        fun c hc => (not_digit_of_delimited hend hc).1
      have hmore : (cs ++ rest).isEmpty = false := by
        rw [List.isEmpty_eq_false_iff]
        exact List.append_ne_nil_of_left_ne_nil hsome rest
      have hmark : (letter = 'e' || letter = 'E') = true := by
        simpa using hletter
      obtain ⟨up, hup⟩ := exponentSign_append hsign hsome hdigits rest
      refine ⟨some (up, cs), ?_⟩
      rw [List.cons_append, List.cons_append, scanExponent, if_pos hmark, hup]
      simp [hmore, startsWithDigit_append hsome hdigits, takeWhile_digits hdigits hstop,
        dropWhile_digits hdigits hstop]

theorem not_digit_of_isExponent (hexponent : IsExponent exponent) (hend : IsDelimited rest)
    {c : Char} (hc : c ∈ (exponent ++ rest).head?) : isDigit c = false ∧ c ≠ '.' := by
  cases hexponent with
  | none =>
      obtain ⟨hdigit, hpoint, -⟩ := not_digit_of_delimited hend hc
      exact ⟨hdigit, hpoint⟩
  | digits hletter hsign hsome hdigits =>
      have hall : ∀ d ∈ ['e', 'E'], isDigit d = false ∧ d ≠ '.' := by
        simp [isDigit]
      cases hc
      exact hall _ hletter

theorem not_digit_of_isFraction (hfraction : IsFraction fraction)
    (hstop : ∀ c ∈ rest.head?, isDigit c = false) {c : Char}
    (hc : c ∈ (fraction ++ rest).head?) : isDigit c = false := by
  cases hfraction with
  | none => exact hstop c hc
  | digits hsome hdigits =>
      cases hc
      rfl

theorem scan_append (atEnd : Fault) (hwhole : IsWhole whole)
    (hfraction : IsFraction fraction) (hexponent : IsExponent exponent) (hend : IsDelimited rest) :
    ∃ numeral, scan atEnd (whole ++ fraction ++ exponent ++ rest) = .ok (numeral, rest) := by
  have hbehind : ∀ c ∈ (exponent ++ rest).head?, isDigit c = false ∧ c ≠ '.' :=
    fun c hc => not_digit_of_isExponent hexponent hend hc
  have hmiddle : ∀ c ∈ (fraction ++ (exponent ++ rest)).head?, isDigit c = false :=
    fun c hc => not_digit_of_isFraction hfraction (fun d hd => (hbehind d hd).1) hc
  obtain ⟨digits, hdigits⟩ := scanFraction_of_isFraction atEnd hfraction hbehind
  obtain ⟨power, hpower⟩ := scanExponent_of_isExponent atEnd hexponent hend
  refine ⟨⟨whole, digits, power⟩, ?_⟩
  rw [List.append_assoc, List.append_assoc, scan, scanWhole_of_isWhole atEnd hwhole hmiddle]
  simp only [hdigits, hpower]

end Numeral

theorem skipNumber_append {whole fraction exponent rest : List Char} (hwhole : IsWhole whole)
    (hfraction : IsFraction fraction) (hexponent : IsExponent exponent)
    (hend : IsDelimited rest) :
    skipNumber (whole ++ fraction ++ exponent ++ rest) = .ok rest := by
  obtain ⟨numeral, hscan⟩ := Numeral.scan_append .invalidNumber hwhole hfraction hexponent
    hend
  rw [skipNumber, hscan]

end VmLifecycle.Json
