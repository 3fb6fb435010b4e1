namespace VmLifecycle.Json

/-!
The forms of a document, said without the scanners: space, string literals in every spelling of
their text, numbers, values of any depth, and objects with named members.
-/

def IsSpaces (cs : List Char) : Prop :=
  ∀ c ∈ cs, c ∈ [' ', '\t', '\n', '\r']

theorem isSpaces_nil : IsSpaces [] :=
  fun _ hc => absurd hc List.not_mem_nil

theorem IsSpaces.append {before after : List Char} (hbefore : IsSpaces before)
    (hafter : IsSpaces after) : IsSpaces (before ++ after) := by
  intro c hc
  rcases List.mem_append.mp hc with hfirst | hsecond
  · exact hbefore c hfirst
  · exact hafter c hsecond

def lowerHex : List Char :=
  ['0', '1', '2', '3', '4', '5', '6', '7', '8', '9', 'a', 'b', 'c', 'd', 'e', 'f']

def upperHex : List Char :=
  ['0', '1', '2', '3', '4', '5', '6', '7', '8', '9', 'A', 'B', 'C', 'D', 'E', 'F']

def IsHex (value : Nat) (c : Char) : Prop :=
  lowerHex[value]? = some c ∨ upperHex[value]? = some c

inductive IsUnit : Nat → List Char → Prop
  | digits (hfirst : IsHex n₁ c₁) (hsecond : IsHex n₂ c₂) (hthird : IsHex n₃ c₃)
      (hfourth : IsHex n₄ c₄) :
      IsUnit (((n₁ * 16 + n₂) * 16 + n₃) * 16 + n₄) [c₁, c₂, c₃, c₄]

def shortEscapes : List (Char × Char) :=
  [('"', '"'), ('\\', '\\'), ('/', '/'), ('b', '\x08'), ('f', '\x0c'), ('n', '\n'), ('r', '\r'),
    ('t', '\t')]

def IsPlain (c : Char) : Prop :=
  c ≠ '"' ∧ c ≠ '\\' ∧ 0x20 ≤ c.toNat

inductive Spells : Char → List Char → Prop
  | plain (hplain : IsPlain c) : Spells c [c]
  | short (hescape : (letter, c) ∈ shortEscapes) : Spells c ['\\', letter]
  | unit (hunit : IsUnit c.toNat digits) : Spells c ('\\' :: 'u' :: digits)
  | pair (hplane : 0x10000 ≤ c.toNat)
      (hhigh : IsUnit (0xd800 + (c.toNat - 0x10000) / 0x400) high)
      (hlow : IsUnit (0xdc00 + (c.toNat - 0x10000) % 0x400) low) :
      Spells c ('\\' :: 'u' :: high ++ '\\' :: 'u' :: low)

inductive SpellsAll : List Char → List Char → Prop
  | nil : SpellsAll [] []
  | cons (first : Spells c spelled) (more : SpellsAll text rest) :
      SpellsAll (c :: text) (spelled ++ rest)

def IsLiteral (text : String) (cs : List Char) : Prop :=
  ∃ inside, SpellsAll text.toList inside ∧ cs = '"' :: inside ++ ['"']

/-- The inside of a string by its form alone: it need not spell a text. -/
inductive IsInside : List Char → Prop
  | nil : IsInside []
  | plain (hplain : IsPlain c) (more : IsInside rest) : IsInside (c :: rest)
  | short (hescape : (letter, c) ∈ shortEscapes) (more : IsInside rest) :
      IsInside ('\\' :: letter :: rest)
  | unit (hunit : IsUnit n digits) (more : IsInside rest) :
      IsInside ('\\' :: 'u' :: digits ++ rest)

def IsString (cs : List Char) : Prop :=
  ∃ inside, IsInside inside ∧ cs = '"' :: inside ++ ['"']

def AreDigits (cs : List Char) : Prop :=
  ∀ c ∈ cs, c.isDigit = true

inductive IsWhole : List Char → Prop
  | zero : IsWhole ['0']
  | digits (hzero : c ≠ '0') (hfirst : c.isDigit = true) (hmore : AreDigits cs) :
      IsWhole (c :: cs)

inductive IsFraction : List Char → Prop
  | none : IsFraction []
  | digits (hsome : cs ≠ []) (hdigits : AreDigits cs) : IsFraction ('.' :: cs)

inductive IsExponent : List Char → Prop
  | none : IsExponent []
  | digits (hletter : letter ∈ ['e', 'E']) (hsign : sign ∈ [[], ['+'], ['-']]) (hsome : cs ≠ [])
      (hdigits : AreDigits cs) : IsExponent (letter :: sign ++ cs)

inductive IsNumber : List Char → Prop
  | positive (hwhole : IsWhole whole) (hfraction : IsFraction fraction)
      (hexponent : IsExponent exponent) : IsNumber (whole ++ fraction ++ exponent)
  | negative (hwhole : IsWhole whole) (hfraction : IsFraction fraction)
      (hexponent : IsExponent exponent) : IsNumber ('-' :: whole ++ fraction ++ exponent)

/-- An element of a list or a member of an object: what leads to its value, the value, and the
space around it. -/
structure Part where
  lead : List Char := []
  gap : List Char := []
  value : List Char
  after : List Char := []

namespace Part

def chars (part : Part) : List Char :=
  part.lead ++ part.gap ++ part.value ++ part.after

def IsSpaced (part : Part) : Prop :=
  IsSpaces part.gap ∧ IsSpaces part.after

def joinMore (parts : List Part) : List Char :=
  parts.flatMap fun part => ',' :: part.chars

def join : List Part → List Char
  | [] => []
  | first :: more => first.chars ++ joinMore more

end Part

inductive IsLead (isKey : List Char → Prop) : List Char → Prop
  | key (hbefore : IsSpaces before) (hkey : isKey key) (hafter : IsSpaces after) :
      IsLead isKey (before ++ key ++ after ++ [':'])

def words : List (List Char) :=
  [['n', 'u', 'l', 'l'], ['t', 'r', 'u', 'e'], ['f', 'a', 'l', 's', 'e']]

inductive IsValue : List Char → Prop
  | word (hword : cs ∈ words) : IsValue cs
  | number (hnumber : IsNumber cs) : IsValue cs
  | string (hstring : IsString cs) : IsValue cs
  | list (hgap : IsSpaces gap) (parts : List Part) (hleads : ∀ part ∈ parts, part.lead = [])
      (hspaced : ∀ part ∈ parts, part.IsSpaced)
      (hvalues : ∀ part ∈ parts, IsValue part.value) :
      IsValue ('[' :: gap ++ Part.join parts ++ [']'])
  | object (hgap : IsSpaces gap) (parts : List Part)
      (hleads : ∀ part ∈ parts, IsLead IsString part.lead)
      (hspaced : ∀ part ∈ parts, part.IsSpaced)
      (hvalues : ∀ part ∈ parts, IsValue part.value) :
      IsValue ('\x7b' :: gap ++ Part.join parts ++ ['\x7d'])

/-- An object with members of these names, whatever their values are. -/
inductive IsObject (members : List (String × Part)) : List Char → Prop
  | object (hgap : IsSpaces gap)
      (hleads : ∀ member ∈ members, IsLead (IsLiteral member.1) member.2.lead)
      (hspaced : ∀ member ∈ members, member.2.IsSpaced) :
      IsObject members ('\x7b' :: gap ++ Part.join (members.map (·.2)) ++ ['\x7d'])

inductive IsDocument (isForm : List Char → Prop) : String → Prop
  | spaced (hbefore : IsSpaces before) (hform : isForm cs) (hafter : IsSpaces after) :
      IsDocument isForm (String.ofList (before ++ cs ++ after))

end VmLifecycle.Json
