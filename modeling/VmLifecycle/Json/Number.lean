import VmLifecycle.Json.Scan

namespace VmLifecycle.Json

structure Numeral where
  whole : List Char
  fraction : List Char
  exponent : Option (Bool × List Char)
  deriving Repr

namespace Numeral

def isDigit (c : Char) : Bool :=
  '0' ≤ c && c ≤ '9'

def startsWithDigit : List Char → Bool
  | [] => false
  | c :: _ => isDigit c

/-- One zero, or digits of which the first is not zero. -/
def scanWhole (atEnd : Fault) (cs : List Char) : Except Stop (List Char × List Char) :=
  match cs with
  | [] => stopBefore atEnd []
  | '0' :: rest =>
      if startsWithDigit rest then stopAfter .invalidNumber rest else .ok (['0'], rest)
  | c :: rest =>
      if isDigit c then .ok (c :: rest.takeWhile isDigit, rest.dropWhile isDigit)
      else stopAfter .invalidNumber (c :: rest)

def scanFraction (atEnd : Fault) (cs : List Char) : Except Stop (List Char × List Char) :=
  match cs with
  | '.' :: rest =>
      if rest.isEmpty then stopAfter atEnd []
      else if startsWithDigit rest then .ok (rest.takeWhile isDigit, rest.dropWhile isDigit)
      else stopAfter .invalidNumber rest
  | rest => .ok ([], rest)

def exponentSign (cs : List Char) : Bool × List Char :=
  match cs with
  | '+' :: rest => (true, rest)
  | '-' :: rest => (false, rest)
  | rest => (true, rest)

def scanExponent (atEnd : Fault) (cs : List Char) :
    Except Stop (Option (Bool × List Char) × List Char) :=
  match cs with
  | [] => .ok (none, [])
  | c :: rest =>
      if c = 'e' || c = 'E' then
        let (sign, rest) := exponentSign rest
        if rest.isEmpty then stopBefore atEnd []
        else if startsWithDigit rest then
          .ok (some (sign, rest.takeWhile isDigit), rest.dropWhile isDigit)
        else stopAfter .invalidNumber rest
      else .ok (none, c :: rest)

/-- A number from behind its sign; `atEnd` is the fault of a text that ends too soon. -/
def scan (atEnd : Fault) : Scan Numeral := fun cs =>
  match scanWhole atEnd cs with
  | .error stop => .error stop
  | .ok (whole, rest) =>
      match scanFraction atEnd rest with
      | .error stop => .error stop
      | .ok (fraction, rest) =>
          match scanExponent atEnd rest with
          | .error stop => .error stop
          | .ok (exponent, rest) => .ok (⟨whole, fraction, exponent⟩, rest)

end Numeral

/-- The value of a number: whole and small enough for 64 bits, or a binary approximation. -/
inductive Number where
  | integer (value : Int)
  | real (value : Float)
  deriving Repr

def Number.found : Number → Found
  | .integer value => .integer value
  | .real value => .real value

namespace Numeral

def largest : Nat := 0xffffffffffffffff

def largestNegative : Nat := 0x8000000000000000

def largestExponent : Nat := 0x7fffffff

def digit (c : Char) : Nat :=
  c.toNat - '0'.toNat

/-- The whole digits that fit, and how many more there are. -/
def wholeDigits (significand : Nat) : List Char → Nat × Nat
  | [] => (significand, 0)
  | c :: rest =>
      let next := significand * 10 + digit c
      if largest < next then (significand, (c :: rest).length) else wholeDigits next rest

def fractionDigits (significand count : Nat) : List Char → Nat × Nat
  | [] => (significand, count)
  | c :: rest =>
      let next := significand * 10 + digit c
      if largest < next then (significand, count) else fractionDigits next (count + 1) rest

/-- The exponent, or the digits left when it grows past 32 bits. -/
def exponentDigits (exponent : Nat) : List Char → Except (List Char) Nat
  | [] => .ok exponent
  | c :: rest =>
      let next := exponent * 10 + digit c
      if largestExponent < next then .error rest else exponentDigits next rest

def powerOfTen (n : Nat) : Float :=
  Float.ofScientific 1 false n

/-- Multiplies by a power of ten as far as doubles go; nothing beyond the largest one. -/
def scaled : Nat → Float → Int → Option Float
  | 0, x, _ => some x
  | fuel + 1, x, exponent =>
      if exponent.natAbs ≤ 308 then
        if 0 ≤ exponent then
          let y := x * powerOfTen exponent.natAbs
          if y.isInf then none else some y
        else some (x / powerOfTen exponent.natAbs)
      else if x == 0.0 then some x
      else if 0 ≤ exponent then none
      else scaled fuel (x / powerOfTen 308) (exponent + 308)

def signed (positive : Bool) (x : Float) : Float :=
  if positive then x else -x

def value (positive : Bool) (n : Numeral) : Except Nat Number :=
  let (whole, dropped) := wholeDigits 0 n.whole
  if dropped = 0 && n.fraction.isEmpty && n.exponent.isNone &&
      (positive || (0 < whole && whole ≤ largestNegative)) then
    .ok (.integer (if positive then whole else -whole))
  else
    let (significand, added) := fractionDigits whole 0 n.fraction
    let start : Int := dropped - added
    let real (exponent : Int) : Except Nat Number :=
      match scaled 16 significand.toFloat exponent with
      | some x => .ok (.real (signed positive x))
      | none => .error 0
    match n.exponent with
    | none => real start
    | some (up, digits) =>
        match exponentDigits 0 digits with
        | .ok exponent => real (if up then start + exponent else start - exponent)
        | .error left =>
            if significand ≠ 0 && up then .error left.length
            else .ok (.real (signed positive 0.0))

end Numeral

def readNumber (positive : Bool) : Scan Number := fun cs =>
  match Numeral.scan .endInValue cs with
  | .error stop => .error stop
  | .ok (numeral, rest) =>
      match numeral.value positive with
      | .ok number => .ok (number, rest)
      | .error left => .error ⟨.numberOutOfRange, .left (width rest + left)⟩

def skipNumber (cs : List Char) : Except Stop (List Char) :=
  match Numeral.scan .invalidNumber cs with
  | .error stop => .error stop
  | .ok (_, rest) => .ok rest

end VmLifecycle.Json
