import VmLifecycle.Json.Scan

namespace VmLifecycle.Json

/-!
String literals, from behind the opening quote. Reading decodes the escapes and wants surrogates
paired; skipping checks the escapes only for their form.
-/

def hexDigit? (c : Char) : Option Nat :=
  if '0' ≤ c && c ≤ '9' then some (c.toNat - '0'.toNat)
  else if 'a' ≤ c && c ≤ 'f' then some (c.toNat - 'a'.toNat + 10)
  else if 'A' ≤ c && c ≤ 'F' then some (c.toNat - 'A'.toNat + 10)
  else none

def codeUnit (cs : List Char) : Except Stop Nat :=
  if width (cs.take 4) < 4 then stopBefore .endInString []
  else
    match (cs.take 4).mapM hexDigit? with
    | some digits => .ok (digits.foldl (fun n digit => n * 16 + digit) 0)
    | none => .error ⟨.invalidEscape, .left (width cs - 4)⟩

def isHighSurrogate (n : Nat) : Bool :=
  0xd800 ≤ n && n ≤ 0xdbff

def isLowSurrogate (n : Nat) : Bool :=
  0xdc00 ≤ n && n ≤ 0xdfff

def joinSurrogates (high low : Nat) : Char :=
  Char.ofNat ((high - 0xd800) * 0x400 + (low - 0xdc00) + 0x10000)

def shortEscape? (c : Char) : Option Char :=
  match c with
  | '"' => some '"'
  | '\\' => some '\\'
  | '/' => some '/'
  | 'b' => some '\x08'
  | 'f' => some '\x0c'
  | 'n' => some '\n'
  | 'r' => some '\r'
  | 't' => some '\t'
  | _ => none

/-- The second half of a surrogate pair, and how many characters it takes. -/
def lowHalf (high : Nat) (cs : List Char) : Except Stop (Char × Nat) :=
  match cs with
  | [] => stopBefore .endInString []
  | '\\' :: [] => stopBefore .endInString []
  | '\\' :: 'u' :: rest =>
      match codeUnit rest with
      | .error stop => .error stop
      | .ok low =>
          if isLowSurrogate low then .ok (joinSurrogates high low, 6)
          else stopBefore .loneSurrogate (rest.drop 4)
  | '\\' :: rest => stopAfter .unfinishedPair rest
  | rest => stopAfter .unfinishedPair rest

/-- The character an escape stands for, and how many characters it takes after the backslash. -/
def escaped (cs : List Char) : Except Stop (Char × Nat) :=
  match cs with
  | [] => stopBefore .endInString []
  | 'u' :: rest =>
      match codeUnit rest with
      | .error stop => .error stop
      | .ok n =>
          if isLowSurrogate n then stopBefore .loneSurrogate (rest.drop 4)
          else if isHighSurrogate n then
            match lowHalf n (rest.drop 4) with
            | .error stop => .error stop
            | .ok (c, taken) => .ok (c, 5 + taken)
          else .ok (Char.ofNat n, 5)
  | c :: rest =>
      match shortEscape? c with
      | some d => .ok (d, 1)
      | none => stopAfter .invalidEscape (c :: rest)

def readStringFrom (read : List Char) : Scan (List Char)
  | [] => stopBefore .endInString []
  | c :: rest =>
      if c = '"' then .ok (read.reverse, rest)
      else if c = '\\' then
        match escaped rest with
        | .error stop => .error stop
        | .ok (d, taken) => readStringFrom (d :: read) (rest.drop taken)
      else if c.toNat < 0x20 then stopAfter .controlCharacter (c :: rest)
      else readStringFrom (c :: read) rest
termination_by cs => cs.length

def readString : Scan String := fun cs =>
  match readStringFrom [] cs with
  | .error stop => .error stop
  | .ok (read, rest) => .ok (String.ofList read, rest)

def escapeLength (cs : List Char) : Except Stop Nat :=
  match cs with
  | [] => stopBefore .endInString []
  | 'u' :: rest =>
      match codeUnit rest with
      | .error stop => .error stop
      | .ok _ => .ok 5
  | c :: rest =>
      match shortEscape? c with
      | some _ => .ok 1
      | none => stopAfter .invalidEscape (c :: rest)

def skipString : List Char → Except Stop (List Char)
  | [] => stopBefore .endInString []
  | c :: rest =>
      if c = '"' then .ok rest
      else if c = '\\' then
        match escapeLength rest with
        | .error stop => .error stop
        | .ok taken => skipString (rest.drop taken)
      else if c.toNat < 0x20 then stopBefore .controlCharacter (c :: rest)
      else skipString rest
termination_by cs => cs.length

end VmLifecycle.Json
