namespace VmLifecycle

abbrev Bytes := List UInt8

namespace Utf8

/-!
Text as bytes. Decoding reads a byte string piece by piece: a piece is either one encoded character
or a maximal part that no encoding goes on with, and every byte belongs to exactly one piece.
-/

def encodeChar (c : Char) : Bytes :=
  let code := c.toNat
  if code < 0x80 then
    [.ofNat code]
  else if code < 0x800 then
    [.ofNat (0xc0 + code / 64), .ofNat (0x80 + code % 64)]
  else if code < 0x10000 then
    [.ofNat (0xe0 + code / 4096), .ofNat (0x80 + code / 64 % 64), .ofNat (0x80 + code % 64)]
  else
    [.ofNat (0xf0 + code / 262144), .ofNat (0x80 + code / 4096 % 64),
      .ofNat (0x80 + code / 64 % 64), .ofNat (0x80 + code % 64)]

def encodeChars (cs : List Char) : Bytes :=
  cs.flatMap encodeChar

def encode (text : String) : Bytes :=
  encodeChars text.toList

def isTail (b : UInt8) : Bool :=
  0x80 ≤ b.toNat && b.toNat ≤ 0xbf

/-- After some lead bytes only part of the tail bytes keeps the form shortest, outside the
surrogates and at most U+10FFFF. -/
def isSecond (lead b : UInt8) : Bool :=
  if lead.toNat = 0xe0 then 0xa0 ≤ b.toNat && b.toNat ≤ 0xbf
  else if lead.toNat = 0xed then 0x80 ≤ b.toNat && b.toNat ≤ 0x9f
  else if lead.toNat = 0xf0 then 0x90 ≤ b.toNat && b.toNat ≤ 0xbf
  else if lead.toNat = 0xf4 then 0x80 ≤ b.toNat && b.toNat ≤ 0x8f
  else isTail b

def tail (b : UInt8) : Nat :=
  b.toNat - 0x80

/-- The piece that starts with a lead byte: its character, unless it is ill-formed, and how many of
the following bytes belong to it. -/
def piece (lead : UInt8) (rest : Bytes) : Option Char × Nat :=
  let code := lead.toNat
  if code < 0x80 then
    (some (Char.ofNat code), 0)
  else if 0xc2 ≤ code && code ≤ 0xdf then
    match rest with
    | b :: _ =>
        if isTail b then (some (Char.ofNat ((code - 0xc0) * 64 + tail b)), 1) else (none, 0)
    | [] => (none, 0)
  else if 0xe0 ≤ code && code ≤ 0xef then
    match rest with
    | b :: c :: _ =>
        if isSecond lead b then
          if isTail c then
            (some (Char.ofNat ((code - 0xe0) * 4096 + tail b * 64 + tail c)), 2)
          else (none, 1)
        else (none, 0)
    | [b] => (none, if isSecond lead b then 1 else 0)
    | [] => (none, 0)
  else if 0xf0 ≤ code && code ≤ 0xf4 then
    match rest with
    | b :: c :: d :: _ =>
        if isSecond lead b then
          if isTail c then
            if isTail d then
              (some (Char.ofNat
                ((code - 0xf0) * 262144 + tail b * 4096 + tail c * 64 + tail d)), 3)
            else (none, 2)
          else (none, 1)
        else (none, 0)
    | [b, c] => (none, if isSecond lead b then if isTail c then 2 else 1 else 0)
    | [b] => (none, if isSecond lead b then 1 else 0)
    | [] => (none, 0)
  else
    (none, 0)

def pieces : Bytes → List (Option Char)
  | [] => []
  | lead :: rest => (piece lead rest).1 :: pieces (rest.drop (piece lead rest).2)
termination_by bytes => bytes.length

@[simp] theorem pieces_nil : pieces [] = [] := by
  rw [pieces]

theorem pieces_cons (lead : UInt8) (rest : Bytes) :
    pieces (lead :: rest) =
      (piece lead rest).1 :: pieces (rest.drop (piece lead rest).2) := by
  rw [pieces]

def replacement : Char := '\ufffd'

def decodeLossyChars (bytes : Bytes) : List Char :=
  (pieces bytes).map fun piece => piece.getD replacement

/-- Every ill-formed piece is read as one U+FFFD. -/
def decodeLossy (bytes : Bytes) : String :=
  String.ofList (decodeLossyChars bytes)

def decode? (bytes : Bytes) : Option String :=
  ((pieces bytes).mapM id).map String.ofList

end Utf8

end VmLifecycle
