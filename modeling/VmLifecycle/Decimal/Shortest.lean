namespace VmLifecycle

namespace Decimal

/-!
The shortest decimal that reads back as a given binary number. A finite number is `m * 2 ^ q`; the
reals that round to it form an interval, and for one digit, two digits and so on the two points of
that decimal grid next to the number are tried until one lies inside.
-/

/-- A positive binary number with the interval around it, over one denominator. -/
structure Interval where
  value : Nat
  low : Nat
  high : Nat
  denominator : Nat
  closed : Bool
  deriving Repr

/-- The interval of `m * 2 ^ q`; below a power of two the numbers lie closer. -/
def Interval.ofParts (m : Nat) (q : Int) (isBoundary : Bool) : Interval :=
  let up := Nat.pow 2 (q - 2).toNat
  { value := 4 * m * up
    low := (4 * m - if isBoundary then 1 else 2) * up
    high := (4 * m + 2) * up
    denominator := Nat.pow 2 (2 - q).toNat
    closed := decide (m % 2 = 0) }

def Interval.scale (i : Interval) (k : Int) : Interval :=
  let down := Nat.pow 10 (-k).toNat
  { i with
    value := i.value * down
    low := i.low * down
    high := i.high * down
    denominator := i.denominator * Nat.pow 10 k.toNat }

def Interval.contains (i : Interval) (n : Nat) : Bool :=
  let point := n * i.denominator
  if i.closed then i.low ≤ point && point ≤ i.high else i.low < point && point < i.high

/-- The grid point inside the interval; of two the nearer, and the even one at equal distance. -/
def Interval.gridPoint? (i : Interval) : Option Nat :=
  let below := i.value / i.denominator
  let above := below + 1
  match i.contains below, i.contains above with
  | false, false => none
  | true, false => some below
  | false, true => some above
  | true, true =>
      let toBelow := i.value - below * i.denominator
      let toAbove := above * i.denominator - i.value
      if toBelow < toAbove || (toBelow = toAbove && below % 2 = 0) then some below else some above

def Interval.magnitude (i : Interval) : Int :=
  let guess := ((Nat.log2 i.value : Int) - Nat.log2 i.denominator) * 30103 / 100000 - 1
  let reaches (e : Int) : Bool := (i.scale e).value ≥ (i.scale e).denominator
  [guess + 3, guess + 2, guess + 1].find? reaches |>.getD guess

def dropZeros : Nat → Nat × Int → Nat × Int
  | 0, point => point
  | fuel + 1, (digits, exponent) =>
      if digits % 10 = 0 && digits ≠ 0 then dropZeros fuel (digits / 10, exponent + 1)
      else (digits, exponent)

def Interval.shortest (i : Interval) : Nat × Int :=
  let e := i.magnitude
  let found := (List.range 17).findSome? fun (n : Nat) =>
    let k := e - (n : Int)
    ((i.scale k).gridPoint?).map fun digits => (digits, k)
  dropZeros 20 (found.getD (0, 0))

end Decimal

/-- Positional for leading exponents from -5 to 15, with at least one digit after the point, and
scientific with a signed exponent beyond. -/
def Decimal.layout (digits : Nat) (exponent : Int) : String :=
  let text := toString digits
  let leading := exponent + text.length - 1
  if -5 ≤ leading && leading ≤ 15 then
    if 0 ≤ exponent then
      text ++ "".pushn '0' exponent.toNat ++ ".0"
    else if 0 ≤ leading then
      let whole := leading.toNat + 1
      (text.take whole).toString ++ "." ++ (text.drop whole).toString
    else
      "0." ++ "".pushn '0' (-leading - 1).toNat ++ text
  else
    let fraction := if text.length = 1 then "" else "." ++ (text.drop 1).toString
    let sign := if leading < 0 then "-" else "+"
    (text.take 1).toString ++ fraction ++ "e" ++ sign ++ toString leading.natAbs

def Decimal.ofFloat (x : Float) : String :=
  let bits : Nat := x.toBits.toNat
  let unit : Nat := 0x10000000000000
  let sign := if bits / (unit * 2048) = 1 then "-" else ""
  let biased : Nat := bits / unit % 2048
  let fraction : Nat := bits % unit
  if biased = 0 && fraction = 0 then
    sign ++ "0.0"
  else
    let m := if biased = 0 then fraction else fraction + unit
    let q : Int := (if biased = 0 then 1 else Int.ofNat biased) - 1075
    let i := Interval.ofParts m q (fraction = 0 && biased > 1)
    let (digits, exponent) := i.shortest
    sign ++ layout digits exponent

end VmLifecycle
