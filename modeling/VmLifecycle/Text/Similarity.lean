namespace VmLifecycle

namespace Similarity

/-!
The Jaro measure of two words: characters match when they are equal and no further apart than half
the longer word allows, and matches out of order count half.
-/

def mark (c : Char) (low high : Nat) : Nat → List Bool → List Char → Option (List Bool)
  | place, isTaken :: taken, d :: word =>
      if low ≤ place && place < high && d = c && !isTaken then some (true :: taken)
      else (mark c low high (place + 1) taken word).map (isTaken :: ·)
  | _, _, _ => none

/-- For each character of the first word whether it is matched, and the marks on the second. -/
def pair (range : Nat) (word : List Char) :
    List Char → Nat → List Bool → List Bool × List Bool
  | [], _, taken => ([], taken)
  | c :: rest, place, taken =>
      match mark c (place - range) (place + range + 1) 0 taken word with
      | some taken =>
          let (matched, taken) := pair range word rest (place + 1) taken
          (true :: matched, taken)
      | none =>
          let (matched, taken) := pair range word rest (place + 1) taken
          (false :: matched, taken)

def kept (flags : List Bool) (word : List Char) : List Char :=
  (flags.zip word).filterMap fun (flag, c) => if flag then some c else none

def jaro (left right : String) : Float :=
  let a := left.toList
  let b := right.toList
  if a.isEmpty && b.isEmpty then 1.0
  else if a.isEmpty || b.isEmpty then 0.0
  else
    let range := max a.length b.length / 2 - 1
    let (matchedA, matchedB) := pair range b a 0 (b.map fun _ => false)
    let inA := kept matchedA a
    let inB := kept matchedB b
    let count := inA.length
    if count = 0 then 0.0
    else
      let displaced := ((inA.zip inB).filter fun (c, d) => c != d).length / 2
      (count.toFloat / a.length.toFloat + count.toFloat / b.length.toFloat +
        (count - displaced).toFloat / count.toFloat) / 3.0

/-- Puts a scored word after all those that score at most as much. -/
def insert (score : Float) (word : String) : List (Float × String) → List (Float × String)
  | [] => [(score, word)]
  | (other, known) :: rest =>
      if other > score then (score, word) :: (other, known) :: rest
      else (other, known) :: insert score word rest

def closeTo (word : String) (candidates : List String) : List String :=
  (candidates.foldl (fun found candidate =>
    let score := jaro word candidate
    if score > 0.7 then insert score candidate found else found) []).map (·.2)

end Similarity

end VmLifecycle
