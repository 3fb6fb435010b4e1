import VmLifecycle.Json.Skip

namespace VmLifecycle.Json

/-!
Documents with fixed fields. An object gives the fields by name in any order, once each, among
members of other names, which are skipped; a list gives them in their own order.
-/

def wrongKind (expected : String) (cs : List Char) : Except Stop α :=
  let stop (found : Found) (rest : List Char) : Except Stop α :=
    stopBefore (.wrongKind found expected) rest
  let ofWord (letters : List Char) (found : Found) (rest : List Char) : Except Stop α :=
    match word letters rest with
    | .error stop => .error stop
    | .ok rest => stop found rest
  let ofNumber (positive : Bool) (cs : List Char) : Except Stop α :=
    match readNumber positive cs with
    | .error stop => .error stop
    | .ok (number, rest) => stop number.found rest
  match cs with
  | [] => stopAfter .endInValue []
  | 'n' :: rest => ofWord ['u', 'l', 'l'] .null rest
  | 't' :: rest => ofWord ['r', 'u', 'e'] (.bool true) rest
  | 'f' :: rest => ofWord ['a', 'l', 's', 'e'] (.bool false) rest
  | '-' :: rest => ofNumber false rest
  | '"' :: rest =>
      match readString rest with
      | .error stop => .error stop
      | .ok (text, rest) => stop (.string text) rest
  | '[' :: rest => stop .list ('[' :: rest)
  | '\x7b' :: rest => stop .object ('\x7b' :: rest)
  | c :: rest =>
      if Numeral.isDigit c then ofNumber true (c :: rest)
      else stopAfter .expectedValue (c :: rest)

def text (expected : String) : Scan String := fun cs =>
  match skipSpace cs with
  | '"' :: rest => readString rest
  | rest => wrongKind expected rest

/-- A text, or nothing written as `null`. -/
def text? (expected : String) : Scan (Option String) := fun cs =>
  match skipSpace cs with
  | 'n' :: rest =>
      match word ['u', 'l', 'l'] rest with
      | .error stop => .error stop
      | .ok rest => .ok (none, rest)
  | rest =>
      match text expected rest with
      | .error stop => .error stop
      | .ok (text, rest) => .ok (some text, rest)

structure Field (δ : Type) where
  name : String
  isSet : δ → Bool
  scan : δ → Scan δ

/-- The field of one value, which `scan` reads and `set` puts into a draft. -/
def Field.of (name : String) (scan : Scan α) (get : δ → Option α) (set : δ → α → δ) : Field δ where
  name := name
  isSet draft := (get draft).isSome
  scan draft cs :=
    match scan cs with
    | .error stop => .error stop
    | .ok (value, rest) => .ok (set draft value, rest)

/-- How a draft is read; a list that ends early is `short`, unless the fields it lacks may stay
away. -/
structure Shape (δ : Type) where
  title : String
  fields : List (Field δ)
  short : Nat → Option Fault

namespace Shape

def member (shape : Shape δ) (bound : Nat) (key : String) (draft : δ) : Scan δ := fun cs =>
  match shape.fields.find? (·.name == key) with
  | some field =>
      if field.isSet draft then stopBehind (.duplicateField key) cs
      else
        match skipColon cs with
        | .error stop => .error stop
        | .ok rest => field.scan draft rest
  | none =>
      match skipColon cs with
      | .error stop => .error stop
      | .ok rest =>
          match skipValue bound rest with
          | .error stop => .error stop
          | .ok rest => .ok (draft, rest)

def members (shape : Shape δ) : Nat → Bool → δ → Scan δ
  | 0, _, _, cs => stopAfter .endInObject cs
  | rounds + 1, isFirst, draft, cs =>
      match nextKey isFirst cs with
      | .error stop => .error stop
      | .ok none => .ok (draft, cs)
      | .ok (some (key, rest)) =>
          match shape.member rounds key draft rest with
          | .error stop => .error stop
          | .ok (draft, rest) => members shape rounds false draft rest

def elements (short : Nat → Option Fault) : List (Field δ) → Nat → δ → Scan δ
  | [], _, draft, cs => .ok (draft, cs)
  | field :: more, index, draft, cs =>
      match nextElement (index == 0) cs with
      | .error stop => .error stop
      | .ok none =>
          match short index with
          | some fault => stopBehind fault cs
          | none => .ok (draft, cs)
      | .ok (some rest) =>
          match field.scan draft rest with
          | .error stop => .error stop
          | .ok (draft, rest) => elements short more (index + 1) draft rest

/-- Closes a draft and completes it, in this order except that the reasons against the draft come
first. -/
def complete (close : List Char → Except Stop (List Char)) (past : List Char → List Char)
    (finish : δ → Except Fault α) (body : Except Stop (δ × List Char)) :
    Except Stop (α × List Char) :=
  match body with
  | .error stop => .error (stop.settle past)
  | .ok (draft, rest) =>
      match finish draft with
      | .error fault => .error (Stop.settle past ⟨fault, .behind rest⟩)
      | .ok value =>
          match close rest with
          | .error stop => .error stop
          | .ok rest => .ok (value, rest)

def scan (shape : Shape δ) (start : δ) (finish : δ → Except Fault α) : Scan α := fun cs =>
  match skipSpace cs with
  | '\x7b' :: rest =>
      complete endObject pastObject finish (shape.members (rest.length + 1) true start rest)
  | '[' :: rest =>
      complete endList pastList finish (elements shape.short shape.fields 0 start rest)
  | rest => wrongKind shape.title rest

end Shape

end VmLifecycle.Json
