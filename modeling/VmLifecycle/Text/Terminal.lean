import VmLifecycle.Text.Quoted
import VmLifecycle.Text.Utf8

namespace VmLifecycle

namespace Terminal

/-!
Driving a terminal with codes, and two ways of keeping a text from driving it. Log messages spell
out the controls that begin or end a control sequence; usage messages leave whole sequences out.
-/

def coded (codes : List String) (text : String) : String :=
  if codes.isEmpty then text
  else String.join (codes.map fun code => "\x1b[" ++ code ++ "m") ++ text ++ "\x1b[0m"

def spellControl (c : Char) : List Char :=
  match c with
  | '\x1b' => ['\\', 'x', '1', 'b']
  | '\x07' => ['\\', 'x', '0', '7']
  | '\x08' => ['\\', 'x', '0', '8']
  | '\x0c' => ['\\', 'x', '0', 'c']
  | '\x7f' => ['\\', 'x', '7', 'f']
  | c => if 0x80 ≤ c.toNat && c.toNat ≤ 0x9f then Quoted.codePoint c else [c]

def spellControls (text : String) : String :=
  String.ofList (text.toList.flatMap spellControl)

inductive State where
  | ground
  | escape
  | escapeIntermediate
  | sequenceEntry
  | sequenceParameter
  | sequenceIntermediate
  | sequenceIgnored
  | command
  | deviceEntry
  | deviceParameter
  | deviceIntermediate
  | body
  deriving DecidableEq, Repr

namespace State

def afterAscii (state : State) (code : Nat) : State :=
  if code = 0x1b then .escape
  else if code = 0x18 || code = 0x1a then .ground
  else if code < 0x20 || code = 0x7f then
    if state = .command && code = 0x07 then .ground else state
  else
    match state with
    | .ground => .ground
    | .escape =>
        if code ≤ 0x2f then .escapeIntermediate
        else if code = 0x5b then .sequenceEntry
        else if code = 0x5d then .command
        else if code = 0x50 then .deviceEntry
        else if code = 0x58 || code = 0x5e || code = 0x5f then .body
        else .ground
    | .escapeIntermediate => if code ≤ 0x2f then .escapeIntermediate else .ground
    | .sequenceEntry =>
        if code ≤ 0x2f then .sequenceIntermediate
        else if code ≤ 0x3f then .sequenceParameter
        else .ground
    | .sequenceParameter =>
        if code ≤ 0x2f then .sequenceIntermediate
        else if code ≤ 0x3b then .sequenceParameter
        else if code ≤ 0x3f then .sequenceIgnored
        else .ground
    | .sequenceIntermediate =>
        if code ≤ 0x2f then .sequenceIntermediate
        else if code ≤ 0x3f then .sequenceIgnored
        else .ground
    | .sequenceIgnored => if code ≤ 0x3f then .sequenceIgnored else .ground
    | .command => .command
    | .deviceEntry =>
        if code ≤ 0x2f then .deviceIntermediate
        else if code ≤ 0x3f then .deviceParameter
        else .body
    | .deviceParameter =>
        if code ≤ 0x2f then .deviceIntermediate
        else if code ≤ 0x3b then .deviceParameter
        else .body
    | .deviceIntermediate => if code ≤ 0x2f then .deviceIntermediate else .body
    | .body => .body

/-- The byte that ends the body of a string, also where it is a part of a character. -/
def terminator : UInt8 := 0x9c

/-- The state behind a character beyond ASCII; only the body of a string looks at its bytes. -/
def afterWide (state : State) (c : Char) : State :=
  if state = .body && (Utf8.encodeChar c).contains terminator then .ground else state

def next (state : State) (c : Char) : State :=
  if c.toNat < 0x80 then state.afterAscii c.toNat else state.afterWide c

/-- Blanks among the controls stand for themselves except inside the strings that a sequence
carries. -/
def showsBlank (state : State) : Bool :=
  match state with
  | .command => false
  | .deviceEntry => false
  | .deviceParameter => false
  | .deviceIntermediate => false
  | .body => false
  | _ => true

end State

def isBlankControl (c : Char) : Bool :=
  c = '\t' || c = '\n' || c = '\x0c' || c = '\r'

def isShown (c : Char) : Bool :=
  isBlankControl c || (0x20 ≤ c.toNat && c.toNat != 0x7f)

def State.shows (state : State) (c : Char) : Bool :=
  if isBlankControl c then state.showsBlank else state = .ground && isShown c

inductive Medium where
  | value
  | stream
  deriving DecidableEq, Repr

/-- A blank inside a sequence starts a run of shown characters. On a stream the sequence goes on
behind the run, unless a character beyond ASCII was shown; in a value the run ends it. -/
def Medium.resume (medium : Medium) (state : State) (c : Char) : State :=
  match medium with
  | .value => .ground
  | .stream => if c.toNat < 0x80 then state else .ground

def stripFrom (medium : Medium) (inRun : Bool) (state : State) : List Char → List Char
  | [] => []
  | c :: rest =>
      if (inRun && isShown c) || state.shows c then
        c :: stripFrom medium true (medium.resume state c) rest
      else stripFrom medium false (state.next c) rest

def stripControls (medium : Medium) (text : String) : String :=
  String.ofList (stripFrom medium false .ground text.toList)

end Terminal

end VmLifecycle
