import VmLifecycle.Text.Terminal

namespace VmLifecycle

/-!
Text in spans, each with the part it plays in a message. A terminal with colors is given every
character with codes around it; all other readers are given the text without codes and without
what would drive a terminal.
-/

inductive Span where
  | plain (text : String)
  | heading (text : String)
  | failure (text : String)
  | literal (text : String)
  | valid (text : String)
  | invalid (text : String)
  deriving DecidableEq, Repr

namespace Span

def text : Span → String
  | plain text => text
  | heading text => text
  | failure text => text
  | literal text => text
  | valid text => text
  | invalid text => text

def codes : Span → List String
  | plain _ => []
  | heading _ => ["1", "4"]
  | failure _ => ["1", "31"]
  | literal _ => ["1"]
  | valid _ => ["32"]
  | invalid _ => ["33"]

end Span

abbrev Styled := List Span

namespace Styled

def width (styled : Styled) : Nat :=
  styled.foldl (fun width span => width + span.text.length) 0

def colored (styled : Styled) : String :=
  String.join (styled.map fun span => Terminal.coded span.codes span.text)

def stripped (medium : Terminal.Medium) (styled : Styled) : String :=
  String.join (styled.map fun span => Terminal.stripControls medium span.text)

end Styled

end VmLifecycle
