/-! Text without the control sequences by which a terminal is told to change colors and the like. -/

namespace BreakpointGlyph

/-- How far a control sequence has been read. -/
inductive TerminalState where
  | ground
  | escape
  | escapeIntermediate
  | controlSequence
  | systemCommand
  | deviceEntry
  | deviceParameter
  | deviceIntermediate
  | hiddenString
deriving DecidableEq, Repr

/-- Between two code points, both included. -/
def codeIn (first last : Nat) (c : Char) : Bool :=
  first ≤ c.toNat && c.toNat ≤ last

/-- The white space that lays out text. -/
def isLayout (c : Char) : Bool :=
  c == '\t' || c == '\n' || c == '\x0C' || c == '\r'

/-- Outside all sequences, ASCII characters are shown if they are printable or lay out text, and all
others are shown. -/
def shownOnGround (c : Char) : Bool :=
  codeIn 0x20 0x7E c || isLayout c || 0x80 ≤ c.toNat

/-- The byte that ends a string of the terminal, where it occurs in the bytes of a character. -/
def endsString (c : Char) : Bool :=
  0x80 ≤ c.toNat && (String.utf8EncodeChar c).contains 0x9C

/-- After an escape character: what kind of sequence its next character opens, if any. -/
def TerminalState.opened (c : Char) : TerminalState :=
  if c = '[' then .controlSequence
  else if c = ']' then .systemCommand
  else if c = 'P' then .deviceEntry
  else if c = 'X' ∨ c = '^' ∨ c = '_' then .hiddenString
  else .ground

/-- The state after a character that neither escapes nor cancels. -/
def TerminalState.after (c : Char) : TerminalState → TerminalState
  | .ground => .ground
  | .escape =>
    if isLayout c then .ground
    else if codeIn 0x20 0x2F c then .escapeIntermediate
    else if codeIn 0x30 0x7E c then .opened c
    else .escape
  | .escapeIntermediate =>
    if isLayout c || codeIn 0x30 0x7E c then .ground else .escapeIntermediate
  | .controlSequence =>
    if isLayout c || codeIn 0x40 0x7E c then .ground else .controlSequence
  | .systemCommand => if c = '\x07' then .ground else .systemCommand
  | .deviceEntry =>
    if codeIn 0x20 0x2F c then .deviceIntermediate
    else if codeIn 0x30 0x3F c then .deviceParameter
    else if codeIn 0x40 0x7E c then .hiddenString
    else .deviceEntry
  | .deviceParameter =>
    if codeIn 0x20 0x2F c then .deviceIntermediate
    else if codeIn 0x3C 0x7E c then .hiddenString
    else .deviceParameter
  | .deviceIntermediate => if codeIn 0x30 0x7E c then .hiddenString else .deviceIntermediate
  | .hiddenString => if endsString c then .ground else .hiddenString

/-- The state after any character; the escape character opens a sequence in the middle of another
one, and two control characters cancel whatever has been read. -/
def TerminalState.next (state : TerminalState) (c : Char) : TerminalState :=
  if c = '\x1B' then .escape
  else if c = '\x18' ∨ c = '\x1A' then .ground
  else state.after c

/-- A character is shown outside all sequences, or if it lays out text and so ends a short one. -/
def TerminalState.shows (state : TerminalState) (c : Char) : Bool :=
  match state with
  | .ground => shownOnGround c
  | .escape => isLayout c
  | .escapeIntermediate => isLayout c
  | .controlSequence => isLayout c
  | _ => false

/-- The characters of a text that a terminal shows, from some state on. -/
def TerminalState.visible (state : TerminalState) : List Char → List Char
  | [] => []
  | c :: rest =>
    let shown := (state.next c).visible rest
    if state.shows c then c :: shown else shown

/-- A text without its control sequences. -/
def withoutControls (text : String) : String :=
  String.ofList (TerminalState.ground.visible text.toList)

/-- Text between the sequence that sets a style and the one that ends all styles. -/
def styled (style text : String) : String :=
  "\x1B[" ++ style ++ "m" ++ text ++ "\x1B[0m"

/-- A style does not change what is read, nor does a title that is set for the window. -/
example : withoutControls (styled "1;31" "red") = "red" ∧
    withoutControls "a\x1B]0;title\x07b" = "ab" := by decide +kernel

end BreakpointGlyph
