import BreakpointGlyph.Logging.Directive
import BreakpointGlyph.Numeral.Decimal
import BreakpointGlyph.Pattern.Group
import BreakpointGlyph.Text.Cut

/-! The text of a directive: a limit, or a target with brackets for a span and a field.

The parts of a directive are found in its text without the blanks around it, but are cut out of the
whole text at the same positions, counted in bytes. So blanks in front move every part, and may
move its ends into the middle of a character. -/

namespace BreakpointGlyph

/-- Why a text is no directive: it has another shape, or the end of a part is inside a character. -/
inductive DirectiveFault where
  | malformed
  | splitCharacter
deriving DecidableEq, Repr

/-- Cuts a part out of a text, from one position to a later one. -/
def cutPart (whole : List Char) (first last : Nat) : Except DirectiveFault (List Char) :=
  match cutAtByte last whole with
  | none => .error .splitCharacter
  | some (front, _) =>
    match cutAtByte first front with
    | none => .error .splitCharacter
    | some (_, part) => .ok part

/-- A text is well formed if something can be read from it. -/
def orMalformed {α : Type} (read : Option α) : Except DirectiveFault α :=
  match read with
  | some value => .ok value
  | none => .error .malformed

/-- Reads the limit that starts at a position; where it is empty, everything is let through. -/
def readLimit (whole : List Char) (position : Nat) : Except DirectiveFault LogLimit := do
  let text ← cutPart whole position (byteLength whole)
  if text = [] then return LogLimit.everything else orMalformed (LogLimit.parse? text)

/-- Reads what stands after brackets at a position: nothing, or a limit after an equals sign. -/
def readAfterBrackets (whole : List Char) (position : Nat) :
    List Char → Except DirectiveFault LogLimit
  | [] => .ok LogLimit.everything
  | '=' :: _ => readLimit whole (position + 1)
  | _ => .error .malformed

/-- Reads a condition on a field: its name, and a number or a pattern after an equals sign. -/
def FieldCondition.parse? (text : List Char) : Option FieldCondition :=
  let name := String.ofList (text.takeWhile (· != '='))
  match text.dropWhile (· != '=') with
  | [] => if text = [] then none else some ⟨name, false⟩
  | _ :: rest =>
    -- Whatever follows another equals sign does not belong to the value.
    let value := rest.takeWhile (· != '=')
    if isDecimalNumber value || isPattern value then some ⟨name, true⟩ else none

/-- Reads the field that starts at a position, and the limit after the brackets around it. -/
def readField (whole : List Char) (position : Nat) (text : List Char) :
    Except DirectiveFault (FieldCondition × LogLimit) := do
  let last := position + byteLength (text.takeWhile (· != '}'))
  match text.dropWhile (· != '}') with
  | [] => .error .malformed
  | _ :: rest =>
    let part ← cutPart whole position last
    let condition ← orMalformed (FieldCondition.parse? part)
    match rest with
    | ']' :: after => return (condition, ← readAfterBrackets whole (last + 2) after)
    | _ => .error .malformed

/-- Reads the brackets whose inside starts at a position, and the limit after them. -/
def readBracketed (whole : List Char) (target : Option String) (position : Nat)
    (text : List Char) : Except DirectiveFault LogDirective := do
  let last := position + byteLength (text.takeWhile fun c => c != ']' && c != '{')
  match text.dropWhile fun c => c != ']' && c != '{' with
  | [] => .error .malformed
  | closing :: rest =>
    let span := String.ofList (← cutPart whole position last)
    if closing = ']' then
      return ⟨target, some span, none, ← readAfterBrackets whole (last + 1) rest⟩
    else
      let (condition, limit) ← readField whole (last + 1) rest
      return ⟨target, if span = "" then none else some span, some condition, limit⟩

/-- A target starts with a letter, a number or one of three marks. -/
def startsTarget (c : Char) : Bool :=
  c == '-' || c == ':' || c == '_' || isAlphanumeric c

/-- Reads a directive. -/
def LogDirective.parse (whole : List Char) : Except DirectiveFault LogDirective := do
  let text := trim whole
  match text with
  | [] => .error .malformed
  | '[' :: rest => readBracketed whole none 1 rest
  | first :: _ =>
    if startsTarget first then
      let last := byteLength (text.takeWhile fun c => c != '=' && c != '[')
      match text.dropWhile fun c => c != '=' && c != '[' with
      | [] =>
        -- A text that is no limit is a target of which everything is let through.
        match LogLimit.parse? whole with
        | some limit => return ⟨none, none, none, limit⟩
        | none => return ⟨some (String.ofList whole), none, none, LogLimit.everything⟩
      | mark :: rest =>
        let target := some (String.ofList (← cutPart whole 0 last))
        if mark = '[' then readBracketed whole target (last + 1) rest
        else return ⟨target, none, none, ← readLimit whole (last + 1)⟩
    else .error .malformed

/-- A blank in front of a directive moves its parts, here into the middle of a character. -/
example : LogDirective.parse " é=off".toList = .error .splitCharacter := by rfl

end BreakpointGlyph
