import BreakpointGlyph.Text.Blank

/-! Modes of a pattern: what its characters stand for, and what of its text is skipped. -/

namespace BreakpointGlyph

/-- A mode decides whether a letter stands for both cases, whether a pattern matches characters or
bytes, and whether blanks between its items are skipped. -/
structure PatternMode where
  foldsCase : Bool := false
  unicode : Bool := true
  spaced : Bool := false
deriving DecidableEq, Repr

/-- Skips blanks and comments; a comment goes from a number sign to the end of its line. -/
def skipSpacing (inComment : Bool) : List Char → List Char
  | [] => []
  | c :: rest =>
    if inComment then skipSpacing (c != '\n') rest
    else if c == '#' then skipSpacing true rest
    else if isBlank c then skipSpacing false rest
    else c :: rest

/-- The text that is read next in a mode. -/
def PatternMode.skip (mode : PatternMode) (text : List Char) : List Char :=
  if mode.spaced then skipSpacing false text else text

/-- The character that comes next in a mode, where of a comment only the sign is looked past. -/
def PatternMode.peek? (mode : PatternMode) (text : List Char) : Option Char :=
  if mode.spaced then
    match text.dropWhile isBlank with
    | '#' :: comment => (comment.dropWhile isBlank).head?
    | next => next.head?
  else text.head?

/-- The letters that change a mode, and the hyphen in front of those that are turned off. -/
def modeLetters : List Char :=
  "imsUuRx-".toList

/-- Letters may change a mode if none is repeated and a hyphen is not the last of them. -/
def changesMode (letters : List Char) : Bool :=
  letters.all modeLetters.contains && letters.Nodup && letters.getLast? != some '-'

/-- Turns on what letters stand for, and turns it off after a hyphen; the letters for the ends of
lines and for short matches do not matter to what a pattern may consist of. -/
def PatternMode.change (mode : PatternMode) (on : Bool) : List Char → PatternMode
  | [] => mode
  | '-' :: rest => mode.change false rest
  | 'i' :: rest => { mode with foldsCase := on }.change on rest
  | 'u' :: rest => { mode with unicode := on }.change on rest
  | 'x' :: rest => { mode with spaced := on }.change on rest
  | _ :: rest => mode.change on rest

/-- A mode can be changed and changed back. -/
example : (PatternMode.change {} true ['x', '-', 'u']).change true ['u', '-', 'x'] = {} := by decide

end BreakpointGlyph
