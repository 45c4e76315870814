import BreakpointGlyph.Tooltip.Native

/-! Formatters form a tree: a registry asks its formatters in order until one handles a location. -/

namespace BreakpointGlyph

/-- Puts more output behind what is there already. -/
def GlyphOutput.append (earlier later : GlyphOutput) : GlyphOutput :=
  ⟨earlier.segments ++ later.segments, earlier.queries ++ later.queries,
    earlier.events ++ later.events⟩

/-- Puts an event behind what is there already. -/
def GlyphOutput.log (output : GlyphOutput) (event : GlyphEvent) : GlyphOutput :=
  ⟨output.segments, output.queries, output.events ++ [event]⟩

/-- What became of a location: whether it was handled, and all output that there is then. -/
structure GlyphOutcome where
  handled : Bool
  output : GlyphOutput
deriving DecidableEq, Repr

/-- A formatter of native locations, one that a host supplies, or a registry of formatters. -/
inductive GlyphFormatter where
  | native (service : DecompilerService) (labels : GlyphLabels)
  | custom (answer : BreakpointLocation → TextView → CursorPosition → GlyphOutcome)
  | registry (formatters : List GlyphFormatter)

/-- What holds of leaves, and of a registry whenever it holds of its formatters, holds of all. -/
@[elab_as_elim]
theorem GlyphFormatter.induct {motive : GlyphFormatter → Prop}
    (native : ∀ service labels, motive (.native service labels))
    (custom : ∀ answer, motive (.custom answer))
    (registry : ∀ formatters,
      (∀ formatter ∈ formatters, motive formatter) → motive (.registry formatters)) :
    ∀ formatter, motive formatter
  | .native service labels => native service labels
  | .custom answer => custom answer
  | .registry formatters =>
    registry formatters fun formatter _ => induct native custom registry formatter

/-- What came out of asking some formatters in turn: the place of the one that handled the location,
and all output that there is then. -/
structure SearchOutcome where
  index? : Option Nat
  output : GlyphOutput
deriving DecidableEq, Repr

/-- A search that goes on behind a formatter counts that formatter too. -/
def SearchOutcome.behindOne (search : SearchOutcome) : SearchOutcome :=
  ⟨search.index?.map (· + 1), search.output⟩

/-- The event with which a registry of `size` formatters closes its search. -/
def SearchOutcome.closingEvent (size : Nat) (search : SearchOutcome) : GlyphEvent :=
  match search.index? with
  | some index => .handledBy index
  | none => .unhandled size

/-- The outcome of a registry: that of its search, with its own event at the end. -/
def SearchOutcome.close (size : Nat) (search : SearchOutcome) : GlyphOutcome :=
  ⟨search.index?.isSome, search.output.log (search.closingEvent size)⟩

mutual

/-- Asks a formatter to write the description of a location behind the output that is there. -/
def GlyphFormatter.write (location : BreakpointLocation) (view : TextView)
    (position : CursorPosition) : GlyphFormatter → GlyphOutput → GlyphOutcome
  | .native service labels, output =>
    match location with
    | .native nativeLocation =>
      ⟨true, output.append (nativeOutput service labels nativeLocation view position)⟩
    | _ => ⟨false, output⟩
  | .custom answer, output =>
    let answered := answer location view position
    ⟨answered.handled, output.append answered.output⟩
  | .registry formatters, output =>
    (searchFormatters location view position formatters output).close formatters.length

/-- Asks formatters in turn until one handles a location; each finds the output of those before. -/
def searchFormatters (location : BreakpointLocation) (view : TextView)
    (position : CursorPosition) : List GlyphFormatter → GlyphOutput → SearchOutcome
  | [], output => ⟨none, output⟩
  | formatter :: rest, output =>
    let outcome := formatter.write location view position output
    if outcome.handled then ⟨some 0, outcome.output⟩
    else (searchFormatters location view position rest outcome.output).behindOne

end

/-- Asks a formatter to describe a location where nothing has been put out yet. -/
def GlyphFormatter.describe (location : BreakpointLocation) (view : TextView)
    (position : CursorPosition) (formatter : GlyphFormatter) : GlyphOutcome :=
  formatter.write location view position {}

end BreakpointGlyph
