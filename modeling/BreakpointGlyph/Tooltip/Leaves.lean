import BreakpointGlyph.Tooltip.Formatter

/-! A tree of formatters without its registries: a flat list of leaves, searched from the front. -/

namespace BreakpointGlyph

mutual

/-- The formatters of a tree that are no registries, in the order in which they were registered. -/
def GlyphFormatter.leaves : GlyphFormatter → List GlyphFormatter
  | .native service labels => [.native service labels]
  | .custom answer => [.custom answer]
  | .registry formatters => leavesOf formatters

/-- The leaves of several trees in order. -/
def leavesOf : List GlyphFormatter → List GlyphFormatter
  | [] => []
  | formatter :: rest => formatter.leaves ++ leavesOf rest

end

section

variable (location : BreakpointLocation) (view : TextView) (position : CursorPosition)

/-- Whether a formatter handles a location. -/
def GlyphFormatter.handles (formatter : GlyphFormatter) : Bool :=
  (formatter.describe location view position).handled

/-- The segments that a formatter writes for a location. -/
def GlyphFormatter.segments (formatter : GlyphFormatter) : List Segment :=
  (formatter.describe location view position).output.segments

/-- The segments of the first of some leaves that handles a location, or none. -/
def firstSegments (leaves : List GlyphFormatter) : List Segment :=
  match leaves.find? (·.handles location view position) with
  | some leaf => leaf.segments location view position
  | none => []

/-- A formatter declines silently if it writes nothing about a location that it does not handle. -/
def GlyphFormatter.DeclinesSilently (formatter : GlyphFormatter) : Prop :=
  formatter.handles location view position = false →
    formatter.segments location view position = []

/-- The formatters in a tree that a host supplies decline silently, as is asked of them. -/
def GlyphFormatter.SilentLeaves (formatter : GlyphFormatter) : Prop :=
  ∀ answer, .custom answer ∈ formatter.leaves →
    (GlyphFormatter.custom answer).DeclinesSilently location view position

end

/-- Whether a reader sees the same: the location handled or not, and the same segments. -/
def GlyphOutcome.ReadsLike (outcome other : GlyphOutcome) : Prop :=
  outcome.handled = other.handled ∧ outcome.output.segments = other.output.segments

/-- The leaves of several trees are those of each in turn. -/
@[simp] theorem leavesOf_eq (formatters : List GlyphFormatter) :
    leavesOf formatters = formatters.flatMap GlyphFormatter.leaves := by
  induction formatters with
  | nil => rfl
  | cons formatter rest ih => rw [leavesOf, ih, List.flatMap_cons]

end BreakpointGlyph
