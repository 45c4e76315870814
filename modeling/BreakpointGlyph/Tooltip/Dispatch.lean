import BreakpointGlyph.Tooltip.Account

/-! Dispatch in a tree of formatters: which of them are asked about a location, and which of their
events come in which order. -/

namespace BreakpointGlyph

/-- The formatter that a path leads to from the root of a tree: at every registry on the way the
next index of the path says to which of its formatters to go. -/
def GlyphFormatter.at? : GlyphFormatter → List Nat → Option GlyphFormatter
  | formatter, [] => some formatter
  | .registry formatters, index :: path =>
    formatters[index]?.bind fun child => child.at? path
  -- Nothing is below a leaf.
  | _, _ :: _ => none

/-- A leaf of a tree is a formatter that is no registry. -/
def GlyphFormatter.isLeaf : GlyphFormatter → Bool
  | .registry _ => false
  | _ => true

/-- A formatter in a tree, and the path that leads to it. -/
structure PlacedFormatter where
  path : List Nat
  formatter : GlyphFormatter

/-- The same formatter, seen from a registry that has the tree as its child with an index. -/
def PlacedFormatter.under (index : Nat) (placed : PlacedFormatter) : PlacedFormatter :=
  ⟨index :: placed.path, placed.formatter⟩

mutual

/-- All formatters of a tree in their places, those in a registry in front of the registry. -/
def GlyphFormatter.placed : GlyphFormatter → List PlacedFormatter
  | .native service labels => [⟨[], .native service labels⟩]
  | .custom answer => [⟨[], .custom answer⟩]
  | .registry formatters => placedFrom 0 formatters ++ [⟨[], .registry formatters⟩]

/-- All formatters of some trees, which are the children of a registry from an index on. -/
def placedFrom (index : Nat) : List GlyphFormatter → List PlacedFormatter
  | [] => []
  | formatter :: rest =>
    formatter.placed.map (PlacedFormatter.under index) ++ placedFrom (index + 1) rest

end

/-- An event in the log of a tree, and the formatter that it is from. -/
structure DispatchEntry where
  source : PlacedFormatter
  event : GlyphEvent

/-- The registry and the index that an entry reports, if it is from a registry that has handled its
location by the formatter with that index. -/
def DispatchEntry.turn? (entry : DispatchEntry) : Option (List Nat × Nat) :=
  match entry.source.formatter, entry.event with
  | .registry _, .handledBy index => some (entry.source.path, index)
  | _, _ => none

/-- The registries that a path leads through, the last one first: how each is reached, and with
which index the path goes on from there. -/
def wayUp : List Nat → List (List Nat × Nat)
  | [] => []
  | index :: path => (wayUp path).map (fun turn => (index :: turn.1, turn.2)) ++ [([], index)]

/-- A path comes up to another one if its first index that differs is the smaller, or if it ends on
the way of the other. -/
def comesUpTo : List Nat → List Nat → Bool
  | [], _ => true
  | _ :: _, [] => false
  | index :: path, otherIndex :: other =>
    index < otherIndex || (index == otherIndex && comesUpTo path other)

section

variable (location : BreakpointLocation) (view : TextView) (position : CursorPosition)

/-- A formatter ends the search for one that handles a location if it is a leaf and does so. -/
def PlacedFormatter.stops (placed : PlacedFormatter) : Bool :=
  placed.formatter.isLeaf && placed.formatter.handles location view position

/-- The path to the leaf that handles a location: the first one that does. -/
def GlyphFormatter.handlerPath? (root : GlyphFormatter) : Option (List Nat) :=
  (root.placed.find? (·.stops location view position)).map PlacedFormatter.path

/-- A path is entered if it comes up to the leaf that handles the location, if there is one. -/
def GlyphFormatter.Enters (root : GlyphFormatter) (path : List Nat) : Prop :=
  ∀ handling, root.handlerPath? location view position = some handling →
    comesUpTo path handling = true

/-- Those of some formatters that come up to the first one that handles a location. -/
def enteredAmong (placed : List PlacedFormatter) : List PlacedFormatter :=
  placed.filter fun item =>
    (placed.find? (·.stops location view position)).all (comesUpTo item.path ·.path)

/-- The events of a formatter but for those of the formatters in it: a registry reports which of its
formatters has handled the location, or how many of them have declined. -/
def GlyphFormatter.ownEvents : GlyphFormatter → List GlyphEvent
  | .registry formatters =>
    match formatters.findIdx? (·.handles location view position) with
    | some index => [.handledBy index]
    | none => [.unhandled formatters.length]
  | leaf => (leaf.describe location view position).output.events

/-- The events of a formatter in its place. -/
def PlacedFormatter.entries (placed : PlacedFormatter) : List DispatchEntry :=
  (placed.formatter.ownEvents location view position).map (⟨placed, ·⟩)

/-- The log of a tree: the events of the formatters that are entered, those in a registry in front
of that of the registry. -/
def GlyphFormatter.dispatchLog (root : GlyphFormatter) : List DispatchEntry :=
  (enteredAmong location view position root.placed).flatMap (·.entries location view position)

/-- An event tells what became of the location in a registry with some formatters: which of them has
handled it, all before that one having declined, or that all of them have declined. -/
structure RegistryReport (formatters : List GlyphFormatter) (event : GlyphEvent) : Prop where
  level : event.record.level = .debug
  handled : ∀ index,
    (event.record.message = "Breakpoint location handled by glyph formatter" ∧
        event.record.fields = [("index", .number index)]) ↔
      (∃ child, formatters[index]? = some child ∧ child.handles location view position = true) ∧
        ∀ earlier < index, ∀ child, formatters[earlier]? = some child →
          child.handles location view position = false
  unhandled :
    (event.record.message = "No glyph formatter handled the breakpoint location" ∧
        event.record.fields = [("formatters", .number formatters.length)]) ↔
      ∀ child ∈ formatters, child.handles location view position = false

/-- A log agrees with the way that a location takes in a tree. Only formatters that are entered are
in the log. Every registry that is entered is in it once, behind all that is in the registry. If a
leaf handles the location, the registries above it and no others report that, from the leaf to the
root, and their indices lead to it. If none does, all registries are entered and none reports it. -/
structure GlyphFormatter.DispatchAccount (root : GlyphFormatter) (log : List DispatchEntry) :
    Prop where
  entered : ∀ entry ∈ log, root.at? entry.source.path = some entry.source.formatter ∧
    root.Enters location view position entry.source.path
  reported : ∀ path formatters, root.at? path = some (.registry formatters) →
    root.Enters location view position path →
      ∃ front event back, log = front ++ ⟨⟨path, .registry formatters⟩, event⟩ :: back ∧
        RegistryReport location view position formatters event ∧
        (∀ entry ∈ front, entry.source.path ≠ path) ∧
        ∀ entry ∈ back, ¬path <+: entry.source.path
  handled : ∀ handling, root.handlerPath? location view position = some handling →
    log.filterMap DispatchEntry.turn? = wayUp handling ∧
      ∃ leaf, root.at? ((log.filterMap DispatchEntry.turn?).map Prod.snd).reverse = some leaf ∧
        leaf.isLeaf = true ∧ root.handler? location view position = some leaf
  unhandled : root.handlerPath? location view position = none →
    log.filterMap DispatchEntry.turn? = [] ∧
      ∀ path formatters, root.at? path = some (.registry formatters) →
        (⟨⟨path, .registry formatters⟩, .unhandled formatters.length⟩ : DispatchEntry) ∈ log

end

end BreakpointGlyph
