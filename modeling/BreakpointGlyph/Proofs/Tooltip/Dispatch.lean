import BreakpointGlyph.Proofs.Tooltip.Account
import BreakpointGlyph.Tooltip.Dispatch

/-! The events of a tree of formatters are its log, and tell a location's way through the tree. -/

namespace BreakpointGlyph

/-! Places -/

/-- The formatters in some trees are placed below the indices of these trees. -/
theorem mem_placedFrom {formatters : List GlyphFormatter} {start : Nat} {item : PlacedFormatter} :
    item ∈ placedFrom start formatters ↔
      ∃ (index : Nat) (child : GlyphFormatter), formatters[index]? = some child ∧
        ∃ inner ∈ child.placed, item = inner.under (start + index) := by
  -- The index that is counted from changes with every tree, so it stays quantified over.
  induction formatters generalizing start with
  | nil => simp [placedFrom]
  | cons formatter rest ih =>
    rw [placedFrom, List.mem_append, ih, List.mem_map]
    constructor
    · intro member
      rcases member with ⟨inner, inside, rfl⟩ | ⟨index, child, found, inner, inside, rfl⟩
      · exact ⟨0, formatter, rfl, inner, inside, rfl⟩
      · refine ⟨index + 1, child, found, inner, inside, ?_⟩
        congr 1
        omega
    · intro placed
      obtain ⟨index, child, found, inner, inside, rfl⟩ := placed
      cases index with
      | zero =>
        obtain rfl : formatter = child := by simpa using found
        exact .inl ⟨inner, inside, rfl⟩
      | succ index =>
        refine .inr ⟨index, child, found, inner, inside, ?_⟩
        congr 1
        omega

/-- A path that goes on below a registry leads to a formatter in one of its children. -/
theorem GlyphFormatter.at?_registry {formatters : List GlyphFormatter} {index : Nat}
    {path : List Nat} {formatter : GlyphFormatter} :
    (registry formatters).at? (index :: path) = some formatter ↔
      ∃ child, formatters[index]? = some child ∧ child.at? path = some formatter := by
  rw [at?, Option.bind_eq_some_iff]

/-- A formatter is placed in a tree exactly where its path leads to it. -/
theorem GlyphFormatter.mem_placed {root : GlyphFormatter} {item : PlacedFormatter} :
    item ∈ root.placed ↔ root.at? item.path = some item.formatter := by
  -- The path is gone through together with the tree, so it stays quantified over.
  obtain ⟨path, formatter⟩ := item
  induction root using GlyphFormatter.induct generalizing path formatter with
  | native service labels =>
    cases path <;> simp [placed, at?, eq_comm]
  | custom answer =>
    cases path <;> simp [placed, at?, eq_comm]
  | registry formatters ih =>
    rw [placed, List.mem_append, mem_placedFrom, List.mem_singleton]
    cases path with
    -- The empty path is that of the registry itself, since all others start with an index.
    | nil => simp [PlacedFormatter.under, at?, eq_comm]
    | cons index path =>
      -- The first index says in which of the children the formatter is.
      rw [at?_registry]
      simp only [PlacedFormatter.under, Nat.zero_add, PlacedFormatter.mk.injEq, List.cons.injEq,
        reduceCtorEq, false_and, or_false]
      constructor
      · intro placed
        obtain ⟨_, child, found, ⟨_, _⟩, inside, ⟨rfl, rfl⟩, rfl⟩ := placed
        exact ⟨child, found, (ih child (List.mem_of_getElem? found) _ _).mp inside⟩
      · intro located
        obtain ⟨child, found, reached⟩ := located
        exact ⟨index, child, found, ⟨path, formatter⟩,
          (ih child (List.mem_of_getElem? found) _ _).mpr reached, ⟨rfl, rfl⟩, rfl⟩

/-- What is placed in trees is placed below an index that is not smaller than the first. -/
theorem path_of_mem_placedFrom {formatters : List GlyphFormatter} {start : Nat}
    {item : PlacedFormatter} (member : item ∈ placedFrom start formatters) :
    ∃ index path, start ≤ index ∧ item.path = index :: path := by
  obtain ⟨index, child, _, inner, _, rfl⟩ := mem_placedFrom.mp member
  exact ⟨start + index, inner.path, Nat.le_add_right start index, rfl⟩

/-- Nothing that is placed in trees behind a formatter is inside that one, if that holds in each. -/
theorem pairwise_placedFrom {formatters : List GlyphFormatter} (start : Nat)
    (inOrder : ∀ formatter ∈ formatters, formatter.placed.Pairwise fun earlier later =>
      ¬earlier.path <+: later.path) :
    (placedFrom start formatters).Pairwise fun earlier later => ¬earlier.path <+: later.path := by
  -- Within a tree this is known, so what is left is to compare two different trees.
  induction formatters generalizing start with
  | nil => exact List.Pairwise.nil
  | cons formatter rest ih =>
    rw [placedFrom, List.pairwise_append, List.pairwise_map]
    have others := ih (start + 1) fun other member => inOrder other (by simp [member])
    refine ⟨(inOrder formatter (by simp)).imp ?_, others, ?_⟩
    · intro earlier later apart together
      exact apart (List.cons_prefix_cons.mp together).2
    · -- Paths into different trees differ at once.
      intro earlier member later alsoMember together
      obtain ⟨inner, _, rfl⟩ := List.mem_map.mp member
      obtain ⟨index, path, behind, same⟩ := path_of_mem_placedFrom alsoMember
      rw [same] at together
      have meeting : start = index := (List.cons_prefix_cons.mp together).1
      omega

/-- Nothing that is placed in a tree behind a formatter is inside that one. -/
theorem GlyphFormatter.pairwise_placed (root : GlyphFormatter) :
    root.placed.Pairwise fun earlier later => ¬earlier.path <+: later.path := by
  -- A registry stands behind all that is in it, at every level.
  induction root using GlyphFormatter.induct with
  | native service labels => simp [placed]
  | custom answer => simp [placed]
  | registry formatters ih =>
    rw [placed, List.pairwise_append]
    refine ⟨pairwise_placedFrom 0 ih, List.pairwise_singleton _ _, ?_⟩
    -- The registry itself comes last, and its path is empty.
    intro earlier member root last together
    obtain ⟨index, path, _, same⟩ := path_of_mem_placedFrom member
    obtain rfl := List.mem_singleton.mp last
    simp [same] at together

/-! The handling leaf -/

section

variable {location : BreakpointLocation} {view : TextView} {position : CursorPosition}

/-- The first formatter that stops a search is the same one seen from a registry above. -/
theorem find?_stops_under (index : Nat) (placed : List PlacedFormatter) :
    (placed.map (PlacedFormatter.under index)).find? (·.stops location view position) =
      (placed.find? (·.stops location view position)).map (PlacedFormatter.under index) :=
  -- Where a formatter is placed does not matter for what it does.
  List.find?_map

/-- A registry does not stop a search itself. -/
theorem stops_registry (path : List Nat) (formatters : List GlyphFormatter) :
    PlacedFormatter.stops location view position ⟨path, .registry formatters⟩ = false :=
  rfl

/-- The first formatter that stops a search in some trees is the first of their leaves that does. -/
theorem find?_stops_placedFrom {formatters : List GlyphFormatter} (start : Nat)
    (agree : ∀ formatter ∈ formatters,
      (formatter.placed.find? (·.stops location view position)).map PlacedFormatter.formatter =
        formatter.handler? location view position) :
    ((placedFrom start formatters).find? (·.stops location view position)).map
        PlacedFormatter.formatter =
      (formatters.flatMap GlyphFormatter.leaves).find? (·.handles location view position) := by
  -- On both sides the search goes through the first tree, and then through the others.
  induction formatters generalizing start with
  | nil => rfl
  | cons formatter rest ih =>
    have first := agree formatter (by simp)
    have others := ih (start + 1) fun other member => agree other (by simp [member])
    rw [placedFrom, List.flatMap_cons, List.find?_append, List.find?_append, find?_stops_under]
    rw [GlyphFormatter.handler?] at first
    rw [← first, ← others]
    cases formatter.placed.find? (·.stops location view position) <;> rfl

/-- The first formatter in a tree that stops a search is the leaf that handles the location. -/
theorem GlyphFormatter.find?_stops (root : GlyphFormatter) :
    (root.placed.find? (·.stops location view position)).map PlacedFormatter.formatter =
      root.handler? location view position := by
  induction root using GlyphFormatter.induct with
  | native service labels =>
    simp [placed, handler?, leaves, List.find?_singleton, PlacedFormatter.stops, isLeaf, apply_ite]
  | custom answer =>
    simp [placed, handler?, leaves, List.find?_singleton, PlacedFormatter.stops, isLeaf, apply_ite]
  | registry formatters ih =>
    -- The registry comes last and stops no search.
    rw [placed, handler?, leaves, leavesOf_eq, ← find?_stops_placedFrom 0 ih, List.find?_append,
      List.find?_singleton, stops_registry]
    simp

/-- A tree handles a location exactly if one of its formatters stops the search. -/
theorem GlyphFormatter.find?_stops_isSome (root : GlyphFormatter) :
    (root.placed.find? (·.stops location view position)).isSome =
      root.handles location view position := by
  -- That formatter is the leaf that handles the location, if there is one.
  rw [← Option.isSome_map, root.find?_stops, handler?, root.handles_eq, Bool.eq_iff_iff]
  simp

/-! What is entered -/

/-- Paths that start with indices are compared by these first. -/
theorem comesUpTo_cons {index otherIndex : Nat} {path other : List Nat} :
    comesUpTo (index :: path) (otherIndex :: other) = true ↔
      index < otherIndex ∨ (index = otherIndex ∧ comesUpTo path other = true) := by
  simp [comesUpTo]

/-- A path comes up to itself. -/
theorem comesUpTo_self (path : List Nat) : comesUpTo path path = true := by
  induction path with
  | nil => rfl
  | cons index path ih => exact comesUpTo_cons.mpr (.inr ⟨rfl, ih⟩)

/-- What is entered in a tree is entered in the same way below a registry. -/
theorem enteredAmong_under (index : Nat) (placed : List PlacedFormatter) :
    enteredAmong location view position (placed.map (PlacedFormatter.under index)) =
      (enteredAmong location view position placed).map (PlacedFormatter.under index) := by
  rw [enteredAmong, enteredAmong, find?_stops_under, List.filter_map]
  -- Paths that start with the same index compare as they do without it.
  cases placed.find? (·.stops location view position) <;>
    simp [PlacedFormatter.under, Function.comp_def, comesUpTo]

/-- Behind a leaf that handles the location nothing is entered that is placed after it. -/
theorem enteredAmong_append_of_some {front back : List PlacedFormatter}
    {handling : PlacedFormatter}
    (found : front.find? (·.stops location view position) = some handling)
    (after : ∀ item ∈ back, comesUpTo item.path handling.path = false) :
    enteredAmong location view position (front ++ back) =
      enteredAmong location view position front := by
  -- What is behind the leaf is filtered out as a whole.
  have none : back.filter (fun item => comesUpTo item.path handling.path) = [] := by
    rw [List.filter_eq_nil_iff]
    intro item member
    simpa using after item member
  simp [enteredAmong, List.find?_append, found, none]

/-- Formatters that do not stop a search are entered in front of what is entered behind them, if
they are placed before the leaf that stops it there. -/
theorem enteredAmong_append_of_none {front back : List PlacedFormatter}
    (passed : front.find? (·.stops location view position) = none)
    (before : ∀ item ∈ front, ∀ handling,
      back.find? (·.stops location view position) = some handling →
        comesUpTo item.path handling.path = true) :
    enteredAmong location view position (front ++ back) =
      front ++ enteredAmong location view position back := by
  -- What is in front of the leaf is kept as a whole.
  have all : front.filter (fun item => (back.find? (·.stops location view position)).all
      (comesUpTo item.path ·.path)) = front := by
    rw [List.filter_eq_self]
    intro item member
    cases found : back.find? (·.stops location view position) with
    | none => rfl
    | some handling => simpa using before item member handling found
  simp only [enteredAmong, List.find?_append, passed, Option.none_or, List.filter_append, all]

/-- If the first of some trees handles the location, no other of them is entered. -/
theorem enteredAmong_placedFrom_cons (start : Nat) (formatter : GlyphFormatter)
    (rest : List GlyphFormatter) :
    enteredAmong location view position (placedFrom start (formatter :: rest)) =
      (enteredAmong location view position formatter.placed).map (PlacedFormatter.under start) ++
        if formatter.handles location view position then []
        else enteredAmong location view position (placedFrom (start + 1) rest) := by
  -- The first tree handles the location exactly if the search stops in it.
  rw [placedFrom, ← formatter.find?_stops_isSome]
  cases found : formatter.placed.find? (·.stops location view position) with
  | some handling =>
    have stopped : (formatter.placed.map (PlacedFormatter.under start)).find?
        (·.stops location view position) = some (handling.under start) := by
      rw [find?_stops_under, found]
      rfl
    rw [enteredAmong_append_of_some stopped, enteredAmong_under]
    · simp
    · -- The paths into the others start with a greater index.
      intro item member
      obtain ⟨index, path, behind, same⟩ := path_of_mem_placedFrom member
      rw [same, PlacedFormatter.under, Bool.eq_false_iff, ne_eq, comesUpTo_cons]
      omega
  | none =>
    have passed : (formatter.placed.map (PlacedFormatter.under start)).find?
        (·.stops location view position) = none := by
      rw [find?_stops_under, found]
      rfl
    have all : enteredAmong location view position formatter.placed = formatter.placed := by
      simp [enteredAmong, found]
    rw [enteredAmong_append_of_none passed, all]
    · simp
    · -- The paths into the first tree start with the smallest index.
      intro item member handling stopping
      obtain ⟨inner, _, rfl⟩ := List.mem_map.mp member
      obtain ⟨index, path, behind, same⟩ :=
        path_of_mem_placedFrom (List.mem_of_find?_eq_some stopping)
      rw [same, PlacedFormatter.under, comesUpTo_cons]
      exact .inl behind

/-- A formatter alone is entered. -/
theorem enteredAmong_singleton (item : PlacedFormatter) :
    enteredAmong location view position [item] = [item] := by
  rw [enteredAmong, List.find?_singleton]
  -- If it stops the search, it comes up to itself.
  cases item.stops location view position <;> simp [comesUpTo_self]

/-- A registry is always entered, and comes behind what is entered in it. -/
theorem enteredAmong_registry (formatters : List GlyphFormatter) :
    enteredAmong location view position (GlyphFormatter.registry formatters).placed =
      enteredAmong location view position (placedFrom 0 formatters) ++
        [⟨[], .registry formatters⟩] := by
  rw [GlyphFormatter.placed, enteredAmong, List.find?_append, List.find?_singleton, stops_registry,
    List.filter_append]
  -- The empty path comes up to all others.
  cases found : (placedFrom 0 formatters).find? (·.stops location view position) <;>
    simp [enteredAmong, found, comesUpTo]

/-! The log -/

/-- A search finds the first formatter that handles the location. -/
theorem searchFormatters_index? (formatters : List GlyphFormatter) (earlier : GlyphOutput) :
    (searchFormatters location view position formatters earlier).index? =
      formatters.findIdx? (·.handles location view position) := by
  -- Each formatter finds the output of those before it, so the output stays quantified over.
  induction formatters generalizing earlier with
  | nil => rfl
  | cons formatter rest ih =>
    rw [searchFormatters, formatter.appends earlier, List.findIdx?_cons]
    by_cases handled : formatter.handles location view position = true
    · simp [handled]
    · -- The search goes on, and counts one more.
      simp [handled, SearchOutcome.behindOne, ih]

/-- The event with which a registry closes its search is its own report. -/
theorem ownEvents_registry (formatters : List GlyphFormatter) :
    (GlyphFormatter.registry formatters).ownEvents location view position =
      [(searchFormatters location view position formatters {}).closingEvent formatters.length] := by
  -- Both tell the index of the first formatter that handles the location.
  rw [GlyphFormatter.ownEvents, SearchOutcome.closingEvent, searchFormatters_index?]
  cases formatters.findIdx? (·.handles location view position) <;> rfl

/-- The events of formatters that are entered, in their order. -/
def enteredEvents (location : BreakpointLocation) (view : TextView) (position : CursorPosition)
    (placed : List PlacedFormatter) : List GlyphEvent :=
  (enteredAmong location view position placed).flatMap
    (·.formatter.ownEvents location view position)

/-- A search logs the events of the formatters that are entered, if each of its trees does. -/
theorem searchFormatters_events {formatters : List GlyphFormatter} (start : Nat)
    (logged : ∀ formatter ∈ formatters,
      (formatter.describe location view position).output.events =
        enteredEvents location view position formatter.placed) :
    (searchFormatters location view position formatters {}).output.events =
      enteredEvents location view position (placedFrom start formatters) := by
  -- The search stops at the tree behind which nothing is entered.
  induction formatters generalizing start with
  | nil => rfl
  | cons formatter rest ih =>
    have first := logged formatter (by simp)
    have others := ih (start + 1) fun other member => logged other (by simp [member])
    have behind : searchFormatters location view position rest
        (formatter.describe location view position).output = _ :=
      searchFormatters_append (fun other _ => other.appends) _
    rw [enteredEvents] at first others
    rw [enteredEvents, enteredAmong_placedFrom_cons, List.flatMap_append, List.flatMap_map,
      searchFormatters, formatter.appends {}]
    cases handled : formatter.handles location view position with
    | true => simpa [PlacedFormatter.under] using first
    | false =>
      -- The search goes on behind the events of this formatter.
      simp only [GlyphOutput.empty_append, behind, Bool.false_eq_true, if_false]
      simp [SearchOutcome.behindOne, GlyphOutput.append, PlacedFormatter.under, first, others]

/-- A tree logs the events of the formatters that are entered. -/
theorem GlyphFormatter.events_eq (root : GlyphFormatter) :
    (root.describe location view position).output.events =
      enteredEvents location view position root.placed := by
  induction root using GlyphFormatter.induct with
  | native service labels => simp [placed, enteredEvents, enteredAmong_singleton, ownEvents]
  | custom answer => simp [placed, enteredEvents, enteredAmong_singleton, ownEvents]
  | registry formatters ih =>
    -- The event of the registry comes behind those of its search.
    have searched := searchFormatters_events 0 ih
    rw [enteredEvents] at searched
    rw [enteredEvents, enteredAmong_registry, List.flatMap_append, ← searched]
    simp [ownEvents_registry, describe, write, SearchOutcome.close, GlyphOutput.log]

/-! The way up -/

/-- The indices of the way up are those of the path, the last one first. -/
theorem map_snd_wayUp (path : List Nat) : (wayUp path).map Prod.snd = path.reverse := by
  -- The first index of the path comes last on the way up.
  induction path with
  | nil => rfl
  | cons index path ih =>
    rw [wayUp, List.map_append, List.map_map, List.reverse_cons, ← ih]
    rfl

/-- The path to the first formatter in some trees that stops a search starts with the index of the
first tree that handles the location. -/
theorem head?_stops (location : BreakpointLocation) (view : TextView) (position : CursorPosition)
    (formatters : List GlyphFormatter) (start : Nat) :
    ((placedFrom start formatters).find? (·.stops location view position)).bind
        (·.path.head?) =
      (formatters.findIdx? (·.handles location view position)).map (start + ·) := by
  -- A tree that handles the location has such a formatter, and all its paths start with its index.
  induction formatters generalizing start with
  | nil => rfl
  | cons formatter rest ih =>
    rw [placedFrom, List.find?_append, find?_stops_under, List.findIdx?_cons,
      ← formatter.find?_stops_isSome]
    cases formatter.placed.find? (·.stops location view position) with
    | some handling => rfl
    | none =>
      -- The first tree is counted on both sides.
      simp [ih, Function.comp_def, Nat.add_assoc, Nat.add_comm 1]

/-- The report of a registry that has handled the location, if the formatter is one. -/
def PlacedFormatter.turns (location : BreakpointLocation) (view : TextView)
    (position : CursorPosition) (item : PlacedFormatter) : List (List Nat × Nat) :=
  (item.entries location view position).filterMap DispatchEntry.turn?

/-- A registry reports the index of the first of its formatters that handles the location. -/
theorem PlacedFormatter.turns_registry (path : List Nat) (formatters : List GlyphFormatter) :
    PlacedFormatter.turns location view position ⟨path, .registry formatters⟩ =
      ((formatters.findIdx? (·.handles location view position)).map (path, ·)).toList := by
  -- A registry that has declined has another event, which is no such report.
  rw [turns, entries, GlyphFormatter.ownEvents]
  cases formatters.findIdx? (·.handles location view position) <;> rfl

/-- A leaf reports nothing of that kind, whatever its events are. -/
theorem PlacedFormatter.turns_leaf {item : PlacedFormatter}
    (leaf : item.formatter.isLeaf = true) : item.turns location view position = [] := by
  -- Only an entry of a registry counts as such a report.
  obtain ⟨path, formatter⟩ := item
  cases formatter with
  | registry formatters => simp [GlyphFormatter.isLeaf] at leaf
  | native service labels => simp [turns, entries, DispatchEntry.turn?]
  | custom answer => simp [turns, entries, DispatchEntry.turn?]

/-- A report is the same below a registry but for the path. -/
theorem PlacedFormatter.turns_under (index : Nat) (item : PlacedFormatter) :
    (item.under index).turns location view position =
      (item.turns location view position).map fun turn => (index :: turn.1, turn.2) := by
  -- What a formatter reports does not depend on where it is placed.
  obtain ⟨path, formatter⟩ := item
  cases formatter with
  | registry formatters =>
    rw [under, turns_registry, turns_registry]
    cases formatters.findIdx? (·.handles location view position) <;> rfl
  | native | custom => rw [turns_leaf rfl, turns_leaf rfl, List.map_nil]

/-- The reports of those formatters that are entered among some. -/
def turnsAmong (location : BreakpointLocation) (view : TextView) (position : CursorPosition)
    (placed : List PlacedFormatter) : List (List Nat × Nat) :=
  (enteredAmong location view position placed).flatMap (·.turns location view position)

/-- The registries in some trees that report are those on the way up from the leaf that handles the
location, if that is so in each of the trees. -/
theorem turnsAmong_placedFrom {formatters : List GlyphFormatter} (start : Nat)
    (agree : ∀ formatter ∈ formatters, turnsAmong location view position formatter.placed =
      (formatter.placed.find? (·.stops location view position)).elim [] (wayUp ·.path)) :
    turnsAmong location view position (placedFrom start formatters) =
      ((placedFrom start formatters).find? (·.stops location view position)).elim []
        fun handling => (wayUp handling.path).dropLast := by
  -- The last one on the way up is the registry above the trees, which is not among them.
  induction formatters generalizing start with
  | nil => rfl
  | cons formatter rest ih =>
    have first := agree formatter (by simp)
    have others := ih (start + 1) fun other member => agree other (by simp [member])
    rw [turnsAmong] at first others
    rw [turnsAmong, enteredAmong_placedFrom_cons, ← formatter.find?_stops_isSome,
      List.flatMap_append, List.flatMap_map, placedFrom, List.find?_append, find?_stops_under]
    simp only [PlacedFormatter.turns_under, ← List.map_flatMap, first]
    -- If the leaf is not in the first tree, nothing in that one reports.
    cases formatter.placed.find? (·.stops location view position) with
    | some handling => simp [PlacedFormatter.under, wayUp]
    | none => simpa using others

/-- The registries in a tree that report are those on the way up from the leaf that handles the
location. -/
theorem GlyphFormatter.turnsAmong_placed (location : BreakpointLocation) (view : TextView)
    (position : CursorPosition) (root : GlyphFormatter) :
    turnsAmong location view position root.placed =
      (root.placed.find? (·.stops location view position)).elim [] (wayUp ·.path) := by
  induction root using GlyphFormatter.induct with
  | native | custom =>
    -- A leaf reports nothing, and no registry is above it.
    rw [turnsAmong, placed, enteredAmong_singleton, List.flatMap_singleton,
      PlacedFormatter.turns_leaf rfl, List.find?_singleton]
    split <;> rfl
  | registry formatters ih =>
    -- Behind the registries in it, this one reports the index with which the path starts.
    have children := turnsAmong_placedFrom 0 ih
    have heads := head?_stops location view position formatters 0
    rw [turnsAmong] at children
    rw [turnsAmong, enteredAmong_registry, List.flatMap_append, children, List.flatMap_singleton,
      PlacedFormatter.turns_registry, placed, List.find?_append, List.find?_singleton,
      stops_registry]
    cases found : (placedFrom 0 formatters).find? (·.stops location view position) with
    | none =>
      have declined : formatters.findIdx? (·.handles location view position) = none := by
        simpa [found] using heads.symm
      simp [declined]
    | some handling =>
      obtain ⟨index, path, _, same⟩ := path_of_mem_placedFrom (List.mem_of_find?_eq_some found)
      have reported : formatters.findIdx? (·.handles location view position) = some index := by
        simpa [found, same] using heads.symm
      simp [reported, same, wayUp]

/-! The account -/

/-- A search through the formatters of a registry finds the first one that handles the location. -/
theorem findIdx?_handles_iff {formatters : List GlyphFormatter} {index : Nat} :
    formatters.findIdx? (·.handles location view position) = some index ↔
      (∃ child, formatters[index]? = some child ∧ child.handles location view position = true) ∧
        ∀ earlier < index, ∀ child, formatters[earlier]? = some child →
          child.handles location view position = false := by
  -- Places of the list are told by optional access on one side, by proven access on the other.
  rw [List.findIdx?_eq_some_iff_getElem]
  constructor
  · intro found
    obtain ⟨inside, handled, before⟩ := found
    refine ⟨⟨formatters[index], List.getElem?_eq_getElem inside, handled⟩, ?_⟩
    intro earlier front child located
    obtain ⟨within, rfl⟩ := List.getElem?_eq_some_iff.mp located
    simpa using before earlier front
  · intro both
    obtain ⟨⟨child, located, handled⟩, before⟩ := both
    obtain ⟨inside, rfl⟩ := List.getElem?_eq_some_iff.mp located
    refine ⟨inside, handled, fun earlier front => ?_⟩
    simp [before earlier front _ (List.getElem?_eq_getElem (Nat.lt_trans front inside))]

/-- The only event of a registry itself tells what became of the location in it. -/
theorem exists_registryReport (location : BreakpointLocation) (view : TextView)
    (position : CursorPosition) (formatters : List GlyphFormatter) :
    ∃ event, (GlyphFormatter.registry formatters).ownEvents location view position = [event] ∧
      RegistryReport location view position formatters event := by
  -- The event depends on the index of the formatter that has handled the location, if there is one.
  rw [GlyphFormatter.ownEvents]
  cases found : formatters.findIdx? (·.handles location view position) with
  | some index =>
    refine ⟨.handledBy index, rfl, rfl, fun other => ?_, ?_⟩
    · rw [← findIdx?_handles_iff, found]
      simp [GlyphEvent.record]
    · rw [← List.findIdx?_eq_none_iff, found]
      simp [GlyphEvent.record]
  | none =>
    refine ⟨.unhandled formatters.length, rfl, rfl, fun other => ?_, ?_⟩
    · rw [← findIdx?_handles_iff, found]
      simp [GlyphEvent.record]
    · rw [← List.findIdx?_eq_none_iff, found]
      simp [GlyphEvent.record]

/-- A formatter is among those that are entered if it is placed in the tree and its path entered. -/
theorem GlyphFormatter.mem_entered {root : GlyphFormatter} {item : PlacedFormatter} :
    item ∈ enteredAmong location view position root.placed ↔
      root.at? item.path = some item.formatter ∧
        root.Enters location view position item.path := by
  -- It is placed where its path leads, and it is kept if it comes up to the leaf.
  rw [enteredAmong, List.mem_filter, mem_placed, Enters, handlerPath?]
  cases root.placed.find? (·.stops location view position) <;> simp

/-- The log of a tree is made of the entries of those that are entered, in their order. -/
theorem GlyphFormatter.filterMap_turn?_dispatchLog (location : BreakpointLocation) (view : TextView)
    (position : CursorPosition) (root : GlyphFormatter) :
    (root.dispatchLog location view position).filterMap DispatchEntry.turn? =
      (root.handlerPath? location view position).elim [] wayUp := by
  -- The reports in the log are those of the formatters in it, one after the other.
  have turns := root.turnsAmong_placed location view position
  rw [dispatchLog, List.filterMap_flatMap, handlerPath?]
  rw [turnsAmong] at turns
  cases found : root.placed.find? (·.stops location view position) <;>
    simpa [found, PlacedFormatter.turns] using turns

/-- The entries of some formatters are from these. -/
theorem source_mem {items : List PlacedFormatter} {entry : DispatchEntry}
    (member : entry ∈ items.flatMap (·.entries location view position)) : entry.source ∈ items := by
  -- Each formatter is the source of its own entries.
  obtain ⟨item, inside, made⟩ := List.mem_flatMap.mp member
  obtain ⟨event, _, rfl⟩ := List.mem_map.mp made
  exact inside

/-- A registry that is entered reports once, behind everything that is in it. -/
theorem GlyphFormatter.exists_reported {root : GlyphFormatter} {path : List Nat}
    {formatters : List GlyphFormatter} (reached : root.at? path = some (.registry formatters))
    (entered : root.Enters location view position path) :
    ∃ front event back,
      root.dispatchLog location view position =
          front ++ ⟨⟨path, .registry formatters⟩, event⟩ :: back ∧
        RegistryReport location view position formatters event ∧
        (∀ entry ∈ front, entry.source.path ≠ path) ∧
        ∀ entry ∈ back, ¬path <+: entry.source.path := by
  obtain ⟨event, own, report⟩ := exists_registryReport location view position formatters
  -- The registry has its place among those that are entered, and nothing behind it is in it.
  have member : ⟨path, .registry formatters⟩ ∈ enteredAmong location view position root.placed :=
    mem_entered.mpr ⟨reached, entered⟩
  obtain ⟨front, back, split⟩ := List.append_of_mem member
  have inOrder : (enteredAmong location view position root.placed).Pairwise
      fun earlier later => ¬earlier.path <+: later.path := root.pairwise_placed.filter _
  rw [split, List.pairwise_append, List.pairwise_cons] at inOrder
  obtain ⟨_, ⟨behind, _⟩, across⟩ := inOrder
  refine ⟨front.flatMap (·.entries location view position), event,
    back.flatMap (·.entries location view position), ?_, report, ?_, ?_⟩
  · rw [dispatchLog, split, List.flatMap_append, List.flatMap_cons, PlacedFormatter.entries, own]
    rfl
  · intro entry inFront same
    apply across _ (source_mem inFront) _ List.mem_cons_self
    exact same ▸ List.prefix_rfl
  · intro entry inBack
    exact behind _ (source_mem inBack)

/-- The events of a tree are those of its log. -/
theorem GlyphFormatter.map_event_dispatchLog (root : GlyphFormatter) :
    (root.dispatchLog location view position).map DispatchEntry.event =
      (root.describe location view position).output.events := by
  -- An entry of the log is an event and the formatter that it is from.
  rw [root.events_eq, enteredEvents, dispatchLog, List.map_flatMap]
  simp [PlacedFormatter.entries, Function.comp_def]

/-- The path to the leaf that handles a location leads to that leaf. -/
theorem GlyphFormatter.exists_handler {root : GlyphFormatter} {handling : List Nat}
    (handled : root.handlerPath? location view position = some handling) :
    ∃ leaf, root.at? handling = some leaf ∧ leaf.isLeaf = true ∧
      root.handler? location view position = some leaf := by
  -- The leaf is placed at the end of its path, and is the one that stops the search.
  obtain ⟨item, found, rfl⟩ := Option.map_eq_some_iff.mp handled
  have stops : item.stops location view position = true := by
    simpa using List.find?_some found
  rw [PlacedFormatter.stops, Bool.and_eq_true] at stops
  refine ⟨item.formatter, mem_placed.mp (List.mem_of_find?_eq_some found), stops.1, ?_⟩
  rw [← root.find?_stops, found]
  rfl

/-- The log of a tree agrees with the way that the location takes in it. -/
theorem GlyphFormatter.dispatchAccount (root : GlyphFormatter) :
    root.DispatchAccount location view position (root.dispatchLog location view position) := by
  have turns := root.filterMap_turn?_dispatchLog location view position
  refine ⟨fun entry member => mem_entered.mp (source_mem member),
    fun path formatters => exists_reported, ?_, ?_⟩
  · intro handling handled
    rw [turns, handled, Option.elim_some, map_snd_wayUp, List.reverse_reverse]
    exact ⟨rfl, exists_handler handled⟩
  · intro declined
    rw [declined, Option.elim_none] at turns
    refine ⟨turns, fun path formatters reached => ?_⟩
    have entered : root.Enters location view position path := by
      intro handling handled
      simp [declined] at handled
    have member : ⟨path, .registry formatters⟩ ∈
        enteredAmong location view position root.placed := mem_entered.mpr ⟨reached, entered⟩
    -- A registry that reports another event would be on some way up.
    rw [dispatchLog, List.filterMap_flatMap, List.flatMap_eq_nil_iff] at turns
    have silent : PlacedFormatter.turns location view position ⟨path, .registry formatters⟩ = [] :=
      turns _ member
    rw [PlacedFormatter.turns_registry, Option.toList_eq_nil_iff, Option.map_eq_none_iff] at silent
    refine List.mem_flatMap.mpr ⟨_, member, ?_⟩
    simp [PlacedFormatter.entries, ownEvents, silent]

/-- Asking a tree of formatters logs the events of its log behind those that are there, and no
others, and the log agrees with the way that the location takes in the tree. -/
theorem GlyphFormatter.write_events (root : GlyphFormatter) (earlier : GlyphOutput) :
    (root.write location view position earlier).output.events =
        earlier.events ++ (root.dispatchLog location view position).map DispatchEntry.event ∧
      (root.write location view position earlier).handled =
        (root.handlerPath? location view position).isSome ∧
      root.DispatchAccount location view position (root.dispatchLog location view position) := by
  refine ⟨?_, ?_, root.dispatchAccount⟩
  · rw [root.appends earlier, map_event_dispatchLog]
    rfl
  · rw [root.appends earlier, handlerPath?, Option.isSome_map, root.find?_stops_isSome]

end

/-- The events of nested registries: of one without formatters, of one that handles an address by
its only formatter, and of the one around them, which goes by its third. -/
example : (nestedFormatters.describe (.address ⟨4096⟩) .plain ⟨0, 0⟩).output.events =
    [.unhandled 0, .handledBy 0, .handledBy 2] := by
  decide

end BreakpointGlyph
