import BreakpointGlyph.Tooltip.Leaves

/-! Asking a tree of formatters is asking its leaves in order, whatever the registries between. -/

namespace BreakpointGlyph

/-- Output is put behind other output in any grouping. -/
theorem GlyphOutput.append_assoc (first second third : GlyphOutput) :
    (first.append second).append third = first.append (second.append third) := by
  simp [GlyphOutput.append]

/-- Putting output behind nothing leaves it alone. -/
@[simp] theorem GlyphOutput.empty_append (output : GlyphOutput) :
    ({} : GlyphOutput).append output = output := by
  simp [GlyphOutput.append]

/-- Putting nothing behind output leaves it alone. -/
@[simp] theorem GlyphOutput.append_empty (output : GlyphOutput) :
    output.append {} = output := by
  simp [GlyphOutput.append]

/-- An event behind two outputs is an event behind the second. -/
theorem GlyphOutput.append_log (earlier later : GlyphOutput) (event : GlyphEvent) :
    (earlier.append later).log event = earlier.append (later.log event) := by
  -- Either way the event comes last.
  simp [GlyphOutput.append, GlyphOutput.log]

section

variable {location : BreakpointLocation} {view : TextView} {position : CursorPosition}

/-- A formatter that writes the same behind whatever output there is. -/
def GlyphFormatter.Appends (location : BreakpointLocation) (view : TextView)
    (position : CursorPosition) (formatter : GlyphFormatter) : Prop :=
  ∀ earlier, formatter.write location view position earlier =
    ⟨formatter.handles location view position,
      earlier.append (formatter.describe location view position).output⟩

/-- A search finds the same formatter behind whatever output there is, and writes the same there. -/
theorem searchFormatters_append {formatters : List GlyphFormatter}
    (appends : ∀ formatter ∈ formatters, formatter.Appends location view position)
    (earlier : GlyphOutput) :
    searchFormatters location view position formatters earlier =
      ⟨(searchFormatters location view position formatters {}).index?,
        earlier.append (searchFormatters location view position formatters {}).output⟩ := by
  -- Each formatter finds other output than those before it, so that output stays quantified over.
  induction formatters generalizing earlier with
  | nil => simp [searchFormatters]
  | cons formatter rest ih =>
    have first := appends formatter (by simp)
    have others := ih fun other member => appends other (by simp [member])
    rw [searchFormatters, searchFormatters, first earlier, first {}]
    by_cases handled : formatter.handles location view position = true
    · simp [handled]
    · -- Both searches go on behind what the formatter wrote in spite of declining.
      simp only [handled, GlyphOutput.empty_append]
      rw [others (earlier.append _), others (formatter.describe location view position).output]
      simp [SearchOutcome.behindOne, GlyphOutput.append_assoc]

/-- Every formatter writes the same behind whatever output there is. -/
theorem GlyphFormatter.appends (formatter : GlyphFormatter) :
    formatter.Appends location view position := by
  induction formatter using GlyphFormatter.induct with
  | native service labels =>
    intro earlier
    -- Only one kind of location is described, and nothing is written about the others.
    cases location <;> simp [handles, describe, write]
  | custom answer =>
    intro earlier
    simp [handles, describe, write]
  | registry formatters ih =>
    intro earlier
    -- The search writes the same, and the event of the registry comes behind it.
    have searched := searchFormatters_append ih earlier
    simp only [handles, describe, write, searched]
    simp [SearchOutcome.close, SearchOutcome.closingEvent, GlyphOutput.append_log]

/-- A search is successful if one of its formatters handles the location. -/
theorem searchFormatters_isSome (formatters : List GlyphFormatter) (earlier : GlyphOutput) :
    (searchFormatters location view position formatters earlier).index?.isSome =
      formatters.any (·.handles location view position) := by
  induction formatters generalizing earlier with
  | nil => rfl
  | cons formatter rest ih =>
    rw [searchFormatters, formatter.appends earlier, List.any_cons]
    -- The search ends with the first formatter, or it is the one among the others.
    by_cases handled : formatter.handles location view position = true
    · simp [handled]
    · simp [handled, SearchOutcome.behindOne, ih]

/-- A registry handles a location if one of its formatters does. -/
theorem handles_registry (formatters : List GlyphFormatter) :
    (GlyphFormatter.registry formatters).handles location view position =
      formatters.any (·.handles location view position) :=
  searchFormatters_isSome formatters {}

/-- A tree handles a location if one of its leaves does. -/
theorem GlyphFormatter.handles_eq (formatter : GlyphFormatter) :
    formatter.handles location view position =
      formatter.leaves.any (·.handles location view position) := by
  induction formatter using GlyphFormatter.induct with
  | native service labels => simp [leaves]
  | custom answer => simp [leaves]
  | registry formatters ih =>
    rw [handles_registry, leaves, leavesOf_eq, List.any_flatMap]
    -- Each formatter of the registry may be replaced by its leaves.
    rw [Bool.eq_iff_iff, List.any_eq_true, List.any_eq_true]
    constructor <;> rintro ⟨formatter, member, handled⟩ <;> refine ⟨formatter, member, ?_⟩
    · rwa [← ih formatter member]
    · rwa [ih formatter member]

/-- If the first formatter handles a location, its segments are the first ones. -/
theorem firstSegments_cons (formatter : GlyphFormatter) (rest : List GlyphFormatter) :
    firstSegments location view position (formatter :: rest) =
      if formatter.handles location view position then formatter.segments location view position
      else firstSegments location view position rest := by
  -- Otherwise the first leaf to be found is among the others.
  rw [firstSegments, List.find?_cons]
  by_cases handled : formatter.handles location view position = true
  · simp [handled]
  · simp [handled, firstSegments]

/-- The first segments are those of the front if it handles the location, else those of the back. -/
theorem firstSegments_append (front back : List GlyphFormatter) :
    firstSegments location view position (front ++ back) =
      if front.any (·.handles location view position) then
        firstSegments location view position front
      else firstSegments location view position back := by
  induction front with
  | nil => simp
  | cons formatter rest ih =>
    rw [List.cons_append, firstSegments_cons, firstSegments_cons, ih, List.any_cons]
    -- If the first formatter handles the location, the front does, and nothing behind it counts.
    by_cases handled : formatter.handles location view position = true <;> simp [handled]

/-- Where nothing handles a location there are no first segments. -/
theorem firstSegments_eq_nil {formatters : List GlyphFormatter}
    (declined : formatters.any (·.handles location view position) = false) :
    firstSegments location view position formatters = [] := by
  have missing : formatters.find? (·.handles location view position) = none := by
    simpa [List.find?_eq_none] using declined
  rw [firstSegments, missing]

/-- A search writes the segments of the first formatter that handles the location, and no more. -/
theorem searchFormatters_segments {formatters : List GlyphFormatter}
    (silent : ∀ formatter ∈ formatters, formatter.DeclinesSilently location view position)
    (earlier : GlyphOutput) :
    (searchFormatters location view position formatters earlier).output.segments =
      earlier.segments ++ firstSegments location view position formatters := by
  induction formatters generalizing earlier with
  | nil => simp [searchFormatters, firstSegments]
  | cons formatter rest ih =>
    have others := ih fun other member => silent other (by simp [member])
    rw [searchFormatters, formatter.appends earlier, firstSegments_cons]
    by_cases handled : formatter.handles location view position = true
    · -- No other formatter is asked.
      simp [handled, GlyphOutput.append, GlyphFormatter.segments]
    · -- The formatter has put nothing in front of what the others write.
      have nothing : (formatter.describe location view position).output.segments = [] :=
        silent formatter (by simp) (by simpa using handled)
      simp [handled, SearchOutcome.behindOne, others, GlyphOutput.append, nothing]

/-- Formatters of native locations decline silently. -/
theorem declinesSilently_native (service : DecompilerService) (labels : GlyphLabels) :
    (GlyphFormatter.native service labels).DeclinesSilently location view position := by
  intro declined
  cases location with
  | native nativeLocation =>
    -- A native location is not declined.
    simp [GlyphFormatter.handles, GlyphFormatter.describe, GlyphFormatter.write] at declined
  | _ => rfl

/-- A single leaf that declines silently writes its segments if it handles the location. -/
theorem segments_leaf {leaf : GlyphFormatter}
    (silent : leaf.DeclinesSilently location view position) :
    leaf.segments location view position = firstSegments location view position [leaf] := by
  -- If it declines, there is no other leaf, and its own silence gives no segments either.
  rw [firstSegments_cons]
  split
  · rfl
  · rename_i declined
    rw [silent (by simpa using declined), firstSegments_eq_nil (by simp)]

/-- The first segments of some trees are those of their leaves, if they are so for each tree. -/
theorem firstSegments_leaves {formatters : List GlyphFormatter}
    (flat : ∀ formatter ∈ formatters, formatter.segments location view position =
      firstSegments location view position formatter.leaves) :
    firstSegments location view position formatters =
      firstSegments location view position (formatters.flatMap GlyphFormatter.leaves) := by
  induction formatters with
  | nil => rfl
  | cons formatter rest ih =>
    have others := ih fun other member => flat other (by simp [member])
    -- The tree handles the location exactly if the search among its own leaves is successful.
    rw [List.flatMap_cons, firstSegments_cons, firstSegments_append, ← formatter.handles_eq,
      flat formatter (by simp), others]

/-- A tree writes the segments of the first of its leaves that handles the location. -/
theorem GlyphFormatter.segments_eq {formatter : GlyphFormatter}
    (silent : ∀ leaf ∈ formatter.leaves, leaf.DeclinesSilently location view position) :
    formatter.segments location view position =
      firstSegments location view position formatter.leaves := by
  induction formatter using GlyphFormatter.induct with
  | native service labels => exact segments_leaf (silent _ (by simp [leaves]))
  | custom answer => exact segments_leaf (silent _ (by simp [leaves]))
  | registry formatters ih =>
    rw [leaves, leavesOf_eq] at silent ⊢
    -- The leaves of each formatter are among those of the registry.
    have flat : ∀ formatter ∈ formatters, formatter.segments location view position =
        firstSegments location view position formatter.leaves :=
      fun formatter member => ih formatter member fun leaf below =>
        silent leaf (List.mem_flatMap.mpr ⟨formatter, member, below⟩)
    -- A formatter that declines has no leaf that handles the location, hence no segments.
    have quiet : ∀ formatter ∈ formatters, formatter.DeclinesSilently location view position := by
      intro formatter member declined
      rw [flat formatter member, firstSegments_eq_nil]
      rwa [← formatter.handles_eq]
    rw [← firstSegments_leaves flat]
    have searched := searchFormatters_segments quiet {}
    simpa [segments, describe, write, SearchOutcome.close, GlyphOutput.log] using searched

/-- No leaf of a tree is a registry. -/
theorem GlyphFormatter.registry_not_mem_leaves (formatter : GlyphFormatter)
    (formatters : List GlyphFormatter) : .registry formatters ∉ formatter.leaves := by
  induction formatter using GlyphFormatter.induct with
  | native service labels => simp [leaves]
  | custom answer => simp [leaves]
  | registry members ih =>
    -- Its leaves are those of its formatters, not the formatters themselves.
    rw [leaves, leavesOf_eq, List.mem_flatMap]
    rintro ⟨member, inside, below⟩
    exact ih member inside below

/-- No leaf of a tree writes about a location that it declines, if no custom one does. -/
theorem GlyphFormatter.SilentLeaves.declines {formatter : GlyphFormatter}
    (silent : formatter.SilentLeaves location view position) :
    ∀ leaf ∈ formatter.leaves, leaf.DeclinesSilently location view position := by
  -- Native formatters keep silent by themselves, and a registry is no leaf.
  intro leaf member
  cases leaf with
  | native service labels => exact declinesSilently_native service labels
  | custom answer => exact silent answer member
  | registry formatters => exact absurd member (formatter.registry_not_mem_leaves formatters)

/-- What a tree writes behind earlier segments are the first segments of its leaves. -/
theorem write_segments {formatter : GlyphFormatter}
    (silent : formatter.SilentLeaves location view position) (earlier : GlyphOutput) :
    (formatter.write location view position earlier).output.segments =
      earlier.segments ++ firstSegments location view position formatter.leaves := by
  -- Whatever is there already stays in front.
  rw [formatter.appends earlier, ← GlyphFormatter.segments_eq silent.declines]
  rfl

/-- Leaves behind one that handles the location make no difference. -/
theorem firstSegments_stop {leaf : GlyphFormatter} (front later : List GlyphFormatter)
    (handled : leaf.handles location view position = true) :
    firstSegments location view position (front ++ leaf :: later) =
      firstSegments location view position (front ++ [leaf]) := by
  -- The search ends in the front or at the leaf, and does so on both sides.
  simp only [firstSegments_append, firstSegments_cons, handled, if_true]

/-- A tree of formatters does what a search of its leaves does: it handles a location if a leaf
does, and adds the segments of the first such leaf to those already there. Trees whose leaves agree
up to one that handles the location are alike, so neither the registries that the leaves are in nor
formatters registered behind such a leaf matter. -/
theorem GlyphFormatter.write_leaves {formatter : GlyphFormatter}
    (silent : formatter.SilentLeaves location view position) (earlier : GlyphOutput) :
    ((formatter.write location view position earlier).handled = true ↔
        ∃ leaf ∈ formatter.leaves, leaf.handles location view position = true) ∧
      (formatter.write location view position earlier).output.segments =
        earlier.segments ++ firstSegments location view position formatter.leaves ∧
      ((formatter.write location view position earlier).handled = false →
        (formatter.write location view position earlier).output.segments = earlier.segments) ∧
      (∀ other : GlyphFormatter, other.leaves = formatter.leaves →
        (other.write location view position earlier).ReadsLike
          (formatter.write location view position earlier)) ∧
      ∀ (other : GlyphFormatter) (front later others : List GlyphFormatter) (leaf : GlyphFormatter),
        leaf.handles location view position = true → formatter.leaves = front ++ leaf :: later →
        other.leaves = front ++ leaf :: others → other.SilentLeaves location view position →
        (other.write location view position earlier).ReadsLike
          (formatter.write location view position earlier) := by
  -- Like the segments, the result depends on the leaves alone.
  have handled : ∀ tree : GlyphFormatter, (tree.write location view position earlier).handled =
      tree.leaves.any (·.handles location view position) := by
    intro tree
    rw [tree.appends earlier, ← tree.handles_eq]
  refine ⟨?_, write_segments silent earlier, ?_, ?_, ?_⟩
  · rw [handled, List.any_eq_true]
  · intro declined
    rw [handled] at declined
    rw [write_segments silent, firstSegments_eq_nil declined, List.append_nil]
  · intro other same
    have quiet : other.SilentLeaves location view position := fun answer member =>
      silent answer (same ▸ member)
    constructor
    · rw [handled, handled, same]
    · rw [write_segments quiet, write_segments silent, same]
  · intro other front later others leaf stop shape shape' quiet
    constructor
    · simp [handled, shape, shape', stop]
    · rw [write_segments quiet, write_segments silent, shape, shape',
        firstSegments_stop front later stop, firstSegments_stop front others stop]

end

/-- A formatter that handles bare addresses only. -/
def addressFormatter : GlyphFormatter :=
  .custom fun location _ _ =>
    match location with
    | .address address => ⟨true, { segments := [⟨.number, address.text⟩] }⟩
    | _ => ⟨false, {}⟩

/-- The formatter of addresses in a registry of its own, behind one that declines addresses. -/
def nestedFormatters : GlyphFormatter :=
  .registry [.native {} {}, .registry [], .registry [addressFormatter]]

/-- The nested formatter of addresses handles one, and no other formatter writes anything. -/
theorem write_leaves_nested :
    nestedFormatters.SilentLeaves (.address ⟨4096⟩) .plain ⟨0, 0⟩ ∧
      (nestedFormatters.write (.address ⟨4096⟩) .plain ⟨0, 0⟩ ⟨[.space], [], []⟩).handled = true ∧
      (nestedFormatters.write (.address ⟨4096⟩) .plain ⟨0, 0⟩ ⟨[.space], [], []⟩).output.segments =
        [.space, ⟨.number, "0x00001000"⟩] := by
  have listed : nestedFormatters.leaves = [.native {} {}, addressFormatter] := rfl
  have stops : addressFormatter.handles (.address ⟨4096⟩) .plain ⟨0, 0⟩ = true := rfl
  -- The only formatter that a host supplies does not decline.
  have silent : nestedFormatters.SilentLeaves (.address ⟨4096⟩) .plain ⟨0, 0⟩ := by
    intro answer member declined
    rw [listed] at member
    have same : GlyphFormatter.custom answer = addressFormatter := by simpa using member
    rw [same, stops] at declined
    exact absurd declined (by decide)
  obtain ⟨handled, written, _⟩ := GlyphFormatter.write_leaves silent ⟨[.space], [], []⟩
  refine ⟨silent, handled.mpr ⟨addressFormatter, by simp [listed], stops⟩, written.trans ?_⟩
  rw [listed]
  rfl

end BreakpointGlyph
