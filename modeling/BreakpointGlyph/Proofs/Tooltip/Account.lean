import BreakpointGlyph.Proofs.Tooltip.Call
import BreakpointGlyph.Proofs.Tooltip.Formatter
import BreakpointGlyph.Tooltip.Account

/-! Lookups, traces and segments agree: what comes of a tree is put out by the leaves it asked. -/

namespace BreakpointGlyph

/-! Traces -/

/-- Of two outputs one behind the other the traces are left in order. -/
theorem GlyphOutput.traced_append (earlier later : GlyphOutput) :
    (earlier.append later).traced = earlier.traced.append later.traced := by
  simp [GlyphOutput.append, traced]

/-- The event with which a registry closes its search is no trace. -/
theorem SearchOutcome.traced_close (size : Nat) (search : SearchOutcome) :
    (search.close size).output.traced = search.output.traced := by
  have quiet : (search.closingEvent size).isTrace = false := by
    -- It is one of two events, and both are on the level above.
    unfold closingEvent
    split <;> rfl
  simp [close, GlyphOutput.log, GlyphOutput.traced, quiet]

/-- One more output in front of several. -/
@[simp] theorem GlyphOutput.concat_cons (output : GlyphOutput) (rest : List GlyphOutput) :
    concat (output :: rest) = output.append (concat rest) :=
  rfl

/-- No outputs at all are nothing. -/
@[simp] theorem GlyphOutput.concat_nil : concat [] = {} :=
  rfl

/-- Outputs may be put together in two steps. -/
theorem GlyphOutput.concat_append (front back : List GlyphOutput) :
    concat (front ++ back) = (concat front).append (concat back) := by
  induction front with
  | nil => simp
  | cons output rest ih => simp [ih, append_assoc]

/-- Several outputs ask nothing if none of them does. -/
theorem GlyphOutput.queries_concat {outputs : List GlyphOutput}
    (quiet : ∀ output ∈ outputs, output.queries = []) : (concat outputs).queries = [] := by
  induction outputs with
  | nil => rfl
  | cons output rest ih =>
    have others := ih fun other member => quiet other (by simp [member])
    simp [append, quiet output (by simp), others]

/-! Asking the leaves of a tree -/

section

variable {location : BreakpointLocation} {view : TextView} {position : CursorPosition}

/-- The first leaf is asked, and if it declines so are others. -/
theorem askedAmong_cons (leaf : GlyphFormatter) (rest : List GlyphFormatter) :
    askedAmong location view position (leaf :: rest) =
      if leaf.handles location view position then [leaf]
      else leaf :: askedAmong location view position rest := by
  by_cases handled : leaf.handles location view position = true <;> simp [askedAmong, handled]

/-- A single leaf is always asked. -/
@[simp] theorem askedAmong_singleton (leaf : GlyphFormatter) :
    askedAmong location view position [leaf] = [leaf] := by
  rw [askedAmong_cons]
  split <;> rfl

/-- If the front handles a location the back is not asked, and otherwise all of the front is. -/
theorem askedAmong_append (front back : List GlyphFormatter) :
    askedAmong location view position (front ++ back) =
      if front.any (·.handles location view position) then askedAmong location view position front
      else front ++ askedAmong location view position back := by
  induction front with
  | nil => simp
  | cons leaf rest ih =>
    rw [List.cons_append, askedAmong_cons, askedAmong_cons, ih, List.any_cons]
    by_cases handled : leaf.handles location view position = true
    · simp [handled]
    · -- The first leaf is asked in both cases, and the rest of the front decides between them.
      cases rest.any (·.handles location view position) <;> simp [handled]

/-- If nothing handles a location everything is asked. -/
theorem askedAmong_eq_self {leaves : List GlyphFormatter}
    (declined : leaves.any (·.handles location view position) = false) :
    askedAmong location view position leaves = leaves := by
  have whole : askedAmong location view position (leaves ++ []) = _ := askedAmong_append leaves []
  simpa [declined, askedAmong] using whole

/-- What a search puts out is put out by leaves, if that is so for each of the formatters. -/
theorem traced_searchFormatters {formatters : List GlyphFormatter}
    (fromLeaves : ∀ formatter ∈ formatters, formatter.tracedOutput location view position =
      .concat ((askedAmong location view position formatter.leaves).map
        (·.tracedOutput location view position))) :
    (searchFormatters location view position formatters {}).output.traced =
      .concat ((askedAmong location view position (formatters.flatMap GlyphFormatter.leaves)).map
        (·.tracedOutput location view position)) := by
  induction formatters with
  | nil => rfl
  | cons formatter rest ih =>
    have first := fromLeaves formatter (by simp)
    have others := ih fun other member => fromLeaves other (by simp [member])
    have behind : searchFormatters location view position rest
        (formatter.describe location view position).output = _ :=
      searchFormatters_append (fun other _ => other.appends) _
    rw [List.flatMap_cons, askedAmong_append, ← formatter.handles_eq, searchFormatters,
      formatter.appends {}]
    cases handled : formatter.handles location view position with
    | true =>
      -- The search ends here, and no leaf of the others is asked.
      simpa [GlyphFormatter.tracedOutput] using first
    | false =>
      -- All leaves of this formatter have been asked, and the search goes on behind their output.
      rw [askedAmong_eq_self (by rw [← formatter.handles_eq, handled]),
        GlyphFormatter.tracedOutput] at first
      simp [SearchOutcome.behindOne, behind, GlyphOutput.traced_append, first, others,
        GlyphOutput.concat_append]

/-- What a tree puts out is put out by leaves that are asked, but for the events of registries. -/
theorem GlyphFormatter.tracedOutput_eq (formatter : GlyphFormatter) :
    formatter.tracedOutput location view position =
      .concat ((askedAmong location view position formatter.leaves).map
        (·.tracedOutput location view position)) := by
  induction formatter using GlyphFormatter.induct with
  | native service labels => simp [leaves]
  | custom answer => simp [leaves]
  | registry formatters ih =>
    rw [leaves, leavesOf_eq, ← traced_searchFormatters ih]
    -- Only the closing event comes behind the search.
    exact SearchOutcome.traced_close formatters.length _

/-- The output of a tree is what its decliners have put out, and then what its handler does. -/
theorem GlyphFormatter.tracedOutput_handler (formatter : GlyphFormatter) :
    formatter.tracedOutput location view position =
      (formatter.declined location view position).append
        (.concat ((formatter.handler? location view position).toList.map
          (·.tracedOutput location view position))) := by
  rw [tracedOutput_eq, askedAmong, List.map_append, GlyphOutput.concat_append]
  rfl

/-! Lookups -/

/-- A formatter of native locations handles these and no others. -/
theorem handles_native {service : DecompilerService} {labels : GlyphLabels} :
    (GlyphFormatter.native service labels).handles location view position = true ↔
      ∃ native, location = .native native := by
  cases location <;> simp [GlyphFormatter.handles, GlyphFormatter.describe, GlyphFormatter.write]

/-- A leaf that declines a location looks nothing up, if no custom leaf does. -/
theorem GlyphFormatter.LookupFree.declines {formatter leaf : GlyphFormatter}
    (lookupFree : formatter.LookupFree location view position) (member : leaf ∈ formatter.leaves)
    (declined : leaf.handles location view position = false) :
    (leaf.tracedOutput location view position).queries = [] := by
  cases leaf with
  | native service labels =>
    -- The location is of another kind, about which nothing is put out.
    cases location with
    | native native => simp [handles, describe, write] at declined
    | il | address => rfl
  | custom answer =>
    simpa [tracedOutput, describe, write, GlyphOutput.traced] using lookupFree answer member
  | registry formatters => exact absurd member (formatter.registry_not_mem_leaves formatters)

/-- Before a location is handled nothing is looked up, if no custom leaf looks anything up. -/
theorem GlyphFormatter.LookupFree.declined {formatter : GlyphFormatter}
    (lookupFree : formatter.LookupFree location view position) :
    (formatter.declined location view position).queries = [] := by
  apply GlyphOutput.queries_concat
  intro output member
  obtain ⟨leaf, asked, rfl⟩ := List.mem_map.mp member
  have declined := List.all_eq_true.mp List.all_takeWhile leaf asked
  exact lookupFree.declines ((List.takeWhile_prefix _).mem asked) (by simpa using declined)

/-- A handler is a leaf of its tree, and handles the location. -/
theorem GlyphFormatter.handler?_eq_some {formatter leaf : GlyphFormatter}
    (found : formatter.handler? location view position = some leaf) :
    leaf ∈ formatter.leaves ∧ leaf.handles location view position = true :=
  ⟨List.mem_of_find?_eq_some found, List.find?_some (p := fun other : GlyphFormatter =>
    other.handles location view position) found⟩

/-- The decompiler that is chosen is that of the tab, and it is said to be where there is one. -/
theorem selectDecompiler_eq (tab : Option Decompiler) (service : DecompilerService) :
    (selectDecompiler tab service).1 = tab.getD service.defaultDecompiler ∧
      ((selectDecompiler tab service).2 = .tab ↔ tab ≠ none) := by
  cases tab <;> simp [selectDecompiler]

/-- The part about a method logs a single event, a trace that agrees with all else of it. -/
theorem nativeMethodPart_account (service : DecompilerService) (native : NativeLocation)
    (view : TextView) :
    ∃ trace, (nativeMethodPart service native view).events = [trace] ∧ trace.isTrace = true ∧
      NativeAccount service native view (nativeMethodPart service native view).queries trace
        (nativeMethodPart service native view).segments := by
  obtain ⟨viewer⟩ := view
  cases viewer with
  | none =>
    refine ⟨.noViewer, rfl, rfl, ?_⟩
    constructor <;> simp [nativeMethodPart, TextView.statement?, GlyphEvent.record]
  | some viewer =>
    cases found : viewer.find? native.methodId native.ilOffset with
    | none =>
      refine ⟨.noStatement native.methodId native.ilOffset, ?_, rfl, ?_⟩
      · simp [nativeMethodPart, found]
      · constructor <;> simp [nativeMethodPart, TextView.statement?, found, GlyphEvent.record]
    | some statement =>
      let chosen := selectDecompiler viewer.decompiler service
      obtain ⟨decompiler, source⟩ := selectDecompiler_eq viewer.decompiler service
      refine ⟨.writingMethod chosen.1.name chosen.2, ?_, rfl, ?_⟩
      · simp [nativeMethodPart, found, chosen]
      · constructor
        case quoted =>
          -- There is no other statement, and what is written is written by the one chosen.
          intro other same
          obtain rfl : statement = other := by simpa [TextView.statement?, found] using same
          refine ⟨chosen.1, chosen.2, rfl, decompiler, source, ?_⟩
          simp [nativeMethodPart, found, quotedMethod, chosen]
        all_goals simp [nativeMethodPart, TextView.statement?, found, GlyphEvent.record]

/-- A native formatter puts a heading and a quotation behind it, asks a viewer if there is one, and
logs a single event, which agrees with both. -/
theorem native_account (view : TextView) (position : CursorPosition) (service : DecompilerService)
    (labels : GlyphLabels) (native : NativeLocation) :
    ∃ queries trace quotation,
      ((GlyphFormatter.native service labels).describe (.native native) view position).output =
          ⟨nativeHeading labels native position ++ quotation, queries, [trace]⟩ ∧
        trace.isTrace = true ∧ NativeAccount service native view queries trace quotation := by
  obtain ⟨trace, logged, talkative, account⟩ := nativeMethodPart_account service native view
  refine ⟨_, trace, _, ?_, talkative, account⟩
  simp [GlyphFormatter.describe, GlyphFormatter.write, nativeOutput, logged]

/-- Nothing is looked up by a tree whose handler is no native formatter, if it looks nothing up. -/
theorem GlyphFormatter.LookupFree.handler {formatter : GlyphFormatter}
    (lookupFree : formatter.LookupFree location view position)
    (other : ∀ service labels,
      formatter.handler? location view position ≠ some (.native service labels)) :
    (GlyphOutput.concat ((formatter.handler? location view position).toList.map
      (·.tracedOutput location view position))).queries = [] := by
  cases found : formatter.handler? location view position with
  | none => rfl
  | some leaf =>
    obtain ⟨member, _⟩ := GlyphFormatter.handler?_eq_some found
    cases leaf with
    | native service labels => exact absurd found (other service labels)
    | custom answer =>
      simpa [tracedOutput, describe, write, GlyphOutput.traced] using lookupFree answer member
    | registry formatters => exact absurd member (formatter.registry_not_mem_leaves formatters)

/-- What a tree looks up is what its handler looks up. -/
theorem GlyphFormatter.LookupFree.queries {formatter : GlyphFormatter}
    (lookupFree : formatter.LookupFree location view position) :
    (formatter.describe location view position).output.queries =
      (GlyphOutput.concat ((formatter.handler? location view position).toList.map
        (·.tracedOutput location view position))).queries := by
  have parts : formatter.tracedOutput location view position = _ := formatter.tracedOutput_handler
  have whole := congrArg GlyphOutput.queries parts
  rwa [GlyphOutput.append, lookupFree.declined, List.nil_append] at whole

/-- What comes of asking a tree of formatters agrees with itself, if none looks anything up but
those for native locations. There is one lookup at most, for the place of the location, and only if
a native formatter handles it in a view with a viewer. Such a formatter logs one trace, which is the
last one, and puts its heading and its quotation behind all other segments; the trace tells whether
there was a viewer, whether it had an answer, and whose words are quoted. -/
theorem GlyphFormatter.lookups_and_traces_agree {formatter : GlyphFormatter}
    (lookupFree : formatter.LookupFree location view position) (earlier : GlyphOutput) :
    ∃ added : GlyphOutput,
      formatter.write location view position earlier =
          ⟨formatter.handles location view position, earlier.append added⟩ ∧
        added.queries.length ≤ 1 ∧
        (∀ query ∈ added.queries, view.viewer ≠ none ∧ ∃ service labels native,
          formatter.handler? location view position = some (.native service labels) ∧
            location = .native native ∧
            query = ⟨⟨native.module, native.token⟩, native.ilOffset⟩) ∧
        ∀ service labels,
          formatter.handler? location view position = some (.native service labels) →
            formatter.handles location view position = true ∧
              ∃ native trace quotation, location = .native native ∧
                ((GlyphFormatter.native service labels).describe location view
                  position).output.events = [trace] ∧
                added.traced = (formatter.declined location view position).append
                  ⟨nativeHeading labels native position ++ quotation, added.queries, [trace]⟩ ∧
                NativeAccount service native view added.queries trace quotation := by
  refine ⟨_, formatter.appends earlier, ?_⟩
  by_cases handled : ∃ service labels,
    formatter.handler? location view position = some (.native service labels)
  · obtain ⟨service, labels, found⟩ := handled
    obtain ⟨member, stops⟩ := handler?_eq_some found
    obtain ⟨native, rfl⟩ := handles_native.mp stops
    obtain ⟨queries, trace, quotation, output, talkative, account⟩ :=
      native_account view position service labels native
    -- All of the output but that of the decliners is that of the handler.
    have whole : formatter.tracedOutput (.native native) view position = _ :=
      formatter.tracedOutput_handler
    have asked := lookupFree.queries
    simp only [found, Option.toList_some, List.map_cons, List.map_nil, GlyphOutput.concat_cons,
      GlyphOutput.concat_nil, GlyphOutput.append_empty, tracedOutput, output,
      GlyphOutput.traced, List.filter_cons, talkative, if_true, List.filter_nil] at whole asked
    rw [asked]
    refine ⟨?_, ?_, ?_⟩
    · -- The viewer is asked once if there is one, and nobody is asked otherwise.
      by_cases viewed : view.viewer = none
      · simp [account.unasked viewed]
      · simp [account.asked viewed]
    · intro query inside
      have viewed : view.viewer ≠ none := by
        intro missing
        simp [account.unasked missing] at inside
      rw [account.asked viewed, List.mem_singleton] at inside
      exact ⟨viewed, service, labels, native, found, rfl, inside⟩
    · intro other otherLabels same
      obtain ⟨rfl, rfl⟩ : service = other ∧ labels = otherLabels := by
        simpa using found.symm.trans same
      refine ⟨?_, native, trace, quotation, rfl, by rw [output], ?_, account⟩
      · rw [formatter.handles_eq, List.any_eq_true]
        exact ⟨_, member, stops⟩
      · exact whole
  · -- No native formatter has handled the location, so nothing has been looked up.
    have other : ∀ service labels,
        formatter.handler? location view position ≠ some (.native service labels) :=
      fun service labels found => handled ⟨service, labels, found⟩
    have unasked := lookupFree.queries.trans (lookupFree.handler other)
    refine ⟨by simp [unasked], by simp [unasked], fun service labels found => ?_⟩
    exact absurd found (other service labels)

end

/-- Two formatters of native locations, the first of them in a registry behind one that declines. -/
def doubledFormatters : GlyphFormatter :=
  .registry [addressFormatter, nestedFormatters, .native {} { ilOffset := "IL \x7b0\x7d" }]

/-- The first of two native formatters asks the viewer, traces its answer and quotes it. -/
theorem lookups_and_traces_agree_doubled :
    doubledFormatters.LookupFree (.native shownCall.location) shownCall.view ⟨4, 8⟩ ∧
      doubledFormatters.handler? (.native shownCall.location) shownCall.view ⟨4, 8⟩ =
        some (.native {} {}) ∧
      ∃ added : GlyphOutput,
        doubledFormatters.write (.native shownCall.location) shownCall.view ⟨4, 8⟩
            ⟨[.space], [], []⟩ = ⟨true, GlyphOutput.append ⟨[.space], [], []⟩ added⟩ ∧
          added.queries = [⟨⟨.ofFile "App.dll", ⟨0x06000001⟩⟩, 0x2A⟩] ∧
          added.traced.events = [.writingMethod "C#" .tab] := by
  have lookupFree :
      doubledFormatters.LookupFree (.native shownCall.location) shownCall.view ⟨4, 8⟩ := by
    intro answer member
    have same : GlyphFormatter.custom answer = addressFormatter := by
      simpa [doubledFormatters, nestedFormatters, addressFormatter, GlyphFormatter.leaves]
        using member
    obtain rfl := GlyphFormatter.custom.inj same
    rfl
  have handler : doubledFormatters.handler? (.native shownCall.location) shownCall.view ⟨4, 8⟩ =
      some (.native {} {}) := rfl
  obtain ⟨added, written, _, _, agrees⟩ :=
    GlyphFormatter.lookups_and_traces_agree lookupFree ⟨[.space], [], []⟩
  obtain ⟨handled, native, trace, quotation, same, _, whole, account⟩ := agrees {} {} handler
  obtain rfl := BreakpointLocation.native.inj same
  -- The viewer knows the statement, and its document has a decompiler of its own.
  obtain ⟨decompiler, source, traced, chosen, tab, _⟩ := account.quoted _ rfl
  have declined : (doubledFormatters.declined (.native shownCall.location) shownCall.view
      ⟨4, 8⟩).events = [] := rfl
  refine ⟨lookupFree, handler, added, by rw [written, handled], account.asked (by simp [shownCall,
    TextView.decompiled]), ?_⟩
  rw [whole, GlyphOutput.append, declined, traced, chosen, tab.mpr (by simp [shownCall,
    TextView.decompiled, TextView.tabDecompiler?, StatementMap.viewer])]
  rfl

end BreakpointGlyph
