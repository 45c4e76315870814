import BreakpointGlyph.Text.Blank

/-! Full type names are cut into an element name, generic arguments and a suffix. -/

namespace BreakpointGlyph

/-- The characters that end the element name of a type. -/
def endsElement (c : Char) : Bool :=
  c == '<' || c == '[' || c == '*' || c == '&'

/-- Cuts a text at the `>` that closes a list, `depth` further lists being open inside it. -/
def cutAtClose (depth : Nat) : List Char → Option (List Char × List Char)
  | [] => none
  | '<' :: rest => (cutAtClose (depth + 1) rest).map fun (inside, after) => ('<' :: inside, after)
  | '>' :: rest =>
    match depth with
    | 0 => some ([], rest)
    | depth + 1 => (cutAtClose depth rest).map fun (inside, after) => ('>' :: inside, after)
  | c :: rest => (cutAtClose depth rest).map fun (inside, after) => (c :: inside, after)

/-- A type name in parts: the arguments are the text between the brackets of the list. -/
structure TypeNameParts where
  element : List Char
  arguments : Option (List Char)
  suffix : List Char
deriving DecidableEq, Repr

/-- The parts of a type name put together again. -/
def TypeNameParts.text (parts : TypeNameParts) : List Char :=
  let list :=
    match parts.arguments with
    | some inside => '<' :: inside ++ ['>']
    | none => []
  parts.element ++ list ++ parts.suffix

/-- Cuts a type name; a name whose argument list is never closed is all element. -/
def splitTypeName (name : List Char) : TypeNameParts :=
  let element := name.takeWhile fun c => !endsElement c
  match name.dropWhile fun c => !endsElement c with
  | '<' :: rest =>
    match cutAtClose 0 rest with
    | some (inside, after) => ⟨element, some inside, after⟩
    | none => ⟨name, none, []⟩
  | suffix => ⟨element, none, suffix⟩

/-- A list of arguments is never closed if, read from its start, it has never had more closing
brackets in it than opening ones. -/
def NeverClosed (text : List Char) : Prop :=
  ∀ front, front <+: text → front.count '>' ≤ front.count '<'

/-- A name whose element name is followed by a list of arguments that is never closed. -/
def UnclosedName (name : List Char) : Prop :=
  ∃ element rest, name = element ++ '<' :: rest ∧ (∀ c ∈ element, endsElement c = false) ∧
    NeverClosed rest

/-- The number of open brackets after a character; a closing bracket too many is ignored. -/
def bracketDepth (depth : Nat) (c : Char) : Nat :=
  if c = '<' ∨ c = '[' then depth + 1
  else if c = '>' ∨ c = ']' then depth - 1
  else depth

/-- Cuts a text at the commas that no bracket encloses, `depth` brackets being open before it. -/
def splitAtCommas (depth : Nat) : List Char → List (List Char)
  | [] => [[]]
  | c :: rest =>
    if c = ',' ∧ depth = 0 then [] :: splitAtCommas depth rest
    else (splitAtCommas (bracketDepth depth c) rest).modifyHead (c :: ·)

/-- The generic arguments of a list, each trimmed, without those that are blank. -/
def genericArguments (list : List Char) : List (List Char) :=
  ((splitAtCommas 0 list).map trim).filter (· ≠ [])

/-- The name without the arity that metadata writes after a backquote. -/
def stripArity (name : List Char) : List Char :=
  name.takeWhile (· != '\x60')

/-- The search for a closing bracket, a character at a time: it stops at the bracket that closes
nothing in between, and passes over everything else. -/
theorem cutAtClose_cons (depth : Nat) (c : Char) (rest : List Char) :
    cutAtClose depth (c :: rest) =
      if c = '>' ∧ depth = 0 then some ([], rest)
      else
        let level := if c = '<' then depth + 1 else if c = '>' then depth - 1 else depth
        (cutAtClose level rest).map (Prod.map (c :: ·) id) := by
  -- Only a closing bracket makes a difference between the lists that are open around it.
  by_cases opens : c = '<'
  · subst opens
    rfl
  · by_cases closes : c = '>'
    · subst closes
      cases depth <;> rfl
    · simp only [cutAtClose, opens, closes, if_false, false_and]
      rfl

/-- Nothing is lost by a cut at a closing bracket but that bracket. -/
theorem eq_of_cutAtClose {depth : Nat} {text inside after : List Char}
    (cut : cutAtClose depth text = some (inside, after)) : text = inside ++ '>' :: after := by
  induction text generalizing depth inside with
  | nil => simp [cutAtClose] at cut
  | cons c rest ih =>
    rw [cutAtClose_cons] at cut
    split at cut
    · simp_all
    · -- A character in front of a cut belongs to the inside, whatever it does to the depth.
      obtain ⟨⟨front, back⟩, inner, shape⟩ := Option.map_eq_some_iff.mp cut
      simp only [Prod.map_apply, id_eq, Prod.mk.injEq] at shape
      obtain ⟨rfl, rfl⟩ := shape
      rw [ih inner, List.cons_append]

/-- The parts of a name make up the name. -/
theorem splitTypeName_text (name : List Char) : (splitTypeName name).text = name := by
  have whole := List.takeWhile_append_dropWhile (p := fun c => !endsElement c) (l := name)
  -- Only where a list is opened and closed is anything cut off, and the brackets are put back.
  unfold splitTypeName
  split
  · rename_i rest opened
    split
    · rename_i inside after cut
      rw [opened, eq_of_cutAtClose cut] at whole
      simpa [TypeNameParts.text] using whole
    · simp [TypeNameParts.text]
  · simp [TypeNameParts.text]

/-- The list of a name is a stretch of the name, with its brackets. -/
theorem infix_of_splitTypeName {name inside : List Char}
    (cut : (splitTypeName name).arguments = some inside) : '<' :: inside ++ ['>'] <:+: name := by
  have whole := splitTypeName_text name
  simp only [TypeNameParts.text, cut] at whole
  exact ⟨_, _, whole⟩

/-- The argument text of a type name is shorter than the name. -/
theorem length_of_splitTypeName {name inside : List Char}
    (cut : (splitTypeName name).arguments = some inside) : inside.length < name.length := by
  -- The name has the brackets of its list as well.
  have bracketed := (infix_of_splitTypeName cut).length_le
  simp only [List.length_append, List.length_cons] at bracketed
  omega

/-- No part between commas is longer than the whole. -/
theorem length_of_mem_splitAtCommas {depth : Nat} {text part : List Char}
    (member : part ∈ splitAtCommas depth text) : part.length ≤ text.length := by
  -- Each character is added to one part at most.
  induction text generalizing depth part with
  | nil => simp_all [splitAtCommas]
  | cons c rest ih =>
    simp only [splitAtCommas] at member
    simp only [List.length_cons]
    split at member
    · rcases List.mem_cons.mp member with rfl | member
      · simp
      · exact Nat.le_succ_of_le (ih member)
    · cases parts : splitAtCommas (bracketDepth depth c) rest with
      | nil => simp [parts] at member
      | cons head tail =>
        have bounded : ∀ item ∈ head :: tail, item.length ≤ rest.length :=
          fun item inside => ih (parts.symm ▸ inside)
        simp only [parts, List.modifyHead_cons, List.mem_cons] at member
        rcases member with rfl | member
        · exact Nat.succ_le_succ (bounded head (by simp))
        · exact Nat.le_succ_of_le (bounded part (by simp [member]))

/-- A generic argument is no longer than the list it stands in. -/
theorem length_of_mem_genericArguments {list argument : List Char}
    (member : argument ∈ genericArguments list) : argument.length ≤ list.length := by
  -- Trimming a part between commas does not lengthen it.
  obtain ⟨part, inside, rfl⟩ := List.mem_map.mp (List.mem_filter.mp member).1
  exact Nat.le_trans (length_trim_le part) (length_of_mem_splitAtCommas inside)

/-- What holds of a type name as soon as it holds of its arguments holds of every type name. -/
@[elab_as_elim] theorem typeName_induct {motive : List Char → Prop}
    (step : ∀ name, (∀ inside, (splitTypeName (trim name)).arguments = some inside →
      ∀ argument ∈ genericArguments inside, motive argument) → motive name)
    (name : List Char) : motive name := by
  -- An argument stands between the brackets of the trimmed name, so it is shorter.
  induction name using WellFounded.induction (measure List.length).wf with
  | _ name ih =>
    refine step name fun inside cut argument member => ih argument ?_
    calc argument.length
      _ ≤ inside.length := length_of_mem_genericArguments member
      _ < (trim name).length := length_of_splitTypeName cut
      _ ≤ name.length := length_trim_le name

end BreakpointGlyph
