import BreakpointGlyph.CommandLine.Decoding

/-! Reading a command line word by word gives every option what the words say about it. -/

namespace BreakpointGlyph

/-! Inversion -/

/-- A mapped result is a value if the result was one. -/
theorem eq_ok_of_map {ε α β : Type} {result : Except ε α} {f : α → β} {value : β}
    (mapped : result.map f = .ok value) : ∃ inner, result = .ok inner ∧ f inner = value := by
  cases result with
  | error error => simp [Except.map] at mapped
  | ok inner => exact ⟨inner, rfl, Except.ok.inj mapped⟩

/-- Two steps give a value if the first one does, and the second one does with that. -/
theorem eq_ok_of_bind {ε α β : Type} {result : Except ε α} {next : α → Except ε β} {value : β}
    (bound : result >>= next = .ok value) :
    ∃ inner, result = .ok inner ∧ next inner = .ok value := by
  cases result with
  | error error => simp [bind, Except.bind] at bound
  | ok inner => exact ⟨inner, rfl, bound⟩

/-- An option is given once at most. -/
theorem eq_of_giveOnce {α : Type} {earlier later : Option α} {value : Except UsageError α}
    (given : giveOnce earlier value = .ok later) :
    earlier = none ∧ ∃ inner, value = .ok inner ∧ later = some inner := by
  cases earlier with
  | some before => simp [giveOnce] at given
  | none =>
    obtain ⟨inner, read, rfl⟩ := eq_ok_of_map given
    exact ⟨rfl, inner, read, rfl⟩

/-- The value of an option is read from its text. -/
theorem eq_of_optionValue {α : Type} {option : DescribeOption} {text : String}
    {read : Except GlyphError α} {value : α} (valued : optionValue option text read = .ok value) :
    read = .ok value := by
  unfold optionValue at valued
  split at valued <;> simp_all

/-- A plain number is read from its text. -/
theorem eq_of_plainNumber {option : DescribeOption} {text : String} {value : Nat}
    (valued : plainNumber option text = .ok value) : readPlainNumber text = .ok value := by
  unfold plainNumber at valued
  split at valued <;> simp_all [readPlainNumber]

/-! Giving a value -/

/-- A value that is given for the first time is the one that its text reads as. -/
theorem DecodedOnce.give {ε α : Type} {read : String → Except ε α} {texts : List String}
    {earlier later : Option α} {text : String} {value : Except UsageError α}
    (decoded : DecodedOnce read texts earlier) (given : giveOnce earlier value = .ok later)
    (valued : ∀ inner, value = .ok inner → read text = .ok inner) :
    DecodedOnce read (texts ++ [text]) later := by
  obtain ⟨rfl, inner, same, rfl⟩ := eq_of_giveOnce given
  cases decoded with
  | absent => exact .given (by simp [valued inner same, Except.map])
  | given found =>
    -- There would have been a value before.
    obtain ⟨_, _, missing⟩ := eq_ok_of_map found
    simp at missing

/-- A default is what stands for an option that has not been given. -/
theorem DecodedOnce.withDefault {ε α : Type} {read : String → Except ε α} {texts : List String}
    {value : Option α} (decoded : DecodedOnce read texts value) (default : α) :
    Decoded read default texts (value.getD default) := by
  cases decoded with
  | absent => exact .absent
  | given found =>
    obtain ⟨inner, same, rfl⟩ := eq_ok_of_map found
    exact .given same

/-- A value that has been given has a text that it was read from. -/
theorem DecodedOnce.exists_text {ε α : Type} {read : String → Except ε α} {texts : List String}
    {value : α} (decoded : DecodedOnce read texts (some value)) :
    ∃ text, texts = [text] ∧ read text = .ok value := by
  cases decoded with
  | given found =>
    obtain ⟨inner, same, written⟩ := eq_ok_of_map found
    exact ⟨_, rfl, Option.some.inj written ▸ same⟩

/-- An option without a default has a value exactly if there is a text for it. -/
theorem DecodedOnce.isSome_iff {ε α : Type} {read : String → Except ε α} {texts : List String}
    {value : Option α} (decoded : DecodedOnce read texts value) :
    value.isSome = true ↔ texts ≠ [] := by
  -- A text that is read makes a value.
  cases decoded with
  | absent => simp
  | given found =>
    obtain ⟨inner, -, rfl⟩ := eq_ok_of_map found
    simp

/-- What holds of the texts that are given, and of the default, holds of a value that stands for
itself. -/
theorem Decoded.of_texts {holds : String → Prop} {default value : String} {texts : List String}
    (decoded : Decoded readAsWritten default texts value) (given : ∀ text ∈ texts, holds text)
    (fallback : holds default) : holds value := by
  -- There is a text for it, or there is none.
  cases decoded with
  | absent => exact fallback
  | given read =>
    obtain rfl := Except.ok.inj read
    exact given _ (by simp)

/-- What holds of the texts that are given holds of a value without a default. -/
theorem DecodedOnce.of_texts {holds : String → Prop} {value : String} {texts : List String}
    (decoded : DecodedOnce readAsWritten texts (some value)) (given : ∀ text ∈ texts, holds text) :
    holds value := by
  -- There is one text for it, which is the value itself.
  obtain ⟨text, rfl, read⟩ := decoded.exists_text
  obtain rfl := Except.ok.inj read
  exact given text (by simp)

/-- A value without a default that stands for itself is the text that is given, if there is one. -/
theorem DecodedOnce.eq_head? {texts : List String} {value : Option String}
    (decoded : DecodedOnce readAsWritten texts value) : value = texts.head? := by
  -- A text that stands for itself is read as it is.
  cases decoded with
  | absent => rfl
  | given found =>
    obtain ⟨inner, read, rfl⟩ := eq_ok_of_map found
    obtain rfl := Except.ok.inj read
    rfl

/-- Giving a value to an option adds its text to those of that option, and to those of no other. -/
theorem GivenOptions.Matches.give {given later : GivenOptions} {option other : DescribeOption}
    {texts : List String} {text : String} (matched : given.Matches texts option)
    (gives : given.give other text = .ok later) :
    later.Matches (texts ++ if other = option then [text] else []) option := by
  by_cases same : other = option
  · subst same
    rw [if_pos rfl]
    cases other with
    | parameter =>
      obtain rfl := Except.ok.inj gives
      simpa [Matches] using matched
    | source =>
      obtain ⟨value, once, rfl⟩ := eq_ok_of_map gives
      refine DecodedOnce.give matched once fun inner valued => ?_
      split at valued <;> simp_all [readAsWritten]
    | module | method | declaringType | namespaceName | returnType =>
      obtain ⟨value, once, rfl⟩ := eq_ok_of_map gives
      exact DecodedOnce.give matched once fun inner valued => by simpa [readAsWritten] using valued
    | token | ilOffset | mapping | base | nativeOffset =>
      obtain ⟨value, once, rfl⟩ := eq_ok_of_map gives
      exact DecodedOnce.give matched once fun inner valued => eq_of_optionValue valued
    | line | column | offset =>
      obtain ⟨value, once, rfl⟩ := eq_ok_of_map gives
      exact DecodedOnce.give matched once fun inner valued => eq_of_plainNumber valued
  · -- Only the part of the other option is changed.
    rw [if_neg same, List.append_nil]
    cases other with
    | parameter =>
      obtain rfl := Except.ok.inj gives
      cases option <;> first | exact absurd rfl same | exact matched
    | _ =>
      obtain ⟨value, once, rfl⟩ := eq_ok_of_map gives
      cases option <;> first | exact absurd rfl same | exact matched

/-- Giving a value leaves the flag for segments alone. -/
theorem GivenOptions.segments_give {given later : GivenOptions} {option : DescribeOption}
    {text : String} (gives : given.give option text = .ok later) :
    later.segments = given.segments := by
  cases option with
  | parameter =>
    obtain rfl := Except.ok.inj gives
    rfl
  | _ =>
    obtain ⟨value, once, rfl⟩ := eq_ok_of_map gives
    rfl

/-- Asking for segments leaves the values alone, and was not done before. -/
theorem GivenOptions.eq_of_giveSegments {given later : GivenOptions}
    (gives : given.giveSegments = .ok later) :
    given.segments = false ∧ later = { given with segments := true } := by
  unfold giveSegments at gives
  split at gives
  · simp at gives
  · rename_i unset
    exact ⟨by simpa using unset, (Except.ok.inj gives).symm⟩

/-! Words -/

/-- A word stands for an option if there are two hyphens in front of its name. -/
theorem ofList_eq_option {chars : List Char} {option : DescribeOption} :
    String.ofList chars = "--" ++ option.name ↔ chars = '-' :: '-' :: option.name.toList := by
  rw [← String.toList_inj, String.toList_append, String.toList_ofList]
  rfl

/-- A word without two hyphens in front of it gives no text for any option. -/
theorem optionText?_eq_none {chars : List Char} (unmarked : ∀ tail, chars ≠ '-' :: '-' :: tail)
    (option : DescribeOption) (rest : List String) :
    optionText? option (String.ofList chars) rest = none := by
  rw [optionText?, String.toList_ofList]
  split
  · rename_i name text cut
    refine if_neg fun named => unmarked (option.name.toList ++ '=' :: text) ?_
    rw [eq_of_cutAtFirst cut, ofList_eq_option.mp named]
    rfl
  · exact if_neg fun named => unmarked _ (ofList_eq_option.mp named)

/-- A word with more than two hyphens in it is long: a name, and a text behind an equals sign. -/
theorem ofText_long {name : List Char} (nonempty : name ≠ []) :
    ArgumentWord.ofText (String.ofList ('-' :: '-' :: name)) =
      match cutAtFirst '=' name with
      | none => .long (String.ofList name) none
      | some (name, text) => .long (String.ofList name) (some (String.ofList text)) := by
  cases name with
  | nil => exact absurd rfl nonempty
  | cons first others =>
    simp only [ArgumentWord.ofText, String.toList_ofList, cutAtFirst]
    cases attached : (first :: others).dropWhile (· != '=') with
    | nil =>
      -- Without an equals sign all of the word is the name.
      simp only [takeWhile_of_passed attached]
    | cons sign text => rfl

/-- A word with fewer hyphens in front of it is not long. -/
theorem ofText_ne_long {chars : List Char} (unmarked : ∀ tail, chars ≠ '-' :: '-' :: tail)
    (name : String) (attached : Option String) :
    ArgumentWord.ofText (String.ofList chars) ≠ .long name attached := by
  rw [ArgumentWord.ofText, String.toList_ofList]
  split <;> simp_all

/-- The text that a word gives for an option is told by the shape of the word. -/
theorem optionText?_eq (option : DescribeOption) (word : String) (rest : List String) :
    optionText? option word rest =
      match ArgumentWord.ofText word with
      | .long name none => if name = option.name then rest.head? else none
      | .long name (some text) => if name = option.name then some text else none
      | _ => none := by
  obtain ⟨chars, rfl⟩ : ∃ chars, word = String.ofList chars := ⟨word.toList, by simp⟩
  by_cases marked : ∃ name, chars = '-' :: '-' :: name
  · obtain ⟨name, rfl⟩ := marked
    by_cases empty : name = []
    · -- Two hyphens alone name no option.
      subst empty
      cases option <;> rfl
    · have same : ∀ name : List Char, '-' :: '-' :: name = '-' :: '-' :: option.name.toList ↔
          String.ofList name = option.name := by
        intro name
        rw [← String.toList_inj, String.toList_ofList]
        simp
      rw [ofText_long empty, optionText?, String.toList_ofList, cutAtFirst_cons (by decide),
        cutAtFirst_cons (by decide)]
      -- The first equals sign of the word is the first one behind the hyphens.
      cases cutAtFirst '=' name with
      | none => simp only [Option.map_none, ofList_eq_option, same]
      | some parts => simp only [Option.map_some, ofList_eq_option, same]
  · have unmarked : ∀ tail, chars ≠ '-' :: '-' :: tail := fun tail same => marked ⟨tail, same⟩
    have short := ofText_ne_long unmarked
    rw [optionText?_eq_none unmarked]
    split <;> simp_all

/-- A long word without a text is two hyphens and its name. -/
theorem eq_of_ofText_long {word name : String} (shape : ArgumentWord.ofText word = .long name none) :
    word = "--" ++ name := by
  -- Only behind two hyphens is a word long, and without an equals sign all the rest is its name.
  obtain ⟨chars, rfl⟩ : ∃ chars, word = String.ofList chars := ⟨word.toList, by simp⟩
  by_cases marked : ∃ name, chars = '-' :: '-' :: name
  · obtain ⟨chars, rfl⟩ := marked
    by_cases empty : chars = []
    · subst empty
      simp [ArgumentWord.ofText] at shape
    · rw [ofText_long empty] at shape
      cases cut : cutAtFirst '=' chars with
      | none =>
        simp only [cut, ArgumentWord.long.injEq, and_true] at shape
        rw [← shape, ← String.toList_inj]
        simp
      | some parts => simp [cut] at shape
  · exact absurd shape (ofText_ne_long (fun tail same => marked ⟨tail, same⟩) name none)

/-- Each option is meant by its own name. -/
theorem LongName.ofText?_name (option : DescribeOption) :
    LongName.ofText? option.name = some (.valued option) := by
  cases option <;> rfl

/-- A name that means an option is the name of that option. -/
theorem LongName.eq_name {name : String} {option : DescribeOption}
    (meant : LongName.ofText? name = some (.valued option)) : name = option.name := by
  unfold ofText? at meant
  split at meant
  · simp at meant
  · split at meant
    · simp at meant
    · obtain ⟨found, located, same⟩ := Option.map_eq_some_iff.mp meant
      have named := List.find?_some located
      obtain rfl := LongName.valued.inj same
      exact (by simpa using named : found.name = name).symm

/-- Only one name asks for segments. -/
theorem LongName.eq_segments {name : String} (meant : LongName.ofText? name = some .segments) :
    name = "segments" := by
  unfold ofText? at meant
  split at meant
  · assumption
  · split at meant <;> simp at meant

/-- Options with the same name are the same. -/
theorem DescribeOption.name_inj {option other : DescribeOption} :
    option.name = other.name ↔ option = other := by
  constructor
  · intro same
    have meant := LongName.ofText?_name option
    rw [same, LongName.ofText?_name] at meant
    exact (LongName.valued.inj (Option.some.inj meant)).symm
  · rintro rfl
    rfl

/-- No option goes by the name that asks for segments. -/
theorem DescribeOption.name_ne_segments (option : DescribeOption) : option.name ≠ "segments" := by
  cases option <;> decide

/-- A word of another shape does not ask for segments. -/
theorem ne_segments_of_shape {word : String} {shape : ArgumentWord}
    (shaped : ArgumentWord.ofText word = shape) (other : shape ≠ .long "segments" none) :
    word ≠ "--segments" := by
  rintro rfl
  exact other (shaped.symm.trans rfl)

/-! Reading words -/

/-- What becomes of a word that is read, `later` being the options in the end: it closes the list,
asks for segments, gives a text to an option, names one whose text comes next, or is that text. -/
theorem GivenOptions.read_cons {given later : GivenOptions} {pending : Option PendingOption}
    {word : String} {rest : List String} (read : given.read pending (word :: rest) = .ok later) :
    (ArgumentWord.ofText word = .endOfOptions ∧ rest = [] ∧ given.settle pending = .ok later) ∨
      (ArgumentWord.ofText word = .long "segments" none ∧
        ∃ settled extended, given.settle pending = .ok settled ∧
          settled.giveSegments = .ok extended ∧ extended.read none rest = .ok later) ∨
      (∃ option text, ArgumentWord.ofText word = .long option.name (some text) ∧
        ∃ settled extended, given.settle pending = .ok settled ∧
          settled.give option text = .ok extended ∧ extended.read none rest = .ok later) ∨
      (∃ option, ArgumentWord.ofText word = .long option.name none ∧
        ∃ settled, given.settle pending = .ok settled ∧
          settled.read (some ⟨option, none⟩) rest = .ok later) ∨
      (∃ option, ArgumentWord.ofText word = .plain ∧ pending = some ⟨option, none⟩ ∧
        given.read (some ⟨option, some word⟩) rest = .ok later) := by
  -- Every other word is an error, and so is one of these where it is not due.
  unfold GivenOptions.read at read
  cases shape : ArgumentWord.ofText word with
  | endOfOptions =>
    simp only [shape] at read
    split at read
    · rename_i last
      exact .inl ⟨rfl, last, read⟩
    · simp at read
  | long name attached =>
    simp only [shape] at read
    split at read
    -- An unknown name, or a text for a name that takes none.
    · simp at read
    · simp at read
    · simp at read
    -- Showing the help is no success either.
    · obtain ⟨_, _, failed⟩ := eq_ok_of_bind read
      simp at failed
    -- A name that has its meaning comes behind what is settled before.
    · rename_i meant
      obtain ⟨settled, before, next⟩ := eq_ok_of_bind read
      obtain ⟨extended, gives, next⟩ := eq_ok_of_bind next
      exact .inr (.inl ⟨by rw [LongName.eq_segments meant], settled, extended, before, gives, next⟩)
    · rename_i option text meant
      obtain ⟨settled, before, next⟩ := eq_ok_of_bind read
      obtain ⟨extended, gives, next⟩ := eq_ok_of_bind next
      exact .inr (.inr (.inl ⟨option, text, by rw [LongName.eq_name meant], settled, extended,
        before, gives, next⟩))
    · rename_i option meant
      obtain ⟨settled, before, next⟩ := eq_ok_of_bind read
      exact .inr (.inr (.inr (.inl ⟨option, by rw [LongName.eq_name meant], settled, before,
        next⟩)))
  | short letter =>
    simp only [shape] at read
    split at read
    · obtain ⟨_, _, failed⟩ := eq_ok_of_bind read
      simp at failed
    · simp at read
  | plain =>
    simp only [shape] at read
    split at read
    · rename_i option
      exact .inr (.inr (.inr (.inr ⟨option, rfl, rfl, read⟩)))
    · simp at read

/-- The text that an option gets from one that is pending, the words being those still to come. -/
def pendingTexts (option : DescribeOption) (words : List String) : Option PendingOption → List String
  | none => []
  | some pending =>
    if pending.option = option then (pending.value.or words.head?).toList else []

/-- Settling what is pending gives its text to its option. -/
theorem GivenOptions.Matches.settle {given later : GivenOptions} {option : DescribeOption}
    {pending : Option PendingOption} {texts : List String} (matched : given.Matches texts option)
    (settles : given.settle pending = .ok later) (words : List String) :
    later.Matches (texts ++ pendingTexts option words pending) option := by
  rcases pending with _ | ⟨other, _ | text⟩
  · obtain rfl := Except.ok.inj settles
    simpa [pendingTexts] using matched
  · simp [GivenOptions.settle] at settles
  · simpa [pendingTexts] using matched.give settles

/-- Settling what is pending leaves the flag for segments alone. -/
theorem GivenOptions.segments_settle {given later : GivenOptions} {pending : Option PendingOption}
    (settles : given.settle pending = .ok later) : later.segments = given.segments := by
  rcases pending with _ | ⟨other, _ | text⟩
  · obtain rfl := Except.ok.inj settles
    rfl
  · simp [GivenOptions.settle] at settles
  · exact segments_give settles

/-- Reading words gives every option the texts that the words give for it. -/
theorem GivenOptions.Matches.read {option : DescribeOption} {words : List String} :
    ∀ {given later : GivenOptions} {pending : Option PendingOption} {texts : List String},
      given.Matches texts option → given.read pending words = .ok later →
      later.Matches (texts ++ pendingTexts option words pending ++ givenTexts option words)
        option := by
  -- The options that are given so far change with every word, so they stay quantified over.
  induction words with
  | nil =>
    intro given later pending texts matched reads
    simpa [givenTexts] using matched.settle reads []
  | cons word rest ih =>
    intro given later pending texts matched reads
    rw [givenTexts, optionText?_eq]
    rcases GivenOptions.read_cons reads with ⟨shape, rfl, settles⟩ |
      ⟨shape, settled, extended, settles, gives, read⟩ |
      ⟨other, text, shape, settled, extended, settles, gives, read⟩ |
      ⟨other, shape, settled, settles, read⟩ | ⟨other, shape, rfl, read⟩
    · simpa [shape, givenTexts] using matched.settle settles [word]
    · -- The flag is no option, and takes no text.
      have unnamed := option.name_ne_segments.symm
      obtain ⟨-, rfl⟩ := eq_of_giveSegments gives
      have flagged : ({ settled with segments := true } : GivenOptions).Matches
          (texts ++ pendingTexts option (word :: rest) pending) option := by
        have before := matched.settle settles (word :: rest)
        cases option <;> exact before
      simpa [shape, unnamed, pendingTexts] using ih flagged read
    · -- The text is in the word itself.
      have extended := ih ((matched.settle settles (word :: rest)).give gives) read
      by_cases same : other = option <;>
        simpa [shape, DescribeOption.name_inj, same, pendingTexts] using extended
    · -- The text is the next word, and is pending until that is read.
      have extended := ih (matched.settle settles (word :: rest)) read
      by_cases same : other = option <;>
        simpa [shape, DescribeOption.name_inj, same, pendingTexts] using extended
    · -- The word is the text that is waited for.
      have extended := ih matched read
      by_cases same : other = option <;> simpa [shape, same, pendingTexts] using extended

/-- Reading words asks for segments if one of the words does, or that was done before. -/
theorem GivenOptions.segments_read {words : List String} :
    ∀ {given later : GivenOptions} {pending : Option PendingOption},
      given.read pending words = .ok later →
      (later.segments = true ↔ given.segments = true ∨ "--segments" ∈ words) := by
  induction words with
  | nil =>
    intro given later pending reads
    simp [segments_settle reads]
  | cons word rest ih =>
    intro given later pending reads
    rcases GivenOptions.read_cons reads with ⟨shape, rfl, settles⟩ |
      ⟨shape, settled, extended, settles, gives, read⟩ |
      ⟨other, text, shape, settled, extended, settles, gives, read⟩ |
      ⟨other, shape, settled, settles, read⟩ | ⟨other, shape, rfl, read⟩
    · have unflagged := (ne_segments_of_shape shape (by simp)).symm
      simp [segments_settle settles, unflagged]
    · obtain rfl : word = "--segments" := eq_of_ofText_long shape
      obtain ⟨-, rfl⟩ := eq_of_giveSegments gives
      simp [ih read]
    · have unflagged := (ne_segments_of_shape shape (by simp)).symm
      rw [ih read, segments_give gives, segments_settle settles]
      simp [unflagged]
    · have unflagged := (ne_segments_of_shape shape (by simp [other.name_ne_segments])).symm
      rw [ih read, segments_settle settles]
      simp [unflagged]
    · have unflagged := (ne_segments_of_shape shape (by simp)).symm
      rw [ih read]
      simp [unflagged]

/-! Accepted command lines -/

/-- A command line is accepted as a description if it names that command, and gives options that can
be read, do not exclude each other and miss none that they need. -/
theorem Command.accepted_iff {arguments : List String} {request : DescribeRequest} :
    Command.ofArguments arguments = .ok (.describe request) ↔
      ∃ words given, arguments = "describe" :: words ∧ GivenOptions.read {} none words = .ok given ∧
        given.conflicting = false ∧ given.incomplete = false ∧ request = given.request := by
  constructor
  · intro accepted
    unfold Command.ofArguments at accepted
    split at accepted
    · simp at accepted
    · rename_i words
      obtain ⟨given, gathered, same⟩ := eq_ok_of_map accepted
      obtain ⟨read, reads, checked⟩ := eq_ok_of_bind gathered
      -- Options that exclude each other, or miss one, have been refused.
      split at checked
      · simp at checked
      · split at checked
        · simp at checked
        · rename_i compatible complete
          obtain rfl := Except.ok.inj checked
          exact ⟨words, read, rfl, reads, by simpa using compatible, by simpa using complete,
            (Command.describe.inj same).symm⟩
    · obtain ⟨_, _, different⟩ := eq_ok_of_map accepted
      simp at different
    · simp at accepted
    · simp at accepted
  · intro ⟨words, given, named, reads, compatible, complete, same⟩
    have gathered : GivenOptions.ofArguments words = .ok given := by
      simp [GivenOptions.ofArguments, reads, compatible, complete, bind, Except.bind, pure,
        Except.pure]
    rw [named, same]
    show (GivenOptions.ofArguments words).map (fun given => describe given.request) = _
    rw [gathered]
    rfl

/-- Reading what is behind the name of the command gives every option what the command line says
about it. -/
theorem GivenOptions.matches_of_read {words : List String} {given : GivenOptions}
    (reads : GivenOptions.read {} none words = .ok given) (option : DescribeOption) :
    given.Matches (givenTexts option ("describe" :: words)) option := by
  have start : GivenOptions.Matches {} [] option := by
    cases option <;> first | exact .absent | rfl
  -- The name of the command gives no text for any option.
  have skipped : givenTexts option ("describe" :: words) = givenTexts option words := by
    rw [givenTexts, optionText?_eq]
    rfl
  simpa [pendingTexts, skipped] using start.read reads

/-- A command line that is accepted as a description decodes to its request. -/
theorem Command.decodes_of_accepted {arguments : List String} {request : DescribeRequest}
    (accepted : Command.ofArguments arguments = .ok (.describe request)) :
    request.Decodes arguments := by
  obtain ⟨words, given, rfl, reads, -, complete, rfl⟩ := accepted_iff.mp accepted
  have matched := GivenOptions.matches_of_read reads
  -- The base has no default, so it is the check for missing options that gives it.
  obtain ⟨base, found⟩ : ∃ base, given.base = some base := by
    cases known : given.base with
    | none => simp [GivenOptions.incomplete, known] at complete
    | some base => exact ⟨base, rfl⟩
  exact {
    module := DecodedOnce.withDefault (matched .module) _
    token := DecodedOnce.withDefault (matched .token) _
    ilOffset := DecodedOnce.withDefault (matched .ilOffset) _
    mapping := DecodedOnce.withDefault (matched .mapping) _
    base := by
      simpa [GivenOptions.request, found] using (found ▸ matched .base : DecodedOnce _ _ _).exists_text
    nativeOffset := DecodedOnce.withDefault (matched .nativeOffset) _
    line := DecodedOnce.withDefault (matched .line) _
    column := DecodedOnce.withDefault (matched .column) _
    source := matched .source
    offset := matched .offset
    method := matched .method
    declaringType := DecodedOnce.withDefault (matched .declaringType) _
    namespaceName := DecodedOnce.withDefault (matched .namespaceName) _
    parameters := matched .parameter
    returnType := matched .returnType
    segments := by simpa [GivenOptions.request] using GivenOptions.segments_read reads }

/-- A file that is named is named together with an offset in it, and parameters are given for a
method that is named. -/
theorem Command.together_of_accepted {arguments : List String} {request : DescribeRequest}
    (accepted : Command.ofArguments arguments = .ok (.describe request)) :
    (request.source ≠ none → request.offset ≠ none) ∧
      (request.parameters ≠ [] → request.method ≠ none) := by
  obtain ⟨words, given, rfl, reads, -, complete, rfl⟩ := accepted_iff.mp accepted
  -- What is missing would have been missed.
  simp only [GivenOptions.incomplete, Bool.or_eq_false_iff, Bool.and_eq_false_iff] at complete
  obtain ⟨⟨⟨-, located⟩, -⟩, owned⟩ := complete
  refine ⟨fun named missing => ?_, fun typed missing => ?_⟩
  · cases source : given.source <;> simp_all [GivenOptions.request]
  · cases parameters : given.parameters <;> simp_all [GivenOptions.request]

end BreakpointGlyph
