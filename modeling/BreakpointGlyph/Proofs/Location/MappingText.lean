import BreakpointGlyph.Location.MappingText
import BreakpointGlyph.Proofs.Numeral.Grammar

/-! A kind of mapping is read from a name in any spelling and from a code, and separators are gone
from a code too before it is read; texts with separators in a code are what that makes different. -/

namespace BreakpointGlyph

/-! Names -/

/-- A separator is left out. -/
theorem withoutSeparators_cons (c : Char) (rest : List Char) :
    withoutSeparators (c :: rest) =
      if isSeparator c then withoutSeparators rest else c :: withoutSeparators rest := by
  cases separates : isSeparator c <;> simp [withoutSeparators, separates]

/-- A text without separators is all that is left of it, and only such a text is. -/
theorem withoutSeparators_eq_self_iff {text : List Char} :
    withoutSeparators text = text ↔ ∀ c ∈ text, isSeparator c = false := by
  simp [withoutSeparators, List.filter_eq_self]

/-- Separators have no letter case. -/
theorem isSeparator_toLower {c : Char} (bare : isSeparator c.toLower = false) :
    isSeparator c = false := by
  cases separates : isSeparator c with
  | false => rfl
  | true =>
    have either : c = '-' ∨ c = '_' := by simpa [isSeparator] using separates
    rcases either with rfl | rfl <;> simp [isSeparator] at bare

/-- A text spells a plain name exactly if that is what is left of it in small letters. -/
theorem spells_iff {text name : List Char} (plain : ∀ c ∈ name, isSeparator c = false) :
    Spells text name ↔ (withoutSeparators text).map Char.toLower = name := by
  constructor
  · intro spelled
    induction spelled with
    | nil => rfl
    | separator separates _ ih =>
      rw [withoutSeparators_cons, if_pos separates]
      exact ih plain
    | letter spelled ih =>
      have bare := isSeparator_toLower (plain _ List.mem_cons_self)
      rw [withoutSeparators_cons, if_neg (by simp [bare]), List.map_cons,
        ih fun c member => plain c (List.mem_cons_of_mem _ member)]
  · intro left
    -- The name loses a letter for each character that is no separator, so it stays quantified over.
    induction text generalizing name with
    | nil =>
      subst left
      exact .nil
    | cons c rest ih =>
      rw [withoutSeparators_cons] at left
      split at left
      · rename_i separates
        exact .separator separates (ih plain left)
      · subst left
        exact .letter (ih (fun c member => plain c (List.mem_cons_of_mem _ member)) rfl)

/-- The names of the kinds have no separators, and each of them has a letter that is no digit. -/
theorem IlMapping.plainNames_plain {mapping : IlMapping} {name : String}
    (member : name ∈ mapping.plainNames) :
    (∀ c ∈ name.toList, isSeparator c = false) ∧
      ∃ c ∈ name.toList, ¬(c = '+' ∨ (digitValue? 16 c).isSome) := by
  have table : ∀ mapping : IlMapping, ∀ name ∈ mapping.plainNames,
      (∀ c ∈ name.toList, isSeparator c = false) ∧
        ∃ c ∈ name.toList, ¬(c = '+' ∨ (digitValue? 16 c).isSome) := by
    intro mapping
    cases mapping <;> simp [IlMapping.plainNames, isSeparator, digitValue?]
  exact table mapping name member

/-- A plain name is looked up among the names of each kind. -/
theorem IlMapping.ofPlainName?_eq_some_iff {name : List Char} {mapping : IlMapping} :
    IlMapping.ofPlainName? name = some mapping ↔ String.ofList name ∈ mapping.plainNames := by
  constructor
  · intro found
    unfold IlMapping.ofPlainName? at found
    -- One case for each name, and the last one for what is none.
    split at found
    all_goals cases found
    all_goals simp_all [IlMapping.plainNames]
  · intro member
    have table : ∀ mapping : IlMapping, ∀ name ∈ mapping.plainNames,
        IlMapping.ofPlainName? name.toList = some mapping := by
      intro mapping
      cases mapping <;> simp [IlMapping.plainNames, IlMapping.ofPlainName?]
    have found := table mapping _ member
    rwa [String.toList_ofList] at found

/-- What is read as a plain name is a text in small letters without its separators. -/
theorem plainMappingName_eq (text : List Char) :
    plainMappingName text = (withoutSeparators text).map Char.toLower := by
  simp [plainMappingName, withoutSeparators, isSeparator, bne]

/-- A text names a kind exactly if that kind is found under its plain name. -/
theorem IlMapping.namedBy_iff {mapping : IlMapping} {text : List Char} :
    mapping.NamedBy text ↔ IlMapping.ofPlainName? (plainMappingName text) = some mapping := by
  rw [IlMapping.ofPlainName?_eq_some_iff, plainMappingName_eq]
  constructor
  · rintro ⟨name, member, spelled⟩
    have left := (spells_iff (IlMapping.plainNames_plain member).1).mp spelled
    rw [left, String.ofList_toList]
    exact member
  · intro member
    refine ⟨_, member, (spells_iff (IlMapping.plainNames_plain member).1).mpr ?_⟩
    rw [String.toList_ofList]

/-! Codes -/

/-- Small letters or not, a decimal digit is the same. -/
theorem isDigit_toLower {c : Char} {value : Nat} :
    IsDigit 10 c.toLower value ↔ IsDigit 10 c value := by
  -- Decimal digits are no letters, so that they are the same in either case.
  have small : ∀ value < 10, (Nat.digitChar value).toLower = Nat.digitChar value := by decide
  have large : ∀ value < 10, (Nat.digitChar value).toUpper = Nat.digitChar value := by decide
  constructor
  · rintro ⟨below, same⟩
    rcases eq_of_toLower same with kept | kept
    · exact ⟨below, kept⟩
    · exact ⟨below, kept.trans (large value below)⟩
  · rintro ⟨below, same⟩
    exact ⟨below, by rw [same, small value below]⟩

/-- Small letters or not, decimal digits make the same number. -/
theorem digitsOf_toLower {text : List Char} {n : Nat} :
    DigitsOf 10 (text.map Char.toLower) n ↔ DigitsOf 10 text n := by
  induction text generalizing n with
  | nil => rfl
  | cons c rest ih => simp only [List.map_cons, digitsOf_cons, isDigit_toLower, ih, List.length_map]

/-- Small letters or not, a decimal numeral is the same. -/
theorem numeralOf_toLower {text : List Char} {n : Nat} :
    NumeralOf 10 (text.map Char.toLower) n ↔ NumeralOf 10 text n := by
  cases text with
  | nil => rfl
  | cons c rest =>
    -- The sign has no letter case, and no other character becomes one.
    by_cases sign : c = '+'
    · subst sign
      have kept : Char.toLower '+' = '+' := by decide
      rw [List.map_cons, kept, numeralOf_signed (by decide), numeralOf_signed (by decide),
        digitsOf_toLower, ne_eq, List.map_eq_nil_iff]
    · have unsigned : c.toLower ≠ '+' := by
        intro same
        rcases eq_of_toLower same with kept | kept
        · exact sign kept
        · exact sign (kept.trans (by decide))
      rw [List.map_cons, numeralOf_unsigned unsigned, numeralOf_unsigned sign, ← List.map_cons,
        digitsOf_toLower]

/-- There are no separators in a numeral. -/
theorem withoutSeparators_numeral {text : List Char} {n : Nat} (numeral : NumeralOf 10 text n) :
    withoutSeparators text = text :=
  withoutSeparators_eq_self_iff.mpr
    (numeral.all_characters (by decide) (by decide) (by decide) (by decide))

/-- A text that names a kind is no numeral, even without its separators. -/
theorem IlMapping.NamedBy.not_numeral {mapping : IlMapping} {text : List Char}
    (named : mapping.NamedBy text) (n : Nat) : ¬NumeralOf 10 (withoutSeparators text) n := by
  intro numeral
  obtain ⟨name, member, spelled⟩ := named
  obtain ⟨plain, c, letter, foreign⟩ := IlMapping.plainNames_plain member
  -- What is left of the text is the name, which has a letter that no numeral has.
  rw [← numeralOf_toLower, (spells_iff plain).mp spelled] at numeral
  have known : ∀ c ∈ name.toList, c = '+' ∨ (digitValue? 16 c).isSome :=
    numeral.all_characters (by decide) (by decide) (by decide) (by decide)
  exact foreign (known c letter)

/-- A code is that of a kind, or it is too large for one. -/
theorem IlMapping.ofCode_cases (code : Nat) :
    (∃ mapping : IlMapping, mapping.code = code ∧ IlMapping.ofCode code = .ok mapping) ∨
      (6 < code ∧ IlMapping.ofCode code = .error (.unknownMapping code)) := by
  -- The codes are the places of the kinds in their list.
  rcases Nat.lt_or_ge 6 code with beyond | known
  · have none : IlMapping.all[code]? = none := List.getElem?_eq_none beyond
    exact .inr ⟨beyond, by simp [IlMapping.ofCode, none]⟩
  · have listed : ∀ code ≤ 6, ∃ mapping ∈ IlMapping.all, mapping.code = code := by decide
    obtain ⟨mapping, _, rfl⟩ := listed code known
    exact .inl ⟨mapping, rfl, IlMapping.ofCode_code mapping⟩

/-- The codes of the kinds fit into 32 bits. -/
theorem IlMapping.code_lt (mapping : IlMapping) : mapping.code < UInt32.size := by
  cases mapping <;> decide

/-! Readings -/

/-- A text that names a kind is read as that kind. -/
theorem IlMapping.parse_named {mapping : IlMapping} {text : String}
    (named : mapping.NamedBy text.toList) : IlMapping.parse text = .ok mapping := by
  simp [IlMapping.parse, IlMapping.namedBy_iff.mp named]

/-- A text that names no kind has no plain name. -/
theorem IlMapping.ofPlainName?_unnamed {text : List Char}
    (unnamed : ∀ mapping : IlMapping, ¬mapping.NamedBy text) :
    IlMapping.ofPlainName? (plainMappingName text) = none := by
  apply Option.eq_none_iff_forall_ne_some.mpr
  intro mapping found
  exact unnamed mapping (IlMapping.namedBy_iff.mpr found)

/-- What is read as a code is a numeral of 32 bits, once the separators are gone. -/
theorem readNumeral_plainMappingName {text : List Char} {code : Nat} :
    readNumeral 10 UInt32.size (plainMappingName text) = .ok code ↔
      NumeralOf 10 (withoutSeparators text) code ∧ code < UInt32.size := by
  rw [readNumeral_eq_ok_iff (by decide) (by decide) (by decide), plainMappingName_eq,
    numeralOf_toLower]

/-- A text without a name is read as the kind with its code. -/
theorem IlMapping.parse_coded {text : String} {code : Nat}
    (coded : NumeralOf 10 (withoutSeparators text.toList) code) (fits : code < UInt32.size) :
    IlMapping.parse text = IlMapping.ofCode code := by
  have none := IlMapping.ofPlainName?_unnamed fun mapping named => named.not_numeral code coded
  have read := readNumeral_plainMappingName.mpr ⟨coded, fits⟩
  simp [IlMapping.parse, none, read]

/-- A text with neither a name nor a code is reported as it was typed. -/
theorem IlMapping.parse_invalid {text : String}
    (unnamed : ∀ mapping : IlMapping, ¬mapping.NamedBy text.toList)
    (uncoded : ∀ code < UInt32.size, ¬NumeralOf 10 (withoutSeparators text.toList) code) :
    IlMapping.parse text = .error (.invalidMappingName text) := by
  have none := IlMapping.ofPlainName?_unnamed unnamed
  cases read : readNumeral 10 UInt32.size (plainMappingName text.toList) with
  | ok code =>
    obtain ⟨coded, fits⟩ := readNumeral_plainMappingName.mp read
    exact absurd coded (uncoded code fits)
  | error fault => simp [IlMapping.parse, none, read]

/-- Every text is read as a name, as a code without its separators, or not at all. -/
theorem IlMapping.mappingReading_parse (text : String) :
    MappingReading text (withoutSeparators text.toList) (IlMapping.parse text) := by
  by_cases named : ∃ mapping : IlMapping, mapping.NamedBy text.toList
  · obtain ⟨mapping, named⟩ := named
    rw [IlMapping.parse_named named]
    exact .name named
  · have unnamed := not_exists.mp named
    by_cases coded : ∃ code < UInt32.size, NumeralOf 10 (withoutSeparators text.toList) code
    · obtain ⟨code, fits, coded⟩ := coded
      rw [IlMapping.parse_coded coded fits]
      rcases IlMapping.ofCode_cases code with ⟨mapping, rfl, known⟩ | ⟨beyond, unknown⟩
      · rw [known]
        exact .code coded
      · rw [unknown]
        exact .unknownCode coded beyond fits
    · have uncoded : ∀ code < UInt32.size, ¬NumeralOf 10 (withoutSeparators text.toList) code :=
        fun code fits numeral => coded ⟨code, fits, numeral⟩
      rw [IlMapping.parse_invalid unnamed uncoded]
      exact .invalid unnamed uncoded

/-- What comes of reading a text is what has to come of it, where codes have no separators. -/
theorem IlMapping.parse_eq_iff {text : String} {outcome : Except GlyphError IlMapping} :
    IlMapping.parse text = outcome ↔
      MappingReading text (withoutSeparators text.toList) outcome := by
  constructor
  · rintro rfl
    exact IlMapping.mappingReading_parse text
  · intro reading
    cases reading with
    | name named => exact IlMapping.parse_named named
    | @code mapping coded =>
      rw [IlMapping.parse_coded coded mapping.code_lt, IlMapping.ofCode_code]
    | @unknownCode code coded unknown fits =>
      rw [IlMapping.parse_coded coded fits]
      -- The codes of the kinds are not too large for one.
      rcases IlMapping.ofCode_cases code with ⟨mapping, rfl, _⟩ | ⟨_, answer⟩
      · have : mapping.code ≤ 6 := by cases mapping <;> decide
        omega
      · exact answer
    | invalid unnamed uncoded => exact IlMapping.parse_invalid unnamed uncoded

/-- Where there is no code at all, it makes no difference what would be read as one. -/
theorem MappingReading.uncoded {text : String} {digits others : List Char}
    {outcome : Except GlyphError IlMapping}
    (none : ∀ code < UInt32.size, ¬NumeralOf 10 digits code)
    (neither : ∀ code < UInt32.size, ¬NumeralOf 10 others code)
    (reading : MappingReading text digits outcome) : MappingReading text others outcome := by
  cases reading with
  | name named => exact .name named
  | code coded => exact absurd coded (none _ (IlMapping.code_lt _))
  | unknownCode coded _ fits => exact absurd coded (none _ fits)
  | invalid unnamed _ => exact .invalid unnamed neither

/-- A text that has separators is no code as it stands. -/
theorem not_numeral_of_separated {text : List Char} (separated : withoutSeparators text ≠ text)
    (n : Nat) : ¬NumeralOf 10 text n :=
  fun numeral => separated (withoutSeparators_numeral numeral)

/-- A kind of mapping is read from its names in any spelling and from its code, and a larger code
and any other text are reported; but separators are left out of a code too before it is read, so
that the text itself counts as typed exactly if it has none or no code is left without them. -/
theorem IlMapping.parse_outcomes (text : String) :
    (∀ outcome, IlMapping.parse text = outcome ↔
        MappingReading text (withoutSeparators text.toList) outcome) ∧
      ((∀ outcome, IlMapping.parse text = outcome ↔ MappingReading text text.toList outcome) ↔
        withoutSeparators text.toList = text.toList ∨
          ∀ code < UInt32.size, ¬NumeralOf 10 (withoutSeparators text.toList) code) := by
  refine ⟨fun outcome => IlMapping.parse_eq_iff, fun typed => ?_, fun either outcome => ?_⟩
  · by_cases same : withoutSeparators text.toList = text.toList
    · exact .inl same
    · right
      intro code fits coded
      have uncoded := not_numeral_of_separated same
      -- The code is read although the text as typed is none.
      have reading := (typed (IlMapping.ofCode code)).mp (IlMapping.parse_coded coded fits)
      rcases IlMapping.ofCode_cases code with ⟨mapping, _, answer⟩ | ⟨_, answer⟩
      · rw [answer] at reading
        cases reading with
        | name named => exact named.not_numeral code coded
        | code numeral => exact uncoded _ numeral
      · rw [answer] at reading
        cases reading with
        | unknownCode numeral _ _ => exact uncoded _ numeral
  · -- Either what is left is the text itself, or neither of them is a code.
    rw [IlMapping.parse_eq_iff]
    rcases either with same | none
    · rw [same]
    · by_cases same : withoutSeparators text.toList = text.toList
      · rw [same]
      · have neither : ∀ code < UInt32.size, ¬NumeralOf 10 text.toList code :=
          fun code _ => not_numeral_of_separated same code
        exact ⟨.uncoded none neither, .uncoded neither none⟩

/-- A negative number is read as the kind whose code is behind the sign, which it neither names nor
is the code of. -/
theorem IlMapping.parse_negative :
    IlMapping.parse "-3" = .ok .exact ∧ ¬MappingReading "-3" "-3".toList (.ok .exact) ∧
      MappingReading "-3" "-3".toList (.error (.invalidMappingName "-3")) := by
  have text : "-3".toList = ['-', '3'] := by simp
  have separated : withoutSeparators "-3".toList ≠ "-3".toList := by
    rw [text]
    decide
  -- The sign counts as a separator, and a numeral is left behind it.
  have three : NumeralOf 10 (withoutSeparators "-3".toList) 3 := by
    have read : readNumeral 10 UInt32.size (withoutSeparators ['-', '3']) = .ok 3 := rfl
    rw [text]
    exact ((readNumeral_eq_ok_iff (by decide) (by decide) (by decide)).mp read).1
  refine ⟨IlMapping.parse_coded three (by decide), fun reading => ?_, ?_⟩
  · cases reading with
    | name named => exact named.not_numeral 3 three
    | code coded => exact not_numeral_of_separated separated _ coded
  · exact .invalid (fun mapping named => named.not_numeral 3 three)
      fun code _ => not_numeral_of_separated separated code

end BreakpointGlyph
