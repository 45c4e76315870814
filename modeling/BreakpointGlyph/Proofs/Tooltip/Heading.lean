import BreakpointGlyph.Proofs.Location.Shown
import BreakpointGlyph.Proofs.Numeral.Hexadecimal
import BreakpointGlyph.Proofs.Tooltip.Call
import BreakpointGlyph.Proofs.Tooltip.Template

/-! With the default labels a tooltip reads in one way only: its text tells what it shows. -/

namespace BreakpointGlyph

/-- A template that is written as some parts is filled with what these stand for. -/
theorem fillTemplate_parts {template : String} {parts : List TemplatePart}
    {arguments : List String} (written : template.toList = parts.flatMap TemplatePart.encode)
    (addressable : arguments.length ≤ UInt64.size) :
    fillTemplate template arguments = expandParts arguments parts := by
  -- The reader of templates gets the parts back that were written.
  rw [fillTemplate_eq, written, fill_parts addressable, expandParts]

/-- The default label of a position shows its line and its character. -/
theorem fill_lineCharacter (line character : String) :
    fillTemplate ({} : GlyphLabels).lineCharacter [line, character] =
      "line " ++ line ++ ", character " ++ character := by
  have written : ({} : GlyphLabels).lineCharacter.toList =
      [TemplatePart.literal "line ", .placeholder 0, .literal ", character ",
        .placeholder 1].flatMap TemplatePart.encode := by decide +kernel
  rw [fillTemplate_parts written (by simp [UInt64.size])]
  apply String.toList_inj.mp
  simp [expandParts, TemplatePart.expand]

/-- The other default labels show their text alone. -/
theorem fill_placeholder (text : String) : fillTemplate "\x7b0\x7d" [text] = text := by
  have written : "\x7b0\x7d".toList = [TemplatePart.placeholder 0].flatMap TemplatePart.encode := by
    decide +kernel
  rw [fillTemplate_parts written (by simp [UInt64.size])]
  simp [expandParts, TemplatePart.expand]

/-- The text of a heading with the default labels. -/
theorem toList_nativeHeading (location : NativeLocation) (position : CursorPosition) :
    (plainText (nativeHeading {} location position)).toList =
      "line ".toList ++ (position.shownLine.repr.toList ++ (", character ".toList ++
        (position.shownCharacter.repr.toList ++ (" ".toList ++
          ((ilOffsetText location.mapping location.ilOffset).toList ++ (" ".toList ++
            (hexText 8 location.addressNumber).toList)))))) := by
  -- Three of the five segments are filled labels, and two are spaces.
  rw [nativeHeading, labelSegment, fill_lineCharacter]
  simp only [labelSegment, toList_plainText, fill_placeholder, Segment.space,
    NativeLocation.text_address, List.flatMap_cons, List.flatMap_nil, String.toList_append,
    List.append_assoc, List.append_nil]

/-- The character that tells numbers, approximate numbers and words apart. -/
def ilOffsetMark : IlMapping → Char
  | .exact => '0'
  | .approximate => '~'
  | _ => '('

/-- The text of an IL offset starts with the mark of its mapping. -/
theorem head?_ilOffsetText (mapping : IlMapping) (ilOffset : UInt32) :
    (ilOffsetText mapping ilOffset).toList.head? = some (ilOffsetMark mapping) := by
  -- A number starts with the zero of its marker, and a word with its bracket.
  cases mapping <;> simp [ilOffsetText, ilOffsetMark, hexText]

/-- The texts of two IL offsets are the same only if the offsets read the same. -/
theorem NativeLocation.sameIlOffset_of_text {location other : NativeLocation}
    (same : ilOffsetText location.mapping location.ilOffset =
      ilOffsetText other.mapping other.ilOffset) : location.SameIlOffset other := by
  have marks : ilOffsetMark location.mapping = ilOffsetMark other.mapping := by
    rw [← Option.some_inj, ← head?_ilOffsetText _ location.ilOffset, same, head?_ilOffsetText]
  -- Behind the same mark there are numbers on both sides, or words.
  unfold SameIlOffset
  cases mapping : location.mapping <;> cases otherMapping : other.mapping <;>
    simp_all [ilOffsetMark, ilOffsetText, unclearMappings, hexText_inj, UInt32.toNat_inj]

/-- A decimal numeral has only digits in it. -/
theorem not_mem_repr {c : Char} (noDigit : c.isDigit = false) (n : Nat) : c ∉ n.repr.toList := by
  rw [Nat.toList_repr]
  intro member
  have digit := Nat.isDigit_of_mem_toDigits (by decide) (by decide) member
  simp [noDigit] at digit

/-- Decimal numerals are the same only if their numbers are. -/
theorem eq_of_repr_eq {n m : Nat} (same : n.repr.toList = m.repr.toList) : n = m := by
  -- The same digits have the same value.
  simpa only [Nat.toList_repr, Nat.ofDigitChars_ten_toDigits] using
    congrArg (fun digits => Nat.ofDigitChars 10 digits 0) same

/-- Nothing or a space and more may follow a heading, and it can still be read in one way only. -/
theorem eq_of_nativeHeading_eq {location other : NativeLocation}
    {position otherPosition : CursorPosition} {rest otherRest : List Char}
    (ended : ∀ c ∈ rest.head?, c = ' ') (otherEnded : ∀ c ∈ otherRest.head?, c = ' ')
    (same : (plainText (nativeHeading {} location position)).toList ++ rest =
      (plainText (nativeHeading {} other otherPosition)).toList ++ otherRest) :
    (position.shownLine = otherPosition.shownLine ∧
        position.shownCharacter = otherPosition.shownCharacter) ∧
      location.SameIlOffset other ∧ location.addressNumber = other.addressNumber := by
  have space : isBlank ' ' = true := by decide
  simp only [toList_nativeHeading, List.append_assoc] at same
  -- The line ends at a comma, and every other field at a space.
  obtain ⟨lines, same⟩ := eq_of_field_eq ',' (not_mem_repr rfl _) (not_mem_repr rfl _)
    (by simp) (by simp) (List.append_cancel_left same)
  obtain ⟨characters, same⟩ := eq_of_field_eq ' ' (not_mem_repr rfl _)
    (not_mem_repr rfl _) (by simp) (by simp) (List.append_cancel_left same)
  obtain ⟨offsets, same⟩ := eq_of_field_eq ' ' (blank_not_mem (visible_ilOffsetText _ _) space)
    (blank_not_mem (visible_ilOffsetText _ _) space) (by simp) (by simp)
    (List.append_cancel_left same)
  obtain ⟨addresses, _⟩ := eq_of_field_eq ' ' (blank_not_mem (numberOf_hexText _ _).visible space)
    (blank_not_mem (numberOf_hexText _ _).visible space) ended otherEnded
    (List.append_cancel_left same)
  -- Each of the fields tells what it was made from.
  exact ⟨⟨eq_of_repr_eq lines, eq_of_repr_eq characters⟩,
    NativeLocation.sameIlOffset_of_text (String.toList_inj.mp offsets),
    hexText_inj.mp (String.toList_inj.mp addresses)⟩

/-- A quotation is empty or starts with a space. -/
theorem NativeCall.head?_quotation (call : NativeCall) :
    ∀ c ∈ (plainText call.quotation).toList.head?, c = ' ' := by
  intro c found
  rw [quotation_eq] at found
  -- The space is in front of the bracket that a quoted method is put in.
  cases statement : call.statement? with
  | none => simp [statement, toList_plainText] at found
  | some _ => simpa [statement, quotedMethod, plainText_cons] using found.symm

/-- With the default labels two calls put the same text behind what was there before only if they
show the same line and column, the same address, and IL offsets that read the same. This is so
whatever views they have, and whatever methods are quoted behind the places. -/
theorem NativeCall.eq_of_appended_text {call other : NativeCall} (labels : call.labels = {})
    (otherLabels : other.labels = {}) {earlier otherEarlier : GlyphOutput} {text : String}
    (appended : plainText (call.write earlier).output.segments =
      plainText earlier.segments ++ text)
    (otherAppended : plainText (other.write otherEarlier).output.segments =
      plainText otherEarlier.segments ++ text) :
    call.position.line = other.position.line ∧ call.position.column = other.position.column ∧
      call.location.addressNumber = other.location.addressNumber ∧
      call.location.SameIlOffset other.location := by
  -- What is appended is a heading with a quotation behind it.
  have parts : ∀ (call : NativeCall) (earlier : GlyphOutput), call.labels = {} →
      plainText (call.write earlier).output.segments = plainText earlier.segments ++ text →
      (plainText (nativeHeading {} call.location call.position)).toList ++
        (plainText call.quotation).toList = text.toList := by
    intro call earlier labels appended
    rw [segments_write, plainText_append, String.append_right_inj] at appended
    rw [← appended, plainText_append, String.toList_append, heading_eq, labels]
  have same := (parts call earlier labels appended).trans
    (parts other otherEarlier otherLabels otherAppended).symm
  obtain ⟨⟨lines, characters⟩, offsets, addresses⟩ :=
    eq_of_nativeHeading_eq call.head?_quotation other.head?_quotation same
  exact ⟨Nat.add_right_cancel lines, Nat.add_right_cancel characters, addresses, offsets⟩

/-- A call for another method and another base, the same text being quoted by another decompiler. -/
def quotingCall : NativeCall where
  service := ⟨⟨"text", fun _ _ => [⟨.text, "App.Program.Main()"⟩]⟩⟩
  labels := {}
  location := plainCall.location
  view := .decompiled
    { statements :=
        [⟨⟨⟨.ofDynamic "App.dll", ⟨0x06000002⟩⟩, "", "", "", [], none⟩, 0, 0xFFFFFFFF⟩] }
  position := ⟨4, 8⟩

/-- The same text behind nothing and behind a space, from calls with different methods and bases. -/
theorem NativeCall.eq_of_appended_text_quoted :
    let text := "line 5, character 9 0x002A 0x00400010 ('App.Program.Main()')"
    plainText (shownCall.write {}).output.segments = plainText [] ++ text ∧
      plainText (quotingCall.write ⟨[.space], [], []⟩).output.segments =
        plainText [.space] ++ text ∧
      shownCall.location.addressNumber = quotingCall.location.addressNumber ∧
      shownCall.location.SameIlOffset quotingCall.location := by
  intro text
  have appended : plainText (shownCall.write {}).output.segments = plainText [] ++ text := by
    decide +kernel
  have otherAppended : plainText (quotingCall.write ⟨[.space], [], []⟩).output.segments =
      plainText [.space] ++ text := by decide +kernel
  obtain ⟨_, _, addresses, offsets⟩ :=
    NativeCall.eq_of_appended_text rfl rfl appended otherAppended
  exact ⟨appended, otherAppended, addresses, offsets⟩

end BreakpointGlyph
