/-! Paths and names of entries as a system has them: bytes, which are the bytes of a text or not. -/

namespace BreakpointGlyph

/-- A path or a name of an entry. -/
structure RawText where
  bytes : List UInt8
deriving DecidableEq, Repr

/-- The bytes of a text. -/
def RawText.ofString (text : String) : RawText :=
  ⟨text.toUTF8.data.toList⟩

instance : Coe String RawText := ⟨RawText.ofString⟩

/-- The number of bytes. -/
def RawText.size (raw : RawText) : Nat :=
  raw.bytes.length

/-- The bytes are those of a text. -/
def RawText.IsText (raw : RawText) : Prop :=
  ∃ text : String, raw = text

/-- The text that has these bytes, if there is one. -/
def RawText.text? (raw : RawText) : Option String :=
  String.fromUTF8? raw.bytes.toByteArray

/-- A byte that may stand behind the first one of a character. -/
def continuesCharacter (byte : UInt8) : Bool :=
  0x80 ≤ byte && byte ≤ 0xBF

/-- Two bytes that a character may begin with. Some are kept from what has a shorter spelling, from
surrogates and from what is above the last character. -/
def beginsCharacter (first second : UInt8) : Bool :=
  if first = 0xE0 then 0xA0 ≤ second && second ≤ 0xBF
  else if first = 0xED then 0x80 ≤ second && second ≤ 0x9F
  else if first = 0xF0 then 0x90 ≤ second && second ≤ 0xBF
  else if first = 0xF4 then 0x80 ≤ second && second ≤ 0x8F
  else 0xC2 ≤ first && first ≤ 0xF3 && continuesCharacter second

/-- How many bytes behind the first one belong to a character that is begun and not completed. -/
def brokenTail (first : UInt8) : List UInt8 → Nat
  | [] => 0
  | [second] => if beginsCharacter first second then 1 else 0
  | second :: third :: _ =>
    if beginsCharacter first second then
      -- Only a character of four bytes can break off behind its third one.
      if 0xF0 ≤ first && continuesCharacter third then 2 else 1
    else 0

/-- Reads bytes as characters behind those that are passed over. What does not stand for a character
is read as the replacement character, as far as it could have begun one. -/
def readLossy : Nat → List UInt8 → List Char
  | _, [] => []
  | passed + 1, _ :: rest => readLossy passed rest
  | 0, first :: rest =>
    match (first :: rest).toByteArray.utf8DecodeChar? 0 with
    | some c => c :: readLossy (c.utf8Size - 1) rest
    | none => '\uFFFD' :: readLossy (brokenTail first rest) rest

/-- What is shown of bytes. -/
def RawText.shown (raw : RawText) : String :=
  String.ofList (readLossy 0 raw.bytes)

/-- A character that breaks off is replaced as a whole, and a surrogate byte by byte. -/
example : (RawText.mk [0x61, 0xE2, 0x82, 0x62, 0xED, 0xA0, 0x80]).shown =
    "a\uFFFDb\uFFFD\uFFFD\uFFFD" := by
  decide +kernel

end BreakpointGlyph
