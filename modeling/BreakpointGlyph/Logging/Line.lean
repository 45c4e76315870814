import BreakpointGlyph.Logging.Settings

/-! A log record as one line of text, for people or for programs. -/

namespace BreakpointGlyph

/-- A character of a JSON text; a control character is written by its code. -/
def jsonChar (c : Char) : List Char :=
  if c = '\"' then ['\\', '\"']
  else if c = '\\' then ['\\', '\\']
  else if c.toNat < 0x20 then '\\' :: 'u' :: List.leftpad 4 '0' (Nat.toDigits 16 c.toNat)
  else [c]

/-- A JSON text. -/
def jsonText (text : String) : String :=
  String.ofList ('\"' :: text.toList.flatMap jsonChar ++ ['\"'])

/-- A JSON object with given members. -/
def jsonObject (members : List (String × String)) : String :=
  "\x7b" ++ ",".intercalate (members.map fun entry => jsonText entry.1 ++ ":" ++ entry.2) ++ "\x7d"

/-- A value of a record in JSON. -/
def LogValue.json : LogValue → String
  | .text value => jsonText value
  | .number value => value.repr
  | .flag value => toString value

/-- A record as a JSON object. -/
def LogRecord.jsonLine (record : LogRecord) : String :=
  jsonObject
    [("level", jsonText record.level.name),
      ("fields", jsonObject (("message", jsonText record.message) ::
        record.fields.map fun entry => (entry.1, entry.2.json))),
      ("target", jsonText record.target)]

/-- A record for people: its level, its target, its message and its values. -/
def LogRecord.prettyLine (record : LogRecord) : String :=
  " ".intercalate (record.level.name :: (record.target ++ ":") :: record.message ::
    record.fields.map fun entry => entry.1 ++ "=" ++ entry.2.plain)

/-- A record in a given format. -/
def LogRecord.line (record : LogRecord) : LogFormat → String
  | .pretty => record.prettyLine
  | .json => record.jsonLine

end BreakpointGlyph
