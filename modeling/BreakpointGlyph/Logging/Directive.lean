import BreakpointGlyph.Logging.Limit

/-! Directives of a log: each gives a limit to some of the records. -/

namespace BreakpointGlyph

/-- A condition on a field: that it is there, or also something about its value. -/
structure FieldCondition where
  name : String
  onValue : Bool := false
deriving DecidableEq, Repr

/-- A record has a field if it lists it; every record has a message. -/
def FieldCondition.holds (condition : FieldCondition) (record : LogRecord) : Bool :=
  condition.name == "message" || record.fields.any (·.1 == condition.name)

/-- A limit for the records whose target starts as given and that have a given field. -/
structure LogDirective where
  target : Option String := none
  span : Option String := none
  field : Option FieldCondition := none
  limit : LogLimit
deriving DecidableEq, Repr

/-- A directive on a span or on the value of a field never concerns a record outside all spans. -/
def LogDirective.concernsRecords (directive : LogDirective) : Bool :=
  directive.span.isNone && directive.field.all (!·.onValue)

/-- A directive applies to a record by its target and by the fields that it has. -/
def LogDirective.applies (directive : LogDirective) (record : LogRecord) : Bool :=
  directive.concernsRecords &&
    directive.target.all (fun start => start.toList.isPrefixOf record.target.toList) &&
    directive.field.all (·.holds record)

/-- A directive on a field is more exact than one on none, and two fields go by their names. -/
def fieldOverrides : Option FieldCondition → Option FieldCondition → Bool
  | _, none => true
  | none, some _ => false
  | some later, some earlier => earlier.name ≤ later.name

/-- Of two directives that apply, the one with the longer target decides, then the one whose field
is more exact, and the later one of equals. -/
def LogDirective.overrides (later earlier : LogDirective) : Bool :=
  let laterLength := later.target.elim 0 (·.utf8ByteSize + 1)
  let earlierLength := earlier.target.elim 0 (·.utf8ByteSize + 1)
  earlierLength < laterLength ||
    earlierLength == laterLength && fieldOverrides later.field earlier.field

end BreakpointGlyph
