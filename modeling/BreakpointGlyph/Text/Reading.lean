/-! Reading a text step by step, each step leaving less of it. -/

namespace BreakpointGlyph

/-- What a step of reading comes to: a result, or a state and the text that is left to read. -/
inductive ReadStep (State Result : Type) where
  | done (result : Result)
  | more (state : State) (rest : List Char)

/-- Repeats a step until it has a result, at most a given number of times. -/
def readWithin {State Result : Type}
    (step : State → List Char → Option (ReadStep State Result)) :
    Nat → State → List Char → Option Result
  | 0, _, _ => none
  | count + 1, state, text =>
    match step state text with
    | none => none
    | some (.done result) => some result
    | some (.more next rest) => readWithin step count next rest

/-- Repeats a step until it has a result; there are no more steps than one for each character and
one at the end. -/
def readBySteps {State Result : Type}
    (step : State → List Char → Option (ReadStep State Result)) (state : State)
    (text : List Char) : Option Result :=
  readWithin step (text.length + 1) state text

end BreakpointGlyph
