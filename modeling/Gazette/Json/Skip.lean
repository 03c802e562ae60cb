import Gazette.Json.Number

/-!
# Skipped values

The value of an unknown field is passed over.  It has to be well formed, but it may be
nested to any depth, its numbers may be of any size, and its texts are not decoded.
-/

set_option autoImplicit false

namespace Gazette.Json

/-- An escape after its backslash, passed over. -/
def skipEscape : Payload → Except Fault Payload
  | [] => .error .endInText
  | b :: rest =>
    if b = Ascii.lowerU then
      match hexQuad rest with
      | .error fault => .error fault
      | .ok (_, rest) => .ok rest
    else if (simpleEscape? b).isSome then .ok rest
    else .error .invalidEscape

/-- Skipping an escape leaves less input. -/
theorem skipEscape_length {input rest : Payload} (h : skipEscape input = .ok rest) :
    rest.length < input.length := by
  cases input with
  | nil => simp [skipEscape] at h
  | cons b tail =>
    simp only [skipEscape] at h
    split at h
    · split at h
      · cases h
      · rename_i quad
        cases h
        exact Nat.lt_succ_of_lt (hexQuad_length quad)
    · split at h
      · cases h
        simp
      · cases h

/-- A text after its opening quote, passed over. -/
def skipText (input : Payload) : Except Fault Payload :=
  match input with
  | [] => .error .endInText
  | b :: rest =>
    if b = Ascii.quote then .ok rest
    else if b = Ascii.backslash then
      match h : skipEscape rest with
      | .error fault => .error fault
      | .ok after =>
        have : after.length < rest.length := skipEscape_length h
        skipText after
    else if b < 0x20 then .error .controlCharacter
    else skipText rest
termination_by input.length

/-- An exponent after its `e`, passed over. -/
def skipExponent (input : Payload) : Except Fault Payload :=
  let (digits, rest) := spanDigits (dropSign input)
  if digits = [] then .error .invalidNumber else .ok rest

/-- What may follow the digits of a skipped number. -/
def skipAfterDigits (input : Payload) : Except Fault Payload :=
  match input with
  | [] => .ok []
  | b :: rest => if Ascii.isExponent b then skipExponent rest else .ok input

/-- A number after its sign, passed over. -/
def skipNumber (input : Payload) : Except Fault Payload :=
  let (digits, rest) := spanDigits input
  if digits = [] ∨ (digits.head? = some Ascii.zero ∧ digits.length ≠ 1) then
    .error .invalidNumber
  else
    match after? Ascii.point rest with
    | none => skipAfterDigits rest
    | some rest =>
      let (fraction, rest) := spanDigits rest
      if fraction = [] then .error .invalidNumber else skipAfterDigits rest

/-- An enclosing list or object that has not been closed yet. -/
inductive Frame where
  | list
  | object
  deriving DecidableEq

namespace Frame

/-- The byte that closes the frame. -/
def close : Frame → UInt8
  | .list => Ascii.closeList
  | .object => Ascii.closeObject

/-- The refusal of an input that ends inside the frame. -/
def ended : Frame → Fault
  | .list => .endInList
  | .object => .endInObject

/-- The refusal of an element that no comma follows. -/
def unseparated : Frame → Fault
  | .list => .expectedListEnd
  | .object => .expectedObjectEnd

end Frame

/-- The colon between a key and its value. -/
def colon (input : Payload) : Except Fault Payload :=
  match skipBlank input with
  | [] => .error .endInObject
  | b :: rest => if b = Ascii.colon then .ok rest else .error .expectedColon

/-- The key of the next member of a frame, passed over together with its colon.  A list has no
keys. -/
def skipKey (frame : Frame) (input : Payload) : Except Fault Payload :=
  match frame with
  | .list => .ok input
  | .object =>
    match skipBlank input with
    | [] => .error .endInObject
    | b :: rest => if b = Ascii.quote then skipText rest >>= colon else .error .keyNotText

/-- A value that is neither a list nor an object, passed over. -/
def skipScalar (input : Payload) : Except Fault Payload :=
  match input with
  | [] => .error .endInValue
  | b :: rest =>
    if b = Ascii.lowerN then word nullRest rest
    else if b = Ascii.lowerT then word trueRest rest
    else if b = Ascii.lowerF then word falseRest rest
    else if b = Ascii.minus then skipNumber rest
    else if Ascii.isDigit b then skipNumber input
    else if b = Ascii.quote then skipText rest
    else .error .expectedValue

/-- Where a skipped value stands: before a value, or inside the innermost frame, where a comma
is allowed only after an element. -/
inductive SkipAt where
  | value
  | inside (afterElement : Bool)
  deriving DecidableEq

/-- Passes over the rest of a value inside the given frames, the innermost first.  The first
argument bounds the number of steps; each byte takes at most two. -/
def skipFrom : Nat → SkipAt → List Frame → Payload → Except Fault Payload
  | 0, _, _, _ => .error .endInValue
  | steps + 1, .value, frames, input =>
    match skipBlank input with
    | [] => .error .endInValue
    | b :: rest =>
      if b = Ascii.openList then skipFrom steps (.inside false) (.list :: frames) rest
      else if b = Ascii.openObject then skipFrom steps (.inside false) (.object :: frames) rest
      else do
        let rest ← skipScalar (b :: rest)
        skipFrom steps (.inside true) frames rest
  | _ + 1, .inside _, [], input => .ok input
  | steps + 1, .inside afterElement, frame :: frames, input =>
    match skipBlank input with
    | [] => .error frame.ended
    | b :: rest =>
      if b = Ascii.comma && afterElement then do
        let rest ← skipKey frame rest
        skipFrom steps .value (frame :: frames) rest
      else if b = frame.close then skipFrom steps (.inside true) frames rest
      else if afterElement then .error frame.unseparated
      else do
        let rest ← skipKey frame (b :: rest)
        skipFrom steps .value (frame :: frames) rest

/-- Passes over one value. -/
def skipValue (input : Payload) : Except Fault Payload :=
  skipFrom (2 * input.length + 2) .value [] input

end Gazette.Json
