import RepoCollector.Json.Token

/-!
# JSON values

A value is read from its words by a machine with a stack of open arrays and objects.  The machine
takes one word at a time, so reading is a fold over the words: `Reading.take` is the step, and a
text is a value when the last word leaves the machine with a finished one.

Members of an object stay in their order, and a key may occur more than once: what a repeated key
means is for the reader of the value to say.
-/

namespace RepoCollector

/-- A JSON value.  Numbers keep their spelling, and strings and keys keep their pieces. -/
inductive Json where
  | null
  | bool (value : Bool)
  | number (lexeme : List Char)
  | string (pieces : List Json.Piece)
  | array (items : List Json)
  | object (members : List (List Json.Piece × Json))
deriving Inhabited

namespace Json

/-- An array or object that is still open, what it holds so far last first. -/
inductive Frame where
  | array (items : List Json)
  | object (members : List (List Piece × Json))
  | member (key : List Piece)

/-- What the next word may be. -/
inductive Expect where
  /-- A value. -/
  | value
  /-- A value or the end of an array just opened. -/
  | firstItem
  /-- A key or the end of an object just opened. -/
  | firstKey
  /-- A key. -/
  | key
  /-- The colon after a key. -/
  | colon
  /-- A comma or the end of the innermost open array or object. -/
  | separator
  /-- Nothing: the value is complete. -/
  | nothing (value : Json)

/-- The state of the machine: what is open, innermost first, and what may come. -/
structure Reading where
  frames : List Frame
  expect : Expect

namespace Reading

/-- The machine before the first word. -/
def start : Reading := ⟨[], .value⟩

/-- Hands a finished value to the innermost open array or object. -/
def deliver (value : Json) : List Frame → Option Reading
  | [] => some ⟨[], .nothing value⟩
  | .array items :: frames => some ⟨.array (value :: items) :: frames, .separator⟩
  | .member key :: .object members :: frames =>
    some ⟨.object ((key, value) :: members) :: frames, .separator⟩
  | _ => none

/-- Takes a word that begins or is a value. -/
def takeValue (frames : List Frame) : Token → Option Reading
  | .null => deliver .null frames
  | .bool value => deliver (.bool value) frames
  | .number lexeme => deliver (.number lexeme) frames
  | .string pieces => deliver (.string pieces) frames
  | .openArray => some ⟨.array [] :: frames, .firstItem⟩
  | .openObject => some ⟨.object [] :: frames, .firstKey⟩
  | _ => none

/-- Takes the key of a member. -/
def takeKey (frames : List Frame) : Token → Option Reading
  | .string key => some ⟨.member key :: frames, .colon⟩
  | _ => none

/-- Closes the innermost array or object. -/
def close : List Frame → Token → Option Reading
  | .array items :: frames, .closeArray => deliver (.array items.reverse) frames
  | .object members :: frames, .closeObject => deliver (.object members.reverse) frames
  | _, _ => none

/-- Takes what comes after an item or a member. -/
def takeSeparator : List Frame → Token → Option Reading
  | .array items :: frames, .comma => some ⟨.array items :: frames, .value⟩
  | .object members :: frames, .comma => some ⟨.object members :: frames, .key⟩
  | frames, token => close frames token

/-- Takes one word, if it may come here. -/
def take (state : Reading) (token : Token) : Option Reading :=
  match state.expect with
  | .value => takeValue state.frames token
  | .firstItem =>
    if token = .closeArray then close state.frames token else takeValue state.frames token
  | .firstKey =>
    if token = .closeObject then close state.frames token else takeKey state.frames token
  | .key => takeKey state.frames token
  | .colon => if token = .colon then some ⟨state.frames, .value⟩ else none
  | .separator => takeSeparator state.frames token
  | .nothing _ => none

/-- Takes words one after the other. -/
def takeAll (state : Reading) : List Token → Option Reading
  | [] => some state
  | token :: tokens => (state.take token).bind (takeAll · tokens)

/-- The value that has been read, if it is complete. -/
def result? (state : Reading) : Option Json :=
  match state.expect with
  | .nothing value => some value
  | _ => none

end Reading

/-- The value written by a text, white space around it allowed. -/
def ofText? (text : List Char) : Option Json := do
  let tokens ← words text
  let state ← Reading.start.takeAll tokens
  state.result?

end Json

end RepoCollector
