import Parley.Json.Token

/-!
Reading JSON text. The tokens are taken one after another by a machine that keeps the open arrays and
objects on a stack, no more than 127 of them.
-/

set_option autoImplicit false
set_option relaxedAutoImplicit false

namespace Parley.Json

/-- An array or object whose end has not been read. Its parts are listed backwards. -/
inductive Frame
  | array (items : List Json)
  | object (members : Members) (name : String)

/-- What has to come next, or the finished value. -/
inductive Expectation
  | value
  | firstItem
  | firstMember
  | member (members : Members)
  | colon (members : Members) (name : String)
  | separator
  | nothing (value : Json)

/-- A point in the reading of a text: the open frames, the innermost first, and what has to follow. -/
structure Reading where
  frames : List Frame
  expectation : Expectation

namespace Reading

def maxDepth : Nat := 127

def start : Reading := ⟨[], .value⟩

/-- Takes a complete value where a value is expected. -/
def plug (frames : List Frame) (value : Json) : Reading :=
  match frames with
  | [] => ⟨[], .nothing value⟩
  | .array items :: rest => ⟨.array (value :: items) :: rest, .separator⟩
  | .object members name :: rest => ⟨.object ((name, value) :: members) name :: rest, .separator⟩

/-- Takes the first token of a value. -/
def begin? (frames : List Frame) (token : Token) : Option Reading :=
  match token with
  | .leaf value => some (plug frames value)
  | .openArray =>
    if frames.length < maxDepth then some ⟨.array [] :: frames, .firstItem⟩ else none
  | .openObject =>
    if frames.length < maxDepth then some ⟨.object [] "" :: frames, .firstMember⟩ else none
  | _ => none

def step? (r : Reading) (token : Token) : Option Reading :=
  match r.expectation, token, r.frames with
  | .value, token, frames => begin? frames token
  | .firstItem, .closeArray, _ :: frames => some (plug frames (.array []))
  | .firstItem, token, frames => begin? frames token
  | .firstMember, .closeObject, _ :: frames => some (plug frames (.object []))
  | .firstMember, .leaf (.string name), frames => some ⟨frames, .colon [] name⟩
  | .member members, .leaf (.string name), frames => some ⟨frames, .colon members name⟩
  | .colon members name, .colon, _ :: frames => some ⟨.object members name :: frames, .value⟩
  | .separator, .comma, .array _ :: _ => some ⟨r.frames, .value⟩
  | .separator, .closeArray, .array items :: frames => some (plug frames (.array items.reverse))
  | .separator, .comma, .object members _ :: _ => some ⟨r.frames, .member members⟩
  | .separator, .closeObject, .object members _ :: frames =>
    some (plug frames (ofMembers members.reverse))
  | _, _, _ => none

def finish? (r : Reading) : Option Json :=
  match r.expectation with
  | .nothing value => some value
  | _ => none

end Reading

def parse? (text : String) : Option Json := do
  let tokens ← Token.scan? text.toList
  (← tokens.foldlM Reading.step? Reading.start).finish?

end Parley.Json
