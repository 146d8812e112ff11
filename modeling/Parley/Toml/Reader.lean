import Parley.Toml.Moment
import Parley.Toml.Table

/-!
Reading TOML documents as JSON values.
-/

set_option autoImplicit false
set_option relaxedAutoImplicit false

namespace Parley.Toml

def maxDepth : Nat := 79

mutual

def value? (fuel depth : Nat) (cs : List Char) : Option (Json × List Char) :=
  match fuel, depth with
  | 0, _ => none
  | fuel + 1, depth =>
    match cs, depth with
    | '[' :: rest, depth + 1 => (items? fuel depth rest).map fun r => (.array r.1, r.2)
    | '\x7b' :: rest, depth + 1 =>
      match skipBlanks rest with
      | '\x7d' :: rest => some (.object [], rest)
      | rest => (pairs? fuel depth .empty rest).map fun r => (r.1.toJson, r.2)
    | '"' :: _, _ | '\'' :: _, _ => (string? cs).map fun r => (.string r.1, r.2)
    | _, _ =>
      match moment? cs with
      | some (moment, rest) => some (moment.toJson, rest)
      | none => (plain? (cs.takeWhile isPlain)).map fun json => (json, cs.dropWhile isPlain)

/-- The items of an array, up to its end. -/
def items? (fuel depth : Nat) (cs : List Char) : Option (List Json × List Char) :=
  match fuel with
  | 0 => none
  | fuel + 1 =>
    match skipLines cs with
    | ']' :: rest => some ([], rest)
    | start =>
      match value? fuel depth start with
      | none => none
      | some (json, rest) =>
        match skipLines rest with
        | ']' :: rest => some ([json], rest)
        | ',' :: rest => (items? fuel depth rest).map fun r => (json :: r.1, r.2)
        | _ => none

/-- The keys of an inline table with their values, up to its end. -/
def pairs? (fuel depth : Nat) (table : Node) (cs : List Char) : Option (Node × List Char) :=
  match fuel with
  | 0 => none
  | fuel + 1 =>
    match key? cs with
    | some (path, '=' :: rest) =>
      match value? fuel depth (skipBlanks rest) with
      | none => none
      | some (json, rest) =>
        match Node.set? path.dropLast (path.getLast?.getD "") json table with
        | none => none
        | some table =>
          match skipBlanks rest with
          | '\x7d' :: rest => some (table, rest)
          | ',' :: rest => pairs? fuel depth table rest
          | _ => none
    | _ => none

end

/-- A document as far as it has been read: its tables, and the header under which keys are set. -/
structure Document where
  root : Node
  header : List String

namespace Document

def start : Document := ⟨.empty, []⟩

/-- Takes the header of a table, after its opening bracket. -/
def header? (d : Document) (cs : List Char) : Option (Document × List Char) := do
  let (path, rest) ← key? cs
  let root ← d.root.start? path.dropLast (path.getLast?.getD "")
  match rest with
  | ']' :: rest => return (⟨root, path⟩, rest)
  | _ => none

/-- Takes the header of a table of an array, after its opening brackets. -/
def arrayHeader? (d : Document) (cs : List Char) : Option (Document × List Char) := do
  let (path, rest) ← key? cs
  let root ← d.root.append? path.dropLast (path.getLast?.getD "")
  match rest with
  | ']' :: ']' :: rest => return (⟨root, path⟩, rest)
  | _ => none

def pair? (d : Document) (cs : List Char) : Option (Document × List Char) := do
  match ← key? cs with
  | (path, '=' :: rest) =>
    let (json, rest) ← value? (2 * rest.length + 2) maxDepth (skipBlanks rest)
    let root ←
      d.root.alter false (Node.set? path.dropLast (path.getLast?.getD "") json) d.header
    return ({ d with root }, rest)
  | _ => none

/-- Takes the lines of a text. The fuel is more than the length of the text. -/
def lines? (d : Document) : Nat → List Char → Option Document
  | 0, _ => none
  | fuel + 1, cs =>
    let taken : Option (Document × List Char) :=
      match skipBlanks cs with
      | [] => some (d, [])
      | '#' :: rest => some (d, '#' :: rest)
      | '\n' :: rest => some (d, '\n' :: rest)
      | '\r' :: rest => some (d, '\r' :: rest)
      | '[' :: '[' :: rest => d.arrayHeader? rest
      | '[' :: rest => d.header? rest
      | rest => d.pair? rest
    match taken with
    | none => none
    | some (d, rest) =>
      match skipComment (skipBlanks rest) with
      | [] => some d
      | rest =>
        match lineBreak? rest with
        | none => none
        | some rest => lines? d fuel rest

end Document

/-- Reads a document, after a byte order mark if there is one. -/
def parse? (text : String) : Option Json :=
  let cs := match text.toList with
    | '\ufeff' :: rest => rest
    | cs => cs
  (Document.start.lines? (cs.length + 1) cs).map (·.root.toJson)

end Parley.Toml
