import Parley.Json.Basic

/-!
The tables of a TOML document while it is read. A table remembers how it came about, because that
decides whether it may be given more keys.
-/

set_option autoImplicit false
set_option relaxedAutoImplicit false

namespace Parley.Toml

/-- What is stored under a key: a finished value, a table, or an array of tables, the newest first. A
table is implicit until a header names it, and dotted if a dotted key made it. -/
inductive Node
  | value (json : Json)
  | table (isImplicit isDotted : Bool) (members : List (String × Node))
  | tables (items : List (List (String × Node)))

namespace Node

def empty : Node := .table false false []

mutual

def toJson : Node → Json
  | .value json => json
  | .table _ _ members => .ofMembers (membersToJson members)
  | .tables items => .array (itemsToJson items).reverse

def membersToJson : List (String × Node) → Json.Members
  | [] => []
  | (name, node) :: rest => (name, toJson node) :: membersToJson rest

def itemsToJson : List (List (String × Node)) → List Json
  | [] => []
  | members :: rest => .ofMembers (membersToJson members) :: itemsToJson rest

end

/-- Changes the table at the end of a path, making tables on the way. Of an array of tables the newest
is meant. A dotted path does not lead through tables that a header has named. -/
def alter (isDotted : Bool) (f : Node → Option Node) : List String → Node → Option Node
  | [], node => f node
  | name :: path, .table i d members =>
    match Entries.find? name members with
    | none =>
      (alter isDotted f path (.table true isDotted [])).map fun child =>
        .table i d (Entries.insert name child members)
    | some (.table i' d' members') =>
      if isDotted && !i' then none
      else
        (alter isDotted f path (.table i' d' members')).map fun child =>
          .table i d (Entries.insert name child members)
    | some (.tables (newest :: items)) =>
      match alter isDotted f path (.table false false newest) with
      | some (.table _ _ newest) =>
        some (.table i d (Entries.insert name (.tables (newest :: items)) members))
      | _ => none
    | some _ => none
  | _, _ => none

/-- Sets a key, which may be dotted, in a table. A key is set once. -/
def set? (path : List String) (name : String) (json : Json) : Node → Option Node :=
  alter true
    (fun node =>
      match node with
      | .table i d members =>
        if d == path.isEmpty || (Entries.find? name members).isSome then none
        else some (.table i d (Entries.insert name (.value json) members))
      | _ => none)
    path

/-- Starts the table of a header. It may exist only for the sake of tables inside it. -/
def start? (path : List String) (name : String) : Node → Option Node :=
  alter false
    (fun node =>
      match node with
      | .table i d members =>
        match Entries.find? name members with
        | none => some (.table i d (Entries.insert name .empty members))
        | some (.table true false inner) =>
          some (.table i d (Entries.insert name (.table false false inner) members))
        | some _ => none
      | _ => none)
    path

def append? (path : List String) (name : String) : Node → Option Node :=
  alter false
    (fun node =>
      match node with
      | .table i d members =>
        match Entries.find? name members with
        | none => some (.table i d (Entries.insert name (.tables [[]]) members))
        | some (.tables items) =>
          some (.table i d (Entries.insert name (.tables ([] :: items)) members))
        | some _ => none
      | _ => none)
    path

end Node

end Parley.Toml
