import Parley.Record.Entity

/-!
The written form of a world. The keys of an object are texts, and places on the map have no text, so a
world with known terrain, fields or overmap terrain cannot be written.
-/

set_option autoImplicit false
set_option relaxedAutoImplicit false

namespace Parley

open Record

/-- Writes a dictionary whose keys have no text, which has to be empty. -/
def writeUnkeyed? {κ ν : Type} [Ord κ] (d : Dict κ ν) : Option Json :=
  if d.isEmpty then some (.object []) else none

/-- Reads a dictionary whose keys have no text, which has to be empty. -/
def readUnkeyed? {κ ν : Type} [Ord κ] : Record.Field → Option (Dict κ ν)
  | .given (.object []) => some ∅
  | _ => none

namespace Terrain

def write? (t : Terrain) : Option Json := do
  let ground ← writeUnkeyed? t.ground
  let fields ← writeUnkeyed? t.fields
  let overmap ← writeUnkeyed? t.overmap
  return .ofMembers
    [("terrain", ground), ("fields", fields), ("indoors", write t.indoors), ("overmap", overmap),
      ("safe_tiles", write t.safe), ("camps", write t.camps)]

def read? (json : Json) : Option Terrain := do
  let f ← fields? ["terrain", "fields", "indoors", "overmap", "safe_tiles", "camps"] json
  let ground ← readUnkeyed? (f "terrain")
  let fields ← readUnkeyed? (f "fields")
  let indoors ← (f "indoors").required?
  let overmap ← readUnkeyed? (f "overmap")
  let safe ← (f "safe_tiles").required?
  let camps ← (f "camps").required?
  return { ground, fields, indoors, overmap, safe, camps }

end Terrain

namespace World

def write? (w : World) : Option Json := do
  let terrain ← w.terrain.write?
  return .ofMembers
    [("calendar", write w.calendar), ("environment", write w.environment), ("map", terrain),
      ("characters", write w.characters), ("player_id", write w.playerId),
      ("items", write w.items), ("monsters", write w.monsters), ("missions", write w.missions),
      ("factions", write w.factions), ("globals", write w.globals),
      ("query_answers", write w.answers)]

def read? (json : Json) : Option World := do
  let f ← fields?
    ["calendar", "environment", "map", "characters", "player_id", "items", "monsters",
      "missions", "factions", "globals", "query_answers"] json
  let calendar ← (f "calendar").required?
  let environment ← (f "environment").required?
  let terrain ← match f "map" with
    | .given value => Terrain.read? value
    | _ => none
  let characters ← (f "characters").required?
  let playerId ← (f "player_id").optional?
  let items ← (f "items").required?
  let monsters ← (f "monsters").required?
  let missions ← (f "missions").required?
  let factions ← (f "factions").required?
  let globals ← (f "globals").required?
  let answers ← (f "query_answers").required?
  return { calendar, environment, terrain, characters, playerId, items, monsters, missions,
           factions, globals, answers }

end World

end Parley
