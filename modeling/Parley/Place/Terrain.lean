import Parley.Collection.Dict
import Parley.Place.Point

/-!
What is known of the map: terrain, fields and roofs of squares, terrain, safety and camps of tiles.
-/

set_option autoImplicit false
set_option relaxedAutoImplicit false

namespace Parley

structure Terrain where
  ground : Dict Square String
  fields : Dict Square (List String)
  indoors : KeySet Square
  overmap : Dict Tile String
  safe : KeySet Tile
  camps : KeySet Tile
  deriving DecidableEq

namespace Terrain

def empty : Terrain :=
  ⟨∅, ∅, ∅, ∅, ∅, ∅⟩

/-- The terrain of a square, dirt where none is known. -/
def groundAt (t : Terrain) (s : Square) : String :=
  (t.ground.get? s).getD "t_dirt"

def hasField (t : Terrain) (s : Square) (field : String) : Bool :=
  ((t.fields.get? s).getD []).contains field

def isOutside (t : Terrain) (s : Square) : Bool :=
  !t.indoors.contains s

/-- The terrain of a tile, field where none is known. -/
def overmapAt (t : Terrain) (p : Tile) : String :=
  (t.overmap.get? p).getD "field"

def isSafe (t : Terrain) (p : Tile) : Bool :=
  t.safe.contains p

def hasCamp (t : Terrain) (p : Tile) : Bool :=
  t.camps.contains p

def anyCamp : String := "FACTION_CAMP_ANY"

/-- Whether a tile is at a location: has a camp, or has that terrain. -/
def isAt (t : Terrain) (p : Tile) (location : String) : Bool :=
  if location = anyCamp then t.hasCamp p else t.overmapAt p == location

/-- Whether some tile of the same level at most `range` away is at a location. -/
def isNear (t : Terrain) (p : Tile) (location : String) (range : Int) : Bool :=
  p.anyWithin range fun q => t.isAt q location

end Terrain

end Parley
