import Parley.Entity.Variables
import Parley.Uuid

/-!
Items: single things, or stacks of charges of one type.
-/

set_option autoImplicit false
set_option relaxedAutoImplicit false

namespace Parley

/-- A thing that lies on the ground or is held by a character. -/
structure Item where
  id : EntityId
  typeId : String
  name : String
  category : String
  flags : KeySet String
  charges : UInt32
  owner : Option String
  vars : Variables
  deriving DecidableEq

namespace Item

/-- An item of a type with nothing special about it, named after the type. -/
def ofType (typeId : String) : Item where
  id := default
  typeId := typeId
  name := String.ofList (typeId.toList.map fun c => if c = '_' then ' ' else c)
  category := "other"
  flags := ∅
  charges := 1
  owner := none
  vars := .none

def hasFlag (i : Item) (flag : String) : Bool :=
  i.flags.contains flag

end Item

end Parley
