import Parley.Collection.Dict

/-!
Stored variables: texts under names. A name without a text reads as the empty text.
-/

set_option autoImplicit false
set_option relaxedAutoImplicit false

namespace Parley

/-- The variables of the world, a character, an item or a faction. -/
structure Variables where
  texts : Dict String String
  deriving DecidableEq, Inhabited

namespace Variables

def none : Variables := ⟨∅⟩

def get (v : Variables) (name : String) : String :=
  (v.texts.get? name).getD ""

def set (v : Variables) (name text : String) : Variables :=
  ⟨v.texts.insert name text⟩

def erase (v : Variables) (name : String) : Variables :=
  ⟨v.texts.erase name⟩

/-- Whether a variable has a text, possibly an empty one. -/
def contains (v : Variables) (name : String) : Bool :=
  v.texts.contains name

theorem get_set (v : Variables) (name name' text : String) :
    (v.set name' text).get name = if name' = name then text else v.get name := by
  simp only [get, set, Dict.get?_insert]
  split <;> rfl

theorem get_erase (v : Variables) (name name' : String) :
    (v.erase name').get name = if name' = name then "" else v.get name := by
  simp only [get, erase, Dict.get?_erase]
  split <;> rfl

theorem set_set (v : Variables) (name text text' : String) :
    (v.set name text).set name text' = v.set name text' := by
  simp only [set, mk.injEq]
  refine Dict.ext_get? fun k => ?_
  simp only [Dict.get?_insert]
  split <;> rfl

end Variables

end Parley
