/-!
Closed vocabularies: finite types whose members are written by name.
-/

set_option autoImplicit false
set_option relaxedAutoImplicit false

namespace Parley

/-- A finite type whose members have distinct names, listed in the order in which they are offered. -/
class Named (α : Type) where
  all : List α
  name : α → String

namespace Named

variable {α : Type} [Named α]

def ofName? (text : String) : Option α :=
  (all : List α).find? fun a => name a = text

def names (α : Type) [Named α] : List String :=
  (all : List α).map name

theorem name_of_ofName? {text : String} {a : α} (h : ofName? text = some a) : name a = text := by
  simpa using List.find?_some h

end Named

/-- Vocabularies whose lists are complete and whose names are distinct. -/
class LawfulNamed (α : Type) [Named α] : Prop where
  ofName?_name (a : α) : Named.ofName? (Named.name a) = some a

export LawfulNamed (ofName?_name)

end Parley
