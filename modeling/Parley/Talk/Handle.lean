import Parley.World.Basic

/-!
The actors of a conversation, creatures and items, and how they are found in the world. A handle that
finds nothing is an actor without name, variables, flags and faction.
-/

set_option autoImplicit false
set_option relaxedAutoImplicit false

namespace Parley

/-- Where an item is: on the ground or held by a character. -/
inductive ItemPlace
  | ground (item : EntityId)
  | carried (owner item : EntityId)
  deriving DecidableEq

def ItemPlace.text : ItemPlace → String
  | .ground item => "Ground(EntityId(" ++ item.text ++ "))"
  | .carried owner item =>
    "Carried \x7b owner: EntityId(" ++ owner.text ++ "), item: EntityId(" ++ item.text ++ ") \x7d"

inductive Handle
  | creature (id : EntityId)
  | item (place : ItemPlace)
  deriving DecidableEq

/-- What a handle stands for. -/
inductive Actor
  | creature (c : Character)
  | item (i : Item)

namespace Actor

def name : Actor → String
  | .creature c => c.name
  | .item i => i.name

def vars : Actor → Variables
  | .creature c => c.vars
  | .item i => i.vars

def hasFlag : Actor → String → Bool
  | .creature c => c.hasFlag
  | .item i => i.hasFlag

/-- The faction of an actor: of one without a profile the player's, of an item the owner's. -/
def faction? : Actor → Option String
  | .creature c => c.profile.elim (some World.playerFaction) (·.faction)
  | .item i => i.owner

def character? : Actor → Option Character
  | .creature c => some c
  | .item _ => none

def item? : Actor → Option Item
  | .creature _ => none
  | .item i => some i

end Actor

namespace World

def itemAt? (w : World) : ItemPlace → Option Item
  | .ground id => (w.items.get? id).map (·.item)
  | .carried owner id => (w.character? owner).bind (·.item? id)

def actor? (w : World) : Handle → Option Actor
  | .creature id => (w.character? id).map .creature
  | .item place => (w.itemAt? place).map .item

/-- Where an actor is. What is carried is where its owner is. -/
def position? (w : World) : Handle → Option Square
  | .creature id => (w.character? id).map (·.position)
  | .item (.ground id) => (w.items.get? id).map (·.position)
  | .item (.carried owner _) => (w.character? owner).map (·.position)

/-- Changes the variables of an actor, if there is one. -/
def modifyVars (w : World) (h : Handle) (f : Variables → Variables) : World :=
  match h with
  | .creature id =>
    { w with characters := w.characters.modify id fun c => { c with vars := f c.vars } }
  | .item (.ground id) =>
    { w with items := w.items.modify id fun l =>
        { l with item := { l.item with vars := f l.item.vars } } }
  | .item (.carried owner id) =>
    { w with characters := w.characters.modify owner fun c =>
        { c with inventory := c.inventory.modify id fun i => { i with vars := f i.vars } } }

def actorText (w : World) (h : Handle) (name : String) : String :=
  (w.actor? h).elim "" (·.vars.get name)

def actorName (w : World) (h : Handle) : String :=
  (w.actor? h).elim "" (·.name)

/-- Whether the actor that a handle stands for has a flag. -/
def actorHasFlag (w : World) (h : Handle) (flag : String) : Bool :=
  (w.actor? h).any (·.hasFlag flag)

/-- The faction of the actor that a handle stands for. -/
def actorFaction? (w : World) (h : Handle) : Option String :=
  (w.actor? h).bind (·.faction?)

def actorCharacter? (w : World) (h : Handle) : Option Character :=
  (w.actor? h).bind (·.character?)

def actorItem? (w : World) (h : Handle) : Option Item :=
  (w.actor? h).bind (·.item?)

def forget (w : World) (h : Handle) (name : String) : World :=
  w.modifyVars h (·.erase name)

end World

end Parley
