import Parley.Random
import Parley.Talk.Context
import Parley.Talk.Diagnostic

/-!
The state that evaluation works on: the world, the random source, the open result frames and the log.
While a result is computed, a frame is open that takes the place of the reserved variable; a frame
opened inside it has a place of its own.
-/

set_option autoImplicit false
set_option relaxedAutoImplicit false

namespace Parley

/-- The state of an evaluation. The innermost frame comes first, the oldest diagnostic too. -/
structure State where
  world : World
  random : Random
  frames : List (Option String)
  log : List Diagnostic

abbrev Evaluation : Type → Type := StateM State

namespace State

def report (s : State) (d : Diagnostic) : State :=
  { s with log := s.log ++ [d] }

/-- The state with one more frame, into which nothing has been written. -/
def openFrame (s : State) : State :=
  { s with frames := none :: s.frames }

/-- What was written into the innermost frame, empty if nothing, and the state without that frame. -/
def closeFrame (s : State) : String × State :=
  match s.frames with
  | [] => ("", s)
  | frame :: rest => (frame.getD "", { s with frames := rest })

def factionText (s : State) (faction name : String) : String :=
  (s.world.factions.get? faction).elim "" (·.vars.get name)

/-- The text of a global variable. The reserved one is read from the innermost frame, if one is
open. -/
def globalText (s : State) (name : String) : String :=
  if name = Reference.tempName then
    match s.frames with
    | [] => s.world.globals.get name
    | frame :: _ => frame.getD ""
  else s.world.globals.get name

/-- The text of a variable, empty where there is none. -/
def read (s : State) (ctx : Context) (ref : Reference) : String :=
  match ref.scope with
  | .global => s.globalText ref.name
  | .primary => ctx.primary.elim "" fun h => s.world.actorText h ref.name
  | .secondary => ctx.secondary.elim "" fun h => s.world.actorText h ref.name
  | .faction => (ctx.faction? s.world .secondary).elim "" fun f => s.factionText f ref.name
  | .party => s.factionText World.playerFaction ref.name

/-- The state with a global variable written, or the innermost frame in place of the reserved one. -/
def writeGlobal (s : State) (name text : String) : State :=
  let inWorld := { s with world := { s.world with globals := s.world.globals.set name text } }
  if name = Reference.tempName then
    match s.frames with
    | [] => inWorld
    | _ :: rest => { s with frames := some text :: rest }
  else inWorld

def writeActor (s : State) (h : Handle) (name text : String) : State :=
  match s.world.actor? h, h with
  | some _, _ => { s with world := s.world.modifyVars h (·.set name text) }
  | none, .creature id => s.report (.missingCharacter name id)
  | none, .item place => s.report (.missingItem name place)

/-- The state with a variable of a faction written. A faction not known before becomes known. -/
def writeFaction (s : State) (faction name text : String) : State :=
  let old := (s.world.factions.get? faction).getD (.ofId faction)
  let new := { old with vars := old.vars.set name text }
  { s with world := { s.world with factions := s.world.factions.insert faction new } }

/-- The state with a variable written, those of actors and of a faction on behalf of a given actor. -/
def writeAs (s : State) (scope : Scope) (name : String) (who : Option Handle) (text : String) :
    State :=
  match scope with
  | .global => s.writeGlobal name text
  | .primary | .secondary =>
    match who with
    | some h => s.writeActor h name text
    | none => s.report (.noActor name scope)
  | .faction =>
    match (who.bind s.world.actor?).bind (·.faction?) with
    | some faction => s.writeFaction faction name text
    | none => s.report (.noFaction name)
  | .party => s.writeFaction World.playerFaction name text

def scopeHandle (ctx : Context) : Scope → Option Handle
  | .primary => ctx.primary
  | .secondary | .faction => ctx.secondary
  | .global | .party => none

def write (s : State) (ctx : Context) (ref : Reference) (text : String) : State :=
  s.writeAs ref.scope ref.name (scopeHandle ctx ref.scope) text

def draw (s : State) (a b : Int64) : Int64 × State :=
  let (value, random) := s.random.draw a b
  (value, { s with random })

end State

namespace Evaluation

def report (d : Diagnostic) : Evaluation PUnit :=
  modify (·.report d)

def read (ctx : Context) (ref : Reference) : Evaluation String := do
  return (← get).read ctx ref

def write (ctx : Context) (ref : Reference) (text : String) : Evaluation PUnit :=
  modify (·.write ctx ref text)

def openFrame : Evaluation PUnit :=
  modify (·.openFrame)

def closeFrame : Evaluation String :=
  modifyGet (·.closeFrame)

def draw (a b : Int64) : Evaluation Int64 :=
  modifyGet (·.draw a b)

def ask {α : Type} (f : World → α) : Evaluation α := do
  return f (← get).world

end Evaluation

end Parley
