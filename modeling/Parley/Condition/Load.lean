import Parley.Condition.Catalog
import Parley.Condition.Syntax
import Parley.Value.Load

/-!
Compilation of conditions. A condition is a truth value, a bare key, or an object with exactly one
member that is a key of the catalog; the other members of the object are arguments or ignored.
-/

set_option autoImplicit false
set_option relaxedAutoImplicit false

namespace Parley

namespace Source

/-- Compiles some sources one after another. -/
def loadAll (k : Kind) (member : String) : List Json → Loaded (List (Source k))
  | [] => .ok []
  | json :: rest =>
    match Source.load k json member with
    | .error e => .error e
    | .ok value => (loadAll k member rest).map (value :: ·)

end Source

namespace Test

def loadComparison (ms : Json.Members) : Loaded Comparison := do
  Comparison.parse (← ms.string "op")

def loadReference (ms : Json.Members) (member : String) (slot : Slot) : Loaded Reference := do
  return ⟨Operand.scopeOf slot, ← Reference.loadName ms member, none⟩

/-- Compiles the level of fatigue that is named, or the amount. -/
def loadNeedLevel (ms : Json.Members) : Loaded (Ranged .integer) :=
  if ms.has "level" then do
    let level ← ms.choice FatigueLevel "level"
    return .single (.literal level.threshold)
  else Ranged.loadMember .integer ms "amount" none

/-- Compiles the amount that items or their charges have to reach. -/
def loadItems (member : String) (slot : Slot) (ms : Json.Members) : Loaded Test := do
  let item ← Source.loadMember .text ms "item" none
  if ms.has "count" then
    return .count slot .items item (← Ranged.loadMember .integer ms "count" none)
  else if ms.has "charges" then
    return .count slot .charges item (← Ranged.loadMember .integer ms "charges" none)
  else .error (.expected member .countOrCharges)

def twoValues (ms : Json.Members) (member : String) : Loaded (Json × Json) := do
  match ← ms.arrayAt member with
  | [l, r] => return (l, r)
  | _ => .error (.expected member .twoValues)

/-- Compiles the arguments of a key, which are under the key itself and beside it. -/
def load (ms : Json.Members) (key : String) (slot : Slot) : Arguments → Loaded Test
  | .anyTrait => do
    return .anyTrait slot (← Source.loadAll .text key (← ms.arrayAt key))
  | .text q => do
    return .text slot q (← Source.loadMember .text ms key none)
  | .prompt => do
    let message ← Source.loadMember .text ms key none
    return .text slot (.prompt (← ms.bool "default")) message
  | .level q => do
    return .level slot q (← Ranged.loadMember .integer ms key none)
  | .hitPoints => do
    let level ← Ranged.loadMember .integer ms key none
    return .level slot (.hitPoints (← loadBodyPart ms)) level
  | .need => do
    let need ← ms.choice Need key
    return .level slot (.need need) (← loadNeedLevel ms)
  | .items => do
    loadItems key slot (← ms.objectAt key)
  | .category => do
    let category ← Source.loadMember .text ms key none
    return .count slot .category category (← Ranged.loadMember .integer ms "count" (some 1))
  | .effect => do
    let effectId ← Source.loadMember .text ms key none
    let intensity ← Ranged.loadMember .integer ms "intensity" (some CountQuery.anyIntensity)
    return .count slot (.effect (← loadBodyPart ms)) effectId intensity
  | .nearLocation => do
    let location ← Source.loadMember .text ms key none
    return .count slot .nearLocation location (← Ranged.loadMember .integer ms "range" (some 1))
  | .skill => do
    let params ← ms.objectAt key
    let skill ← Source.loadMember .text params "skill" none
    return .count slot .skill skill (← Ranged.loadMember .integer params "level" none)
  | .direction => do
    return .fact slot (.monstersToward (← ms.choice Direction key))
  | .aimRule => do
    return .fact slot (.aimRule (← ms.choice AimRule key))
  | .engagementRule => do
    return .fact slot (.engagementRule (← ms.choice EngagementRule key))
  | .reserveRule => do
    return .fact slot (.reserveRule (← ms.choice ReserveRule key))
  | .rechargeRule => do
    return .fact slot (.rechargeRule (← ms.choice RechargeRule key))
  | .season => do
    return .fact slot (.season (← ms.choice Season key))
  | .missionGoal => do
    return .fact slot (.missionGoal (← ms.choice MissionGoal key))
  | .variableIs => do
    let ref ← loadReference ms key slot
    return .variableIs ref (← ms.stringOr "value" "")
  | .compareVariable => do
    let ref ← loadReference ms key slot
    let c ← loadComparison ms
    return .compareVariable ref c (← Ranged.loadMember .integer ms "value" none)
  | .compareElapsed => do
    let ref ← loadReference ms key slot
    let c ← loadComparison ms
    return .compareElapsed ref c (← Ranged.loadMember .duration ms "time" none)
  | .oneIn => do
    return .oneIn (← Ranged.loadMember .integer ms key none)
  | .xInY => do
    let params ← ms.objectAt key
    let x ← Ranged.loadMember .integer params "x" none
    return .xInY x (← Ranged.loadMember .integer params "y" none)
  | .compareIntegers => do
    let (l, r) ← twoValues ms key
    let a ← Operand.load l key
    let b ← Operand.load r key
    return .compareIntegers (← loadComparison ms) a b
  | .compareTexts => do
    let (l, r) ← twoValues ms key
    let a ← Source.load .text l key
    return .compareTexts a (← Source.load .text r key)

end Test

namespace Condition

def loadKey (key : String) : Loaded Condition :=
  match key with
  | "true" => .ok (.constant true)
  | "false" => .ok (.constant false)
  | key =>
    match Catalog.fact? key with
    | some (slot, q) => .ok (.test (.fact slot q))
    | none =>
      if Catalog.takesArguments key then .error (.missingArguments key)
      else .error (.unknownCondition key)

def keysOf (ms : Json.Members) : List String :=
  ms.names.filter Catalog.isKey

mutual

/-- Compiles a truth value, a bare key or an object. -/
def load (json : Json) : Loaded Condition :=
  match json with
  | .bool b => .ok (.constant b)
  | .string key => loadKey key
  | .object ms => loadObject ms
  | _ => .error (.invalidValue "condition" (.expectedCondition json))
  termination_by 2 * sizeOf json

def loadObject (ms : Json.Members) : Loaded Condition :=
  match keysOf ms with
  | [] => .error (.unknownCondition (", ".intercalate ms.names))
  | [key] =>
    match Catalog.combinator? key with
    | some combinator =>
      match h : ms.get? key with
      | none => .error (.missingMember key)
      | some value =>
        have := Json.Members.sizeOf_lt_of_get? h
        match combinator with
        | .negate => (load value).map .negate
        | .all => (loadItems key value).map .all
        | .any => (loadItems key value).map .any
    | none =>
      match Catalog.arguments? key with
      | some (slot, arguments) => (Test.load ms key slot arguments).map .test
      | none => loadKey key
  | keys => .error (.conflictingConditions keys)
  termination_by 2 * sizeOf ms

/-- Compiles the conditions of an array, which a combinator takes. -/
def loadItems (key : String) (value : Json) : Loaded (List Condition) :=
  match value with
  | .array items => loadAll items
  | _ => .error (.expected key .array)
  termination_by 2 * sizeOf value + 1

/-- Compiles some conditions one after another. -/
def loadAll (items : List Json) : Loaded (List Condition) :=
  match items with
  | [] => .ok []
  | item :: rest =>
    match load item with
    | .error e => .error e
    | .ok condition => (loadAll rest).map (condition :: ·)
  termination_by 2 * sizeOf items

end

/-- Compiles the condition under a member, a constant if there is none. -/
def loadMember (ms : Json.Members) (member : String) (default : Bool) : Loaded Condition :=
  match ms.get? member with
  | some json => load json
  | none => .ok (.constant default)

end Condition

end Parley
