import Parley.Content.Access
import Parley.Value.Syntax

/-!
Compilation of values and effects from content. Each part of the content is looked at in a fixed order,
so that of several defects the same one is always found.
-/

set_option autoImplicit false
set_option relaxedAutoImplicit false

namespace Parley

/-- Reads a literal of a kind. A duration is a count of turns or a text with units; it must not be
negative. -/
def Kind.literal (k : Kind) (json : Json) (member : String) : Loaded k.Value :=
  match k with
  | .text => json.asString member
  | .integer => json.asInt32 member
  | .duration =>
    let written : Loaded Duration :=
      match json with
      | .string s => (Duration.parse s).mapError (.duration member)
      | _ => (json.asInt member).map Duration.mk
    match written with
    | .error e => .error e
    | .ok d =>
      if d.turns < 0 then .error (.invalidValue member (.unreadable (.negative d))) else .ok d

def Kind.loadDefault (k : Kind) (ms : Json.Members) : Loaded (Option k.Value) :=
  match ms.get? "default" with
  | none => .ok none
  | some json => (k.literal json "default").map some

/-- The part of the body that "bodypart" names, if it is written. -/
def loadBodyPart (ms : Json.Members) : Loaded (Option BodyPart) :=
  ms.choice? BodyPart "bodypart"

def Attribute.ofKeyword? : String → Option Attribute
  | "strength" => some .strength
  | "dexterity" => some .dexterity
  | "intelligence" => some .intelligence
  | "perception" => some .perception
  | "pain" => some .pain
  | "power" => some .power
  | "focus" => some .focus
  | "morale" => some .morale
  | "hunger" => some (.need .hunger)
  | "thirst" => some (.need .thirst)
  | "fatigue" => some (.need .fatigue)
  | "height" => some .height
  | "cash" => some .cash
  | "owed" => some .owed
  | _ => none

namespace Operand

def scopeOf : Slot → Scope
  | .primary => .primary
  | .secondary => .secondary

/-- Reads the reference to an actor's variable, whose default has to be an integer. -/
def loadVariable (ms : Json.Members) (slot : Slot) : Loaded Reference := do
  let name ← Reference.loadName ms "var_name"
  match ms.get? "default" with
  | none => return ⟨scopeOf slot, name, none⟩
  | some json =>
    let n ← json.asInt32 "default"
    return ⟨scopeOf slot, name, some (Numeral.text n.toInt)⟩

/-- Reads what a keyword asks for of the actor in a role; none for a word that asks for nothing. -/
def loadKeyword (ms : Json.Members) (slot : Slot) (keyword : String) : Loaded (Option Operand) :=
  match Attribute.ofKeyword? keyword with
  | some a => .ok (some (.creature slot (.attribute a)))
  | none =>
    match keyword with
    | "hp" => do
      let part ← loadBodyPart ms
      return some (.creature slot (.hitPoints part))
    | "skill_level" => do
      let skill ← ms.string "skill"
      return some (.creature slot (.skill skill))
    | "effect_intensity" => do
      let effectId ← ms.string "effect"
      let part ← loadBodyPart ms
      return some (.creature slot (.intensity effectId part))
    | "pos_x" => .ok (some (.coordinate slot .x))
    | "pos_y" => .ok (some (.coordinate slot .y))
    | "pos_z" => .ok (some (.coordinate slot .z))
    | "var" => do
      let ref ← loadVariable ms slot
      return some (.variable ref)
    | "time_since_var" => do
      let ref ← loadVariable ms slot
      return some (.elapsed ref)
    | _ => .ok none

/-- Reads what a keyword under a role's member asks for; none if there is no such keyword. -/
def loadActor (ms : Json.Members) (slot : Slot) : Loaded (Option Operand) :=
  match ms.get? (scopeOf slot).member with
  | some (.string keyword) => loadKeyword ms slot keyword
  | _ => .ok none

/-- Reads an operand that is no value: a constant, a reading or a draw. -/
def loadReading (ms : Json.Members) : Loaded (Option Operand) :=
  match ms.get? "const" with
  | some json => (json.asInt32 "const").map fun n => some (.constant n)
  | none =>
    match ms.get? "time" with
    | some json => do
      let name ← json.asString "time"
      match Named.ofName? name with
      | some reading => return some (.clock reading)
      | none => .error (.invalidValue "time" (.unknownTime name))
    | none =>
      match ms.get? "weather" with
      | some json => do
        let name ← json.asString "weather"
        match Named.ofName? name with
        | some gauge => return some (.weather gauge)
        | none => .error (.invalidValue "weather" (.unknownWeather name))
      | none =>
        match ms.get? "rand" with
        | some json => (json.asInt "rand").map fun n => some (.random n)
        | none =>
          match loadActor ms .primary with
          | .ok none => loadActor ms .secondary
          | outcome => outcome

end Operand

namespace Source

def members : List String :=
  ["arithmetic", "effect"] ++ Scope.all.map Scope.member

/-- The members of an object that say where a value comes from. -/
def membersOf (ms : Json.Members) : List String :=
  members.filter ms.has

end Source

namespace Effect

def isAssign : Json → Bool
  | .string "=" => true
  | _ => false

def loadOperator (json : Json) : Loaded Operator :=
  match json with
  | .string sign => Operator.parse sign
  | _ => .error (.expected "arithmetic" .operator)

/-- Reads the variable that a result is written to. Its default has to read as an integer. -/
def loadTarget (json : Json) : Loaded Reference := do
  let ref ← Reference.load (← json.asObject "arithmetic") false
  match ref.default with
  | none => return ref
  | some default =>
    match Kind.readInteger default with
    | .ok _ => return ref
    | .error fault => .error (.invalidValue "default" (.unreadable fault))

def loadStep (json : Json) : Loaded Int32 :=
  match json with
  | .string "++" => .ok 1
  | .string "--" => .ok (-1)
  | .string other => .error (.unknownOperator other)
  | _ => .error (.expected "arithmetic" .operator)

end Effect

mutual

/-- Compiles an effect, or an array of effects to be run in order. -/
def Effect.load (json : Json) : Loaded Effect :=
  match json with
  | .array items => (Effect.loadAll items).map .sequence
  | .object ms =>
    match _h : Json.Members.get? ms "arithmetic" with
    | some (.array items) => Effect.arithmetic items
    | some _ => .error (.expected "arithmetic" .array)
    | none =>
      match _h : Json.Members.get? ms "set_string_var" with
      | some value =>
        match Json.Members.objectAt ms "target_var" with
        | .error e => .error e
        | .ok target =>
          match Reference.load target false with
          | .error e => .error e
          | .ok ref => (Source.load .text value "set_string_var").map (.setText ref)
      | none => .error (.invalidValue "effect" (.unknownEffect (Json.Members.names ms)))
  | _ => .error (.expected "effect" .objectOrArray)
  termination_by 3 * sizeOf json
  decreasing_by
    all_goals
      first
        | (simp only [Json.array.sizeOf_spec]; omega)
        | (have hlt := Json.Members.sizeOf_lt_of_get? _h
           simp only [Json.array.sizeOf_spec, Json.object.sizeOf_spec] at hlt ⊢; omega)

/-- Compiles effects one after another. -/
def Effect.loadAll (items : List Json) : Loaded (List Effect) :=
  match items with
  | [] => .ok []
  | item :: rest =>
    match Effect.load item with
    | .error e => .error e
    | .ok effect => (Effect.loadAll rest).map (effect :: ·)
  termination_by 3 * sizeOf items

/-- Compiles an arithmetic effect. A result without a target is reported. -/
def Effect.arithmetic (items : List Json) : Loaded Effect :=
  match items with
  | [value] => (Operand.load value "arithmetic").map fun v => .report (.operand v)
  | [target, sign] =>
    if Effect.isAssign sign then .error (.expected "arithmetic" .arithmetic)
    else
      match Effect.loadTarget target with
      | .error e => .error e
      | .ok ref => (Effect.loadStep sign).map (Effect.step ref)
  | [first, sign, last] =>
    if Effect.isAssign sign then
      match Effect.loadTarget first with
      | .error e => .error e
      | .ok ref => (Operand.load last "arithmetic").map fun v => .assign ref (.operand v)
    else
      match Effect.loadOperator sign with
      | .error e => .error e
      | .ok op =>
        match Operand.load first "arithmetic" with
        | .error e => .error e
        | .ok l => (Operand.load last "arithmetic").map fun r => .report (.binary op l r)
  | [target, assign, first, sign, last] =>
    if Effect.isAssign assign then
      match Effect.loadOperator sign with
      | .error e => .error e
      | .ok op =>
        match Effect.loadTarget target with
        | .error e => .error e
        | .ok ref =>
          match Operand.load first "arithmetic" with
          | .error e => .error e
          | .ok l => (Operand.load last "arithmetic").map fun r => .assign ref (.binary op l r)
    else .error (.expected "arithmetic" .arithmetic)
  | _ => .error (.expected "arithmetic" .arithmetic)
  termination_by 3 * sizeOf items

/-- Compiles an integer operand: a constant, a reading, a draw, or any integer value. -/
def Operand.load (json : Json) (member : String) : Loaded Operand :=
  let reading : Loaded (Option Operand) :=
    match json with
    | .object ms => Operand.loadReading ms
    | _ => .ok none
  match reading with
  | .error e => .error e
  | .ok (some operand) => .ok operand
  | .ok none => (Ranged.load .integer json member).map .value
  termination_by 3 * sizeOf json + 2

/-- Compiles a value of a measure, or an array of the two ends of a range. -/
def Ranged.load (m : Measure) (json : Json) (member : String) : Loaded (Ranged m) :=
  match json with
  | .array [low, high] =>
    match Source.load (.measure m) low member with
    | .error e => .error e
    | .ok a => (Source.load (.measure m) high member).map (.pair a)
  | .array _ => .error (.expected member .pair)
  | json => (Source.load (.measure m) json member).map .single
  termination_by 3 * sizeOf json + 1

/-- Compiles a value of a kind: a literal, or an object with exactly one member that says where the
value comes from. -/
def Source.load (k : Kind) (json : Json) (member : String) : Loaded (Source k) :=
  match json with
  | .object ms =>
    if 1 < (Source.membersOf ms).length then
      .error (.invalidValue member (.conflictingSources (Source.membersOf ms)))
    else
      match k.loadDefault ms with
      | .error e => .error e
      | .ok default =>
        match _h : Json.Members.get? ms "arithmetic" with
        | some (.array items) => (Effect.arithmetic items).map (.computed · default)
        | some _ => .error (.expected "arithmetic" .array)
        | none =>
          match _h : Json.Members.get? ms "effect" with
          | some effect => (Effect.load effect).map (.computed · default)
          | none =>
            if (Source.membersOf ms).isEmpty then .error (.expected member .valueSource)
            else (Reference.load ms true).map (.variable · default)
  | json => (k.literal json member).map .literal
  termination_by 3 * sizeOf json
  decreasing_by
    all_goals
      have hlt := Json.Members.sizeOf_lt_of_get? _h
      simp only [Json.array.sizeOf_spec, Json.object.sizeOf_spec] at hlt ⊢
      omega

end

/-- Compiles the value under a member; a default makes the member optional. -/
def Source.loadMember (k : Kind) (ms : Json.Members) (member : String) (default : Option k.Value) :
    Loaded (Source k) :=
  match ms.get? member, default with
  | some json, _ => Source.load k json member
  | none, some value => .ok (.literal value)
  | none, none => .error (.missingMember member)

/-- Compiles the value or range under a member; a default makes the member optional. -/
def Ranged.loadMember (m : Measure) (ms : Json.Members) (member : String)
    (default : Option m.Value) : Loaded (Ranged m) :=
  match ms.get? member, default with
  | some json, _ => Ranged.load m json member
  | none, some value => .ok (.single (.literal value))
  | none, none => .error (.missingMember member)

end Parley
