import Parley.Collection.Entries

/-!
Universally unique identifiers: their written forms, and the identifiers of entities and missions.
-/

set_option autoImplicit false
set_option relaxedAutoImplicit false

namespace Parley

/-- A 128-bit identifier. -/
structure Uuid where
  bits : BitVec 128
  deriving DecidableEq

namespace Uuid

instance : Ord Uuid := ⟨compareOn bits⟩

instance : Std.TransOrd Uuid := inferInstanceAs (Std.TransCmp (compareOn bits))

instance : Std.LawfulEqOrd Uuid where
  compare_self := Std.compare_self (α := BitVec 128)
  eq_of_compare {a b} h := by
    obtain ⟨a⟩ := a
    obtain ⟨b⟩ := b
    exact congrArg mk (Std.LawfulEqOrd.eq_of_compare (α := BitVec 128) h)

def ofNat (n : Nat) : Uuid :=
  ⟨BitVec.ofNat 128 n⟩

/-- The last hexadecimal digits of a number, as many as asked for. -/
def hexDigits : Nat → Nat → List Char
  | 0, _ => []
  | count + 1, n => hexDigits count (n / 16) ++ [Nat.digitChar (n % 16)]

def hexValue? (c : Char) : Option Nat :=
  if '0' ≤ c ∧ c ≤ '9' then some (c.toNat - '0'.toNat)
  else if 'a' ≤ c ∧ c ≤ 'f' then some (c.toNat - 'a'.toNat + 10)
  else if 'A' ≤ c ∧ c ≤ 'F' then some (c.toNat - 'A'.toNat + 10)
  else none

/-- The number written by hexadecimal digits, read on from `total`. -/
def hexNumber? (total : Nat) : List Char → Option Nat
  | [] => some total
  | c :: rest =>
    match hexValue? c with
    | none => none
    | some d => hexNumber? (total * 16 + d) rest

def groupLengths : List Nat :=
  [8, 4, 4, 4, 12]

def group : List Nat → List Char → List Char
  | [], cs => cs
  | [_], cs => cs
  | n :: ns, cs => cs.take n ++ '-' :: group ns (cs.drop n)

/-- Removes the hyphens, if they stand exactly between the groups. -/
def ungroup? : List Nat → List Char → Option (List Char)
  | [], cs => if cs.isEmpty then some [] else none
  | [n], cs => if cs.length = n then some cs else none
  | n :: ns, cs =>
    match cs.drop n with
    | '-' :: rest => (ungroup? ns rest).map (cs.take n ++ ·)
    | _ => none

def text (u : Uuid) : String :=
  String.ofList (group groupLengths (hexDigits 32 u.bits.toNat))

/-- What a resource name begins with, in letters of either case. -/
def resourceName : List Char :=
  ['u', 'r', 'n', ':', 'u', 'u', 'i', 'd', ':']

/-- The hyphenated form inside its optional wrapping, braces or a resource name. -/
def unwrap (cs : List Char) : List Char :=
  if (cs.take resourceName.length).map Char.toLower = resourceName then
    cs.drop resourceName.length
  else
    match cs with
    | '\x7b' :: rest => if rest.getLast? = some '\x7d' then rest.dropLast else cs
    | _ => cs

/-- Reads the hyphenated form, plain or wrapped, or the 32 digits alone. -/
def read? (text : String) : Option Uuid := do
  let cs := text.toList
  let digits ← if cs.length = 32 then some cs else ungroup? groupLengths (unwrap cs)
  let n ← hexNumber? 0 digits
  return ofNat n

end Uuid

/-- The identifier of a character or an item. -/
structure EntityId where
  uuid : Uuid
  deriving DecidableEq

namespace EntityId

instance : Ord EntityId := ⟨compareOn uuid⟩

instance : Std.TransOrd EntityId := inferInstanceAs (Std.TransCmp (compareOn uuid))

instance : Std.LawfulEqOrd EntityId where
  compare_self := Std.compare_self (α := Uuid)
  eq_of_compare {a b} h := by
    obtain ⟨a⟩ := a
    obtain ⟨b⟩ := b
    exact congrArg mk (Std.LawfulEqOrd.eq_of_compare (α := Uuid) h)

def ofNat (n : Nat) : EntityId :=
  ⟨Uuid.ofNat n⟩

def text (id : EntityId) : String :=
  id.uuid.text

instance : Inhabited EntityId := ⟨ofNat 0⟩

end EntityId

structure MissionId where
  uuid : Uuid
  deriving DecidableEq

namespace MissionId

instance : Ord MissionId := ⟨compareOn uuid⟩

instance : Std.TransOrd MissionId := inferInstanceAs (Std.TransCmp (compareOn uuid))

instance : Std.LawfulEqOrd MissionId where
  compare_self := Std.compare_self (α := Uuid)
  eq_of_compare {a b} h := by
    obtain ⟨a⟩ := a
    obtain ⟨b⟩ := b
    exact congrArg mk (Std.LawfulEqOrd.eq_of_compare (α := Uuid) h)

def ofNat (n : Nat) : MissionId :=
  ⟨Uuid.ofNat n⟩

def text (id : MissionId) : String :=
  id.uuid.text

end MissionId

end Parley
