import Parley.Proofs.Authored
import Parley.Proofs.Text.Numeral
import Parley.Talk.State

/-!
Worlds whose variables hold nothing but counts. Main statement: whatever variable that content can name is read
there, its text is empty or reads as a value of every kind.
-/

set_option autoImplicit false
set_option relaxedAutoImplicit false

namespace Parley

/-- A text that is empty or a decimal numeral of a number from 0 to 2147483647. -/
def Text.IsCount (text : String) : Prop :=
  text = "" ∨ ∃ n : Int, Numeral.Writes text.toList n ∧ 0 ≤ n ∧ n ≤ 2147483647

def Variables.Counting (v : Variables) : Prop :=
  ∀ text ∈ v.texts.values, Text.IsCount text

/-- A world in which the variables of the world itself, of the characters and what they hold, of the items that
lie around and of the factions are counts. -/
structure World.Counting (w : World) : Prop where
  globals : w.globals.Counting
  characters : ∀ c ∈ w.characters.values, c.vars.Counting
  held : ∀ c ∈ w.characters.values, ∀ i ∈ c.items, i.vars.Counting
  items : ∀ l ∈ w.items.values, l.item.vars.Counting
  factions : ∀ f ∈ w.factions.values, f.vars.Counting

private theorem Variables.Counting.get {v : Variables} (h : v.Counting) (name : String) :
    Text.IsCount (v.get name) := by
  rw [Variables.get]
  cases htext : v.texts.get? name with
  | none => exact .inl rfl
  | some text => exact h text (Dict.mem_values_of_get? htext)

namespace World.Counting

variable {w : World}

private theorem actor (h : w.Counting) {handle : Handle} {a : Actor} (ha : w.actor? handle = some a) :
    a.vars.Counting := by
  match handle with
  | .creature id =>
    obtain ⟨c, hc, rfl⟩ := Option.map_eq_some_iff.1 ha
    exact h.characters c (Dict.mem_values_of_get? hc)
  | .item (.ground id) =>
    obtain ⟨i, hi, rfl⟩ := Option.map_eq_some_iff.1 ha
    obtain ⟨l, hl, rfl⟩ := Option.map_eq_some_iff.1 hi
    exact h.items l (Dict.mem_values_of_get? hl)
  | .item (.carried owner id) =>
    obtain ⟨i, hi, rfl⟩ := Option.map_eq_some_iff.1 ha
    obtain ⟨c, hc, hfind⟩ := Option.bind_eq_some_iff.1 hi
    exact h.held c (Dict.mem_values_of_get? hc) i (List.mem_of_find?_eq_some hfind)

private theorem actorText (h : w.Counting) (handle : Handle) (name : String) :
    Text.IsCount (w.actorText handle name) := by
  rw [World.actorText]
  cases ha : w.actor? handle with
  | none => exact .inl rfl
  | some a => exact (h.actor ha).get name

end World.Counting

namespace State

variable {s : State}

private theorem isCount_factionText (h : s.world.Counting) (faction name : String) :
    Text.IsCount (s.factionText faction name) := by
  rw [factionText]
  cases hf : s.world.factions.get? faction with
  | none => exact .inl rfl
  | some f => exact (h.factions f (Dict.mem_values_of_get? hf)).get name

/-- No variable but the reserved one is read from a frame, whose text may be anything. -/
theorem isCount_read (h : s.world.Counting) (ctx : Context) {ref : Reference} (href : ref.Authored) :
    Text.IsCount (s.read ctx ref) := by
  obtain ⟨scope, name, default⟩ := ref
  cases scope with
  | global =>
    change Text.IsCount (s.globalText name)
    rw [globalText, if_neg href]
    exact h.globals.get name
  | primary =>
    change Text.IsCount (ctx.primary.elim "" fun handle => s.world.actorText handle name)
    cases ctx.primary with
    | none => exact .inl rfl
    | some handle => exact h.actorText handle name
  | secondary =>
    change Text.IsCount (ctx.secondary.elim "" fun handle => s.world.actorText handle name)
    cases ctx.secondary with
    | none => exact .inl rfl
    | some handle => exact h.actorText handle name
  | faction =>
    change Text.IsCount ((ctx.faction? s.world .secondary).elim "" fun f => s.factionText f name)
    cases ctx.faction? s.world .secondary with
    | none => exact .inl rfl
    | some f => exact isCount_factionText h f name
  | party => exact isCount_factionText h World.playerFaction name

end State

namespace Kind

private theorem readDuration_of_writes {s : String} {n : Int} (h : Numeral.Writes s.toList n) (hlo : 0 ≤ n)
    (hhi : n ≤ 0x7fffffffffffffff) : readDuration s = .ok ⟨Int64.ofInt n⟩ := by
  have hturns : (Int64.ofInt n).toInt = n := Int64.toInt_ofInt_of_le (by omega) (by omega)
  have hpos : ¬ Int64.ofInt n < 0 := by
    rw [Int64.lt_iff_toInt_lt, hturns]
    exact Int.not_lt.2 hlo
  rw [readDuration, trimChars_of_writes h, Numeral.int64_of_writes h (by omega) hhi]
  exact if_neg hpos

theorem exists_read_of_isCount (k : Kind) {s : String} (h : Text.IsCount s) (hne : s ≠ "") :
    ∃ value, k.read s = .ok value := by
  obtain ⟨n, hwrites, hlo, hhi⟩ := h.resolve_left hne
  match k with
  | .text => exact ⟨s, rfl⟩
  | .integer => exact ⟨_, readInteger_of_writes hwrites (by omega) (by omega)⟩
  | .duration => exact ⟨_, readDuration_of_writes hwrites hlo (by omega)⟩

end Kind

end Parley
