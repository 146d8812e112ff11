import Parley.Proofs.Condition.Keys
import Parley.Proofs.Condition.Tests
import Parley.Proofs.Content.Mention
import Parley.Proofs.World.Outline

/-!
The influence of variables on answers. What neither reads a variable nor computes a value is evaluated alike
in a world and in one that it has developed into. Main statement: a condition whose content does neither has
the same answer after a variable is written, but where the write makes a faction known whose trust it asks for.
-/

set_option autoImplicit false
set_option relaxedAutoImplicit false

namespace Parley

namespace Evaluation

variable {α β : Type} {w w' : World}

/-- An evaluation that leaves two worlds as they are, giving the same value and making the same draws in
both. -/
def Alike (w w' : World) (m : Evaluation α) : Prop :=
  ∀ s s', s.world = w → s'.world = w' → s'.random = s.random →
    (m s').1 = (m s).1 ∧ (m s).2.world = w ∧ (m s').2.world = w' ∧ (m s').2.random = (m s).2.random

namespace Alike

private theorem pure (a : α) : Alike w w' (Pure.pure a : Evaluation α) :=
  fun _ _ hw hw' hrandom => ⟨rfl, hw, hw', hrandom⟩

private theorem bind {m : Evaluation α} {f : α → Evaluation β} (hm : Alike w w' m)
    (hf : ∀ a, Alike w w' (f a)) : Alike w w' (m >>= f) := by
  intro s s' hw hw' hrandom
  obtain ⟨hvalue, hleft, hleft', hdrawn⟩ := hm s s' hw hw' hrandom
  have hrun (t : State) : (m >>= f) t = f (m t).1 (m t).2 := rfl
  rw [hrun, hrun, hvalue]
  exact hf (m s).1 _ _ hleft hleft' hdrawn

private theorem ask {f : World → α} (hf : f w' = f w) : Alike w w' (ask f) := by
  intro s s' hw hw' hrandom
  refine ⟨?_, hw, hw', hrandom⟩
  change f s'.world = f s.world
  rw [hw, hw', hf]

private theorem draw (a b : Int64) : Alike w w' (draw a b) := by
  intro s s' hw hw' hrandom
  change (s'.random.draw a b).1 = (s.random.draw a b).1 ∧ _
  rw [hrandom]
  exact ⟨rfl, hw, hw', congrArg (fun r : Random => (r.draw a b).2) hrandom⟩

private theorem chance (f : Random → Bool × Random) : Alike w w' (chance f) := by
  intro s s' hw hw' hrandom
  change (f s'.random).1 = (f s.random).1 ∧ _
  rw [hrandom]
  exact ⟨rfl, hw, hw', congrArg (fun r => (f r).2) hrandom⟩

private theorem composed : Composed (Alike w w') :=
  ⟨pure, bind⟩

end Alike

end Evaluation

open Evaluation

section Development

variable {w w' : World} {ctx : Context}

theorem CreatureReading.read_outline (r : CreatureReading) (c : Option Character) :
    r.read (c.map Character.outline) = r.read c := by
  cases c with
  | none => rfl
  | some c =>
    match r with
    | .attribute a => exact c.measure_outline a
    | .hitPoints _ | .skill _ | .intensity _ _ => rfl

private theorem Source.alike {k : Kind} (v : Source k) (hv : ∀ x ∈ v.accesses, x = .draw) :
    Alike w w' (v.evaluate ctx) := by
  match v with
  | .literal value => exact .pure value
  | .variable ref default | .computed e default => cases hv _ List.mem_cons_self

private theorem Ranged.alike {m : Measure} (v : Ranged m) (hv : ∀ x ∈ v.accesses, x = .draw) :
    Alike w w' (v.evaluate ctx) := by
  match v with
  | .single value => exact value.alike hv
  | .pair low high =>
    rw [Ranged.accesses, List.forall_mem_append, List.forall_mem_append] at hv
    exact .bind (low.alike hv.1.1) fun _ => .bind (high.alike hv.1.2) fun _ =>
      .bind (.draw _ _) fun _ => .pure _

private theorem Operand.alike (h : w.Develops w') (o : Operand) (ho : ∀ x ∈ o.accesses, x = .draw) :
    Alike w w' (o.evaluate ctx) := by
  match o with
  | .constant n => exact .pure n
  | .random most => exact .bind (.draw _ _) fun _ => .pure _
  | .clock reading =>
    rw [Operand.evaluate]
    exact .ask (congrArg reading.read h.calendar_eq)
  | .weather gauge =>
    rw [Operand.evaluate]
    exact .ask (congrArg (·.gauge gauge) h.environment_eq)
  | .creature slot reading =>
    rw [Operand.evaluate]
    refine .ask ?_
    rw [← reading.read_outline, h.character?_outline, reading.read_outline]
  | .coordinate slot axis =>
    rw [Operand.evaluate]
    refine .ask ?_
    rw [h.position?_eq]
  | .variable ref | .elapsed ref => cases ho _ List.mem_cons_self
  | .value range => exact range.alike ho

def Context.NoNewFaction (ctx : Context) (w w' : World) (slot : Slot) : Prop :=
  ∀ f, ctx.faction? w slot = some f → w.factions.get? f = none → w'.factions.get? f = none

private theorem World.Develops.holds_trust (h : w.Develops w') {slot : Slot} (hknown : ctx.NoNewFaction w w' slot)
    (n : Int32) :
    (LevelQuery.factionTrust.check w' n).holds ctx w' slot =
      (LevelQuery.factionTrust.check w n).holds ctx w slot := by
  simp only [LevelQuery.check, Check.holds, h.faction?_eq]
  cases hfaction : ctx.faction? w slot with
  | none => rfl
  | some f =>
    change (w'.factions.get? f).any _ = (w.factions.get? f).any _
    cases hold : w.factions.get? f with
    | none => rw [hknown f hfaction hold]
    | some faction =>
      obtain ⟨faction', hnew, hdev⟩ := h.factions f faction hold
      have htrust := congrArg Faction.trust hdev.rest_eq
      rw [hnew]
      exact congrArg (fun trust => decide (n ≤ trust)) htrust

private theorem World.get?_addFaction_ofId (w : World) (f id : String) :
    (w.addFaction (.ofId f)).factions.get? id = if f = id then some (.ofId f) else w.factions.get? id :=
  Dict.get?_insert ..

/-- What has developed from a world in which a faction was not known has developed from the same world with the
faction, of which nothing but its id is known. -/
theorem World.Develops.of_known (h : w.Develops w') {f : String} (hold : w.factions.get? f = none)
    (hnew : w'.factions.get? f ≠ none) : (w.addFaction (.ofId f)).Develops w' := by
  obtain ⟨faction', hsome⟩ := Option.ne_none_iff_exists'.1 hnew
  refine { h with factions := ?_, new_factions := ?_ }
  · intro id g hg
    rw [w.get?_addFaction_ofId] at hg
    split at hg
    case isTrue hid =>
      subst hid
      cases hg
      exact ⟨faction', hsome, h.new_factions f faction' hold hsome⟩
    case isFalse => exact h.factions id g hg
  · intro id g' hnone hg'
    rw [w.get?_addFaction_ofId] at hnone
    split at hnone
    · cases hnone
    · exact h.new_factions id g' hnone hg'

private theorem World.Develops.holds_new_trust (h : w.Develops w') {slot : Slot} {f : String}
    (hfaction : ctx.faction? w slot = some f) (hold : w.factions.get? f = none)
    (hnew : w'.factions.get? f ≠ none) (n : Int32) :
    (LevelQuery.factionTrust.check w n).holds ctx w slot = false ∧
      (LevelQuery.factionTrust.check w' n).holds ctx w' slot = decide (n ≤ 0) := by
  obtain ⟨faction', hsome⟩ := Option.ne_none_iff_exists'.1 hnew
  have htrust : faction'.trust = 0 := congrArg Faction.trust (h.new_factions f faction' hold hsome).rest_eq
  simp only [LevelQuery.check, Check.holds, h.faction?_eq, hfaction, Option.any_some, Option.any_none, hold,
    hsome, htrust, and_self]

private theorem Test.alike (h : w.Develops w') (t : Test) (ht : ∀ x ∈ t.accesses, x = .draw)
    (htrust : ∀ slot value, t = .level slot .factionTrust value → ctx.NoNewFaction w w' slot) :
    Alike w w' (t.evaluate ctx) := by
  have hcheck {slot : Slot} {check : World → Check}
      (hsame : (check w').holds ctx w' slot = (check w).holds ctx w slot) :
      Alike w w' (holds ctx slot check) := .ask hsame
  match t with
  | .fact slot q =>
    refine hcheck ?_
    rw [h.check_fact, h.holds_eq ctx slot (q.ofOutline_check w)]
  | .text slot q value =>
    refine .bind (value.alike ht) fun text => hcheck ?_
    rw [h.check_text, h.holds_eq ctx slot (q.ofOutline_check w text)]
  | .level slot q value =>
    refine .bind (value.alike ht) fun n => hcheck ?_
    by_cases hq : q = .factionTrust
    · subst hq
      exact h.holds_trust (htrust slot value rfl) n
    · rw [h.check_level q hq, h.holds_eq ctx slot (q.ofOutline_check w n)]
  | .count slot q value amount =>
    rw [Test.accesses, List.forall_mem_append] at ht
    refine .bind (value.alike ht.1) fun text => .bind (amount.alike ht.2) fun n => hcheck ?_
    rw [h.check_count, h.holds_eq ctx slot (q.ofOutline_check w text n)]
  | .anyTrait slot values =>
    have hvalues : ∀ v ∈ values, Alike w w' (v.evaluate ctx) :=
      fun v hv => v.alike fun x hx => ht x (List.mem_flatMap_of_mem hv hx)
    refine .bind (Alike.composed.texts hvalues) fun traits => hcheck ?_
    have houtline : (Check.creature fun c => traits.any c.hasTrait).OfOutline := fun _ => rfl
    exact h.holds_eq ctx slot houtline
  | .variableIs ref _ | .compareVariable ref _ _ | .compareElapsed ref _ _ =>
    cases ht _ List.mem_cons_self
  | .oneIn n =>
    rw [Test.accesses, List.forall_mem_append] at ht
    exact .bind (n.alike ht.1) fun _ => .chance _
  | .xInY a b =>
    rw [Test.accesses, List.forall_mem_append, List.forall_mem_append] at ht
    exact .bind (a.alike ht.1.1) fun _ => .bind (b.alike ht.1.2) fun _ => .chance _
  | .compareIntegers c l r =>
    rw [Test.accesses, List.forall_mem_append] at ht
    exact .bind (l.alike h ht.1) fun _ => .bind (r.alike h ht.2) fun _ => .pure _
  | .compareTexts l r =>
    rw [Test.accesses, List.forall_mem_append] at ht
    exact .bind (l.alike ht.1) fun _ => .bind (r.alike ht.2) fun _ => .pure _

namespace Condition

variable {json : Json} {c : Condition}

private theorem only_draws_of_load (h : load json = .ok c) (hvariable : json.contains .variable = false)
    (hcomputed : json.contains .computed = false) : ∀ x ∈ c.accesses, x = .draw := by
  intro x hx
  obtain ⟨construct, hconstruct, hcontains⟩ := mentioned_of_load h x hx
  cases x with
  | draw => rfl
  | compute =>
    obtain rfl := List.mem_singleton.1 hconstruct
    rw [hcomputed] at hcontains
    cases hcontains
  | read ref | write ref =>
    obtain rfl := List.mem_singleton.1 hconstruct
    rw [hvariable] at hcontains
    cases hcontains

private theorem alike_of_load (hload : load json = .ok c) (hvariable : json.contains .variable = false)
    (hcomputed : json.contains .computed = false) (h : w.Develops w')
    (hknown : "u_has_faction_trust" ∈ json.conditionKeys → ctx.NoNewFaction w w' .secondary) :
    Alike w w' (c.evaluate ctx) := by
  have hdraws := only_draws_of_load hload hvariable hcomputed
  refine Alike.composed.condition c fun t ht => t.alike h ?_ ?_
  · intro x hx
    refine hdraws x ?_
    rw [accesses_eq_flatMap_tests]
    exact List.mem_flatMap_of_mem ht hx
  · rintro slot value rfl
    obtain ⟨key, hkey, hasked⟩ := (written_of_load hload).asked _ ht
    obtain ⟨rfl, rfl⟩ := hasked.trust
    exact hknown hkey

end Condition

end Development

private theorem State.random_writeActor (s : State) (h : Handle) (name text : String) :
    (s.writeActor h name text).random = s.random := by
  unfold writeActor
  split <;> rfl

theorem State.random_write (s : State) (ctx : Context) (ref : Reference) (text : String) :
    (s.write ctx ref text).random = s.random := by
  unfold write writeAs
  cases ref.scope with
  | global =>
    change (s.writeGlobal ref.name text).random = s.random
    unfold writeGlobal
    split
    · cases s.frames <;> rfl
    · rfl
  | primary | secondary =>
    dsimp only
    split
    · exact s.random_writeActor _ _ _
    · rfl
  | faction =>
    dsimp only
    split <;> rfl
  | party => rfl

namespace Condition

/-- A condition whose content reads no variable and computes no value has the same answer after a variable is
written as before, from the same random source: always if it does not ask how far a faction trusts the player,
and if it does so long as the write does not make the faction of the secondary actor known. If it does that, the
condition has the answer that it had with the faction known: the query, false of an unknown faction, finds its
trust to be 0. -/
theorem answer_after_write {json : Json} {c : Condition} (hload : load json = .ok c)
    (hvariable : json.contains .variable = false) (hcomputed : json.contains .computed = false)
    (ctx : Context) (s : State) (ref : Reference) (text : String) :
    let after := s.write ctx ref text
    (("u_has_faction_trust" ∈ json.conditionKeys →
        ∀ f, ctx.faction? s.world .secondary = some f → s.world.factions.get? f = none →
          after.world.factions.get? f = none) →
      (c.evaluate ctx after).1 = (c.evaluate ctx s).1) ∧
    ∀ f, ctx.faction? s.world .secondary = some f → s.world.factions.get? f = none →
      after.world.factions.get? f ≠ none →
        (c.evaluate ctx after).1 = (c.evaluate ctx { s with world := s.world.addFaction (.ofId f) }).1 ∧
        ∀ n : Int32,
          (LevelQuery.factionTrust.check s.world n).holds ctx s.world .secondary = false ∧
          (LevelQuery.factionTrust.check after.world n).holds ctx after.world .secondary = decide (n ≤ 0) := by
  intro after
  have hdevelops : s.world.Develops after.world := s.develops_write ctx ref text
  have hrandom : after.random = s.random := s.random_write ctx ref text
  refine ⟨?_, ?_⟩
  · intro hknown
    have halike := alike_of_load hload hvariable hcomputed hdevelops hknown
    exact (halike s after rfl rfl hrandom).1
  · intro f hfaction hold hnew
    have hadded := hdevelops.of_known hold hnew
    have hknown : ctx.NoNewFaction (s.world.addFaction (.ofId f)) after.world .secondary := by
      intro f' hf' hnone
      obtain rfl : f = f' := Option.some.inj (hfaction.symm.trans hf')
      rw [World.get?_addFaction_ofId, if_pos rfl] at hnone
      cases hnone
    have halike := alike_of_load hload hvariable hcomputed hadded fun _ => hknown
    exact ⟨(halike { s with world := s.world.addFaction (.ofId f) } after rfl rfl hrandom).1,
      hdevelops.holds_new_trust hfaction hold hnew⟩

def trader : Character :=
  { Character.ofName "Trader" with
    profile := some { Profile.ofClass "NC_TRADER" with faction := some "free_merchants" } }

def traderContext : Context :=
  ⟨none, some (.creature trader.id), .conversation false ""⟩

/-- A world with the trader alone, in which nothing is written yet. -/
def traderState : State :=
  ⟨.addCharacter .empty trader, .scripted [], [], []⟩

private theorem load_trust : load (.object [("u_has_faction_trust", .int 0)]) =
    .ok (.test (.level .secondary .factionTrust (.single (.literal 0)))) := by
  have hvalue : Ranged.load .integer (.int 0) "u_has_faction_trust" = .ok (.single (.literal 0)) := by
    rw [Ranged.load.eq_def]
    simp only [Json.int]
    rw [Source.load.eq_def]
    rfl
  have hkeys : keysOf [("u_has_faction_trust", Json.int 0)] = ["u_has_faction_trust"] := by decide
  have harguments : Catalog.arguments? "u_has_faction_trust" = some (.secondary, .level .factionTrust) := by
    decide
  exact load_of_level hkeys (by decide) harguments hvalue rfl

/-- A write can change the answer of a condition without variables: a mood written for the faction of the trader
makes it known, so that it is found to trust the player no less than 0. -/
theorem answer_changed_by_write :
    ¬ ∀ (json : Json) (c : Condition), load json = .ok c → json.contains .variable = false →
      json.contains .computed = false → ∀ (ctx : Context) (s : State) (ref : Reference) (text : String),
        (c.evaluate ctx (s.write ctx ref text)).1 = (c.evaluate ctx s).1 := by
  intro h
  have hsame := h _ _ load_trust (by cbv) (by cbv) traderContext traderState
    ⟨.faction, "npctalk_var_mood", none⟩ "calm"
  have hbefore : (evaluate traderContext (.test (.level .secondary .factionTrust (.single (.literal 0))))
      traderState).1 = false := by
    decide
  rw [hbefore] at hsame
  revert hsame
  decide

/-- The same mood written for the trader alone does not change that answer; written for the faction it changes
no other one, but the faction is found to trust the player no less than 0. -/
theorem answer_after_write_of_mood :
    let trust : Condition := .test (.level .secondary .factionTrust (.single (.literal 0)))
    let male : Condition := .test (.fact .secondary .male)
    let own := traderState.write traderContext ⟨.secondary, "npctalk_var_mood", none⟩ "calm"
    let shared := traderState.write traderContext ⟨.faction, "npctalk_var_mood", none⟩ "calm"
    (trust.evaluate traderContext own).1 = (trust.evaluate traderContext traderState).1 ∧
      (male.evaluate traderContext shared).1 = (male.evaluate traderContext traderState).1 ∧
      (LevelQuery.factionTrust.check shared.world 0).holds traderContext shared.world .secondary = true := by
  intro trust male own shared
  have hbare : load (.string "npc_male") = .ok male := by
    cbv
  refine ⟨?_, ?_, ?_⟩
  · refine (answer_after_write load_trust (by cbv) (by cbv) traderContext traderState
      ⟨.secondary, "npctalk_var_mood", none⟩ "calm").1 ?_
    intro _ f _ hold
    exact hold
  · refine (answer_after_write hbare (by cbv) (by cbv) traderContext traderState
      ⟨.faction, "npctalk_var_mood", none⟩ "calm").1 ?_
    intro hkey
    exact absurd hkey (by decide)
  · have hfound := ((answer_after_write load_trust (by cbv) (by cbv) traderContext traderState
      ⟨.faction, "npctalk_var_mood", none⟩ "calm").2 "free_merchants" rfl rfl (by decide)).2 0
    exact hfound.2.trans (by decide)

end Condition

end Parley
