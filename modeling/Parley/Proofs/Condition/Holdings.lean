import Parley.Proofs.Condition.Requirement
import Parley.Proofs.Condition.Threshold
import Parley.Proofs.Evaluation.Development
import Parley.Proofs.Evaluation.Pervasive
import Parley.Proofs.World.Arrangement

/-!
Conditions about the items that someone holds. Main statement: such a condition finds out what it asks for and, where
charges fit into 32 bits, is true iff there is a character whose items, taken together, are that; it does not matter
where the items are kept, as long as those that take part in the conversation themselves are still found. They need
not be where two items have one id, and then the condition about stolen items may change.
-/

set_option autoImplicit false
set_option relaxedAutoImplicit false

namespace Parley

open Evaluation

private theorem Character.chargesFit_outline (c : Character) : c.outline.ChargesFit ↔ c.ChargesFit := by
  have hheld : c.outline.inventory.held = c.inventory.held.map Item.outline := by
    rw [← Inventory.coe_items, ← Inventory.coe_items, Multiset.map_coe]
    exact congrArg _ c.items_outline
  refine forall_congr' fun typeId => ?_
  rw [chargesAmong, hheld, Multiset.filter_map, Multiset.map_map]
  rfl

namespace Holding

def check (c : Character) : Holding → Bool
  | .items typeId n => n.toInt ≤ c.countOf typeId
  | .charges typeId n => n.toInt ≤ c.chargesOf typeId
  | .category name n => n.toInt ≤ c.countInCategory name
  | .flag name => c.hasItemWithFlag name
  | .owner faction => c.hasItemOwnedBy faction

private theorem check_iff {c : Character} (hfit : c.ChargesFit) {h : Holding} :
    h.check c = true ↔ h.Of c.inventory.held := by
  cases h with
  | items typeId n => rw [check, decide_eq_true_iff, c.countOf_eq, Of]
  | charges typeId n => rw [check, decide_eq_true_iff, hfit.chargesOf_eq, Of]
  | category name n => rw [check, decide_eq_true_iff, c.countInCategory_eq, Of]
  | flag name => exact c.hasItemWithFlag_iff
  | owner faction => exact c.hasItemOwnedBy_iff

private theorem check_rearranged {c c' : Character} (hc : c.Rearranged c') (h : Holding) : h.check c' = h.check c := by
  cases h with
  | items typeId n => rw [check, check, c'.countOf_eq, c.countOf_eq, hc.held_eq]
  | charges typeId n => rw [check, check, c'.chargesOf_eq, c.chargesOf_eq, hc.held_eq]
  | category name n => rw [check, check, c'.countInCategory_eq, c.countInCategory_eq, hc.held_eq]
  | flag name => rw [check, check, Bool.eq_iff_iff, c'.hasItemWithFlag_iff, c.hasItemWithFlag_iff, hc.held_eq]
  | owner faction => rw [check, check, Bool.eq_iff_iff, c'.hasItemOwnedBy_iff, c.hasItemOwnedBy_iff, hc.held_eq]

end Holding

/-- What a key may ask of the items held, by the catalog's entry for it. To have an item is to have a charge of it. -/
inductive Holding.Answers : Fact ⊕ Arguments → Holding → Prop
  | item (typeId : String) : Answers (.inr (.text .hasItem)) (.charges typeId 1)
  | items (typeId : String) (n : Int32) : Answers (.inr .items) (.items typeId n)
  | charges (typeId : String) (n : Int32) : Answers (.inr .items) (.charges typeId n)
  | category (name : String) (n : Int32) : Answers (.inr .category) (.category name n)
  | flag (name : String) : Answers (.inr (.text .hasItemWithFlag)) (.flag name)
  | owner (faction : String) : Answers (.inl .holdsStolenItem) (.owner faction)

namespace Test

/-- The role whose items a test is about, and what it asks of them once its values are evaluated. -/
def holding? (ctx : Context) : Test → Option (Slot × Evaluation (Option Holding))
  | .text slot .hasItem value => some (slot, do
      return some (.charges (← value.evaluate ctx) 1))
  | .text slot .hasItemWithFlag value => some (slot, do
      return some (.flag (← value.evaluate ctx)))
  | .count slot .items value amount => some (slot, do
      let typeId ← value.evaluate ctx
      return some (.items typeId (← amount.evaluate ctx)))
  | .count slot .charges value amount => some (slot, do
      let typeId ← value.evaluate ctx
      return some (.charges typeId (← amount.evaluate ctx)))
  | .count slot .category value amount => some (slot, do
      let category ← value.evaluate ctx
      return some (.category category (← amount.evaluate ctx)))
  | .fact slot .holdsStolenItem => some (slot, do
      return (← ask fun w => ctx.faction? w slot.other).map .owner)
  | _ => none

variable {ctx : Context} {t : Test} {slot : Slot} {asked : Evaluation (Option Holding)}

/-- A test about items finds out what is asked and then looks at the character. -/
theorem evaluate_of_holding? (h : t.holding? ctx = some (slot, asked)) :
    t.evaluate ctx = asked >>= fun holding => ask fun w =>
      holding.any fun holding => (ctx.character? w slot).any holding.check := by
  unfold holding? at h
  split at h
  case h_1 value =>
    cases h
    have hcheck (text : String) :
        (fun c : Character => decide (0 < c.chargesOf text)) = (Holding.charges text 1).check := by
      funext c
      rw [Holding.check, decide_eq_decide]
      change 0 < c.chargesOf text ↔ (1 : Int) ≤ c.chargesOf text
      omega
    funext s
    exact congrArg (fun p => ((ctx.character? (value.evaluate ctx s).2.world _).any p, (value.evaluate ctx s).2))
      (hcheck (value.evaluate ctx s).1)
  case h_6 slot =>
    cases h
    funext s
    have hswap : ((ctx.character? s.world slot).any fun c => (ctx.faction? s.world slot.other).any c.hasItemOwnedBy) =
        ((ctx.faction? s.world slot.other).map Holding.owner).any fun holding =>
          (ctx.character? s.world slot).any holding.check := by
      cases ctx.character? s.world slot <;> cases ctx.faction? s.world slot.other <;> rfl
    exact congrArg (·, s) hswap
  case h_7 => cases h
  all_goals
    cases h
    rfl

private theorem evaluate_state (h : t.holding? ctx = some (slot, asked)) (s : State) :
    (t.evaluate ctx s).2 = (asked s).2 := by
  rw [evaluate_of_holding? h]
  rfl

private theorem chargesFit_asked (h : t.holding? ctx = some (slot, asked)) {s : State}
    (hfit : ∀ creature, ctx.character? s.world slot = some creature → creature.ChargesFit) {creature : Character}
    (hcreature : ctx.character? (asked s).2.world slot = some creature) : creature.ChargesFit := by
  have hdevelops := (development ctx (Condition.test t).accesses).condition (.test t) (fun _ => .inr) s
  rw [Condition.evaluate, evaluate_state h] at hdevelops
  have houtline := hdevelops.world.character?_outline ctx slot
  rw [hcreature, Option.map_some] at houtline
  obtain ⟨before, hbefore, heq⟩ := Option.map_eq_some_iff.1 houtline.symm
  rw [← creature.chargesFit_outline, ← heq, before.chargesFit_outline]
  exact hfit before hbefore

/-- Where charges fit into 32 bits, a test about items is true iff what is asked is found among the items of a
character in the role. -/
theorem evaluate_iff (h : t.holding? ctx = some (slot, asked)) {s : State}
    (hfit : ∀ creature, ctx.character? s.world slot = some creature → creature.ChargesFit) :
    (t.evaluate ctx s).1 = true ↔ ∃ holding creature, (asked s).1 = some holding ∧
      ctx.character? (asked s).2.world slot = some creature ∧ holding.Of creature.inventory.held := by
  have hcheck {holding : Holding} {creature : Character}
      (hcreature : ctx.character? (asked s).2.world slot = some creature) :
      holding.check creature = true ↔ holding.Of creature.inventory.held :=
    Holding.check_iff (chargesFit_asked h hfit hcreature)
  rw [evaluate_of_holding? h]
  change ((asked s).1.any fun holding => (ctx.character? (asked s).2.world slot).any holding.check) = true ↔ _
  simp only [Option.any_eq_true]
  constructor
  · rintro ⟨holding, hholding, creature, hcreature, hchecked⟩
    exact ⟨holding, creature, hholding, hcreature, (hcheck hcreature).1 hchecked⟩
  · rintro ⟨holding, creature, hholding, hcreature, hof⟩
    exact ⟨holding, hholding, creature, hcreature, (hcheck hcreature).2 hof⟩

end Test

namespace Evaluation

variable {α β : Type} {ctx : Context}

/-- An evaluation to which it does not matter where characters keep their items. -/
def Oblivious (ctx : Context) (m : Evaluation α) : Prop :=
  ∀ s w', s.world.Rearranged ctx w' → ∃ w'', m (s.inWorld w') = ((m s).1, (m s).2.inWorld w'') ∧
    (m s).2.world.Rearranged ctx w''

namespace Oblivious

private theorem bind {m : Evaluation α} {f : α → Evaluation β} (hm : Oblivious ctx m) (hf : ∀ a, Oblivious ctx (f a)) :
    Oblivious ctx (m >>= f) := by
  intro s w' h
  obtain ⟨between, heq, hbetween⟩ := hm s w' h
  obtain ⟨after, heq', hafter⟩ := hf (m s).1 (m s).2 between hbetween
  have hrun (t : State) : (m >>= f) t = f (m t).1 (m t).2 := rfl
  refine ⟨after, ?_, hafter⟩
  rw [hrun, hrun, heq]
  exact heq'

private theorem ask {f : World → α} (hf : ∀ w w', w.Rearranged ctx w' → f w' = f w) : Oblivious ctx (ask f) :=
  fun s w' h => ⟨w', congrArg (·, s.inWorld w') (hf s.world w' h), h⟩

private theorem stepwise (ctx : Context) : Stepwise ctx (Oblivious ctx) where
  pure _ _ w' h := ⟨w', rfl, h⟩
  bind := bind
  report _ _ w' h := ⟨w', rfl, h⟩
  read ref s w' h := ⟨w', congrArg (·, s.inWorld w') (State.read_inWorld h ref), h⟩
  write ref text s w' h := by
    obtain ⟨w'', heq, hafter⟩ := State.write_inWorld h ref text
    exact ⟨w'', congrArg (PUnit.unit, ·) heq, hafter⟩
  openFrame _ w' h := ⟨w', rfl, h⟩
  closeFrame s w' h := by
    obtain ⟨w, random, frames, log⟩ := s
    cases frames with
    | nil => exact ⟨w', rfl, h⟩
    | cons frame rest => exact ⟨w', rfl, h⟩
  draw _ _ _ w' h := ⟨w', rfl, h⟩
  turn := ask fun w w' h => by rw [h.rest_eq]
  clock _ := ask fun w w' h => by rw [h.rest_eq]
  gauge _ := ask fun w w' h => by rw [h.rest_eq]
  creature slot reading := by
    refine ask fun w w' h => elim_eq_of_optionRel (fun c c' hc => ?_) (h.character? slot)
    cases hc
    cases reading <;> rfl
  coordinate slot axis := ask fun w w' h => by rw [h.position?_eq]

end Oblivious

end Evaluation

/-- It does not matter to a test about items where they are. -/
theorem Test.oblivious {ctx : Context} {t : Test} {slot : Slot} {asked : Evaluation (Option Holding)}
    (h : t.holding? ctx = some (slot, asked)) : Oblivious ctx (t.evaluate ctx) := by
  have H := Oblivious.stepwise ctx
  have hasked : Oblivious ctx asked := by
    unfold holding? at h
    split at h
    case h_1 | h_2 =>
      cases h
      exact (H.source _).bind fun _ => H.pure _
    case h_3 | h_4 | h_5 =>
      cases h
      exact (H.source _).bind fun _ => (H.ranged _).bind fun _ => H.pure _
    case h_6 =>
      cases h
      exact (Oblivious.ask fun w w' hworld => hworld.faction?_eq _).bind fun _ => H.pure _
    case h_7 => cases h
  rw [evaluate_of_holding? h]
  refine hasked.bind fun holding => .ask fun w w' hworld => ?_
  have hrel := hworld.character? slot
  generalize ctx.character? w slot = found, ctx.character? w' slot = found' at hrel
  cases hrel with
  | none => rfl
  | some hc => simp only [Option.any_some, Holding.check_rearranged hc]

namespace Condition

def holdingKeys : List String :=
  ["u_has_item", "npc_has_item", "u_has_items", "npc_has_items", "u_has_item_category", "npc_has_item_category",
    "u_has_item_with_flag", "npc_has_item_with_flag", "u_has_stolen_item"]

def asksHolding : Fact ⊕ Arguments → Bool
  | .inr (.text .hasItem) | .inr .items | .inr .category | .inr (.text .hasItemWithFlag) | .inl .holdsStolenItem => true
  | _ => false

private theorem holdingKeys_listed :
    ∀ key ∈ holdingKeys, (Catalog.asked? key).any (fun e => asksHolding e.2) = true := by
  decide

/-- A key that asks for items is compiled to a test that asks for what the catalog has under the key. -/
theorem exists_holding {key : String} {json : Json} {c : Condition} (hkey : key ∈ holdingKeys) (hof : OfKey key json)
    (hload : load json = .ok c) :
    ∃ t slot question, c = .test t ∧ Catalog.asked? key = some (slot, question) ∧
      ∀ ctx, ∃ asked, t.holding? ctx = some (slot, asked) ∧
        ∀ s holding, (asked s).1 = some holding → Holding.Answers question holding := by
  obtain ⟨⟨slot, question⟩, hasked, hquestion⟩ := (Option.any_eq_true _ _).1 (holdingKeys_listed key hkey)
  obtain ⟨t, rfl, hmade⟩ := hof.exists_test hasked hload
  refine ⟨t, slot, question, rfl, hasked, fun ctx => ?_⟩
  change asksHolding question = true at hquestion
  unfold asksHolding at hquestion
  split at hquestion
  case h_5 =>
    obtain rfl : t = .fact slot .holdsStolenItem := hmade
    refine ⟨_, rfl, fun s holding hholding => ?_⟩
    obtain ⟨faction, -, rfl⟩ := Option.map_eq_some_iff.1 hholding
    exact .owner faction
  case h_6 => cases hquestion
  all_goals
    simp only [Sum.elim_inr] at hmade
    cases hmade
    all_goals
      refine ⟨_, rfl, fun s holding hholding => ?_⟩
      cases hholding
      constructor

def itemKeys : List (String × Slot) :=
  [("u_has_item", .primary), ("npc_has_item", .secondary)]

/-- The keys that ask whether the creature in a role has a number of items or charges. -/
def itemsKeys : List (String × Slot) :=
  [("u_has_items", .primary), ("npc_has_items", .secondary)]

/-- An object that asks whether the creature in a role has a number of charges of an item type. -/
inductive HasCharges (slot : Slot) (typeId : Source .text) (n : Int32) (ms : Json.Members) : Prop
  | of {key : String} {os : Json.Members} {item literal : Json} (key_mem : (key, slot) ∈ itemsKeys)
      (single : Single ms key (.object os)) (item_eq : os.get? "item" = some item)
      (item_is : Source.load .text item "item" = .ok typeId) (no_count : os.has "count" = false)
      (charges_eq : os.get? "charges" = some literal) (charges_is : Kind.IsLiteral .integer literal n)

variable {slot : Slot} {typeId : Source .text} {n : Int32} {ms : Json.Members}

private theorem load_hasItem (h : WithText itemKeys slot typeId ms) :
    load (.object ms) = .ok (.test (.text slot .hasItem typeId)) :=
  h.load (.text .hasItem) (by decide) fun _ hmember => Loaded.bind_eq_ok_iff.2 ⟨typeId, hmember, rfl⟩

private theorem HasCharges.load (h : HasCharges slot typeId n ms) :
    Condition.load (.object ms) = .ok (.test (.count slot .charges typeId (.single (.literal n)))) := by
  obtain @⟨key, os, item, literal, hkey, hsingle, hitem, htype, hcount, hcharges, hliteral⟩ := h
  have hlisted : ∀ e ∈ itemsKeys, Catalog.combinator? e.1 = none ∧ Catalog.arguments? e.1 = some (e.2, .items) := by
    decide
  have hobject : ms.objectAt key = .ok os := Json.Members.objectAt_eq_ok_iff.2 hsingle.value_eq
  have hsource : Source.loadMember .text os "item" none = .ok typeId := by
    simp only [Source.loadMember, hitem, htype]
  have hamount : Ranged.loadMember .integer os "charges" none = .ok (.single (.literal n)) :=
    Ranged.loadMember_of_isLiteral hcharges hliteral
  have hpresent : os.has "charges" = true := Json.Members.has_of_get? hcharges
  refine hsingle.load (hlisted _ hkey) (Loaded.bind_eq_ok_iff.2 ⟨os, hobject, ?_⟩)
  refine Loaded.bind_eq_ok_iff.2 ⟨typeId, hsource, ?_⟩
  rw [hcount, hpresent]
  exact Loaded.bind_eq_ok_iff.2 ⟨_, hamount, rfl⟩

private theorem evaluate_hasItem (ctx : Context) :
    evaluate ctx (.test (.text slot .hasItem typeId)) =
      evaluate ctx (.test (.count slot .charges typeId (.single (.literal 1)))) := by
  rw [evaluate, evaluate, Test.evaluate_of_holding? (t := .text slot .hasItem typeId) rfl,
    Test.evaluate_of_holding? (t := .count slot .charges typeId (.single (.literal 1))) rfl]
  rfl

def knife : Item :=
  { Item.ofType "knife" with id := .ofNat 7, owner := some "bandits" }

def worldOfAnn (inv : Inventory) : World :=
  World.empty.addCharacter { Character.ofName "Ann" with id := .ofNat 1, inventory := inv }

def annAndKnife : Context :=
  ⟨some (.creature (.ofNat 1)), some (.item (.carried (.ofNat 1) knife.id)), .conversation false ""⟩

def stateOfAnn (inv : Inventory) : State :=
  ⟨worldOfAnn inv, .scripted [], [], []⟩

private theorem holdsSame_of_ann {inv inv' : Inventory} (h : inv'.items.Perm inv.items) :
    (worldOfAnn inv).HoldsSame (worldOfAnn inv') where
  rest_eq := rfl
  characters id := by
    have hheld : inv'.held = inv.held := by
      rw [← Inventory.coe_items, ← Inventory.coe_items, Multiset.coe_eq_coe]
      exact h
    change Option.Rel _ (Dict.get? (Dict.insert _ _ _) id) (Dict.get? (Dict.insert _ _ _) id)
    rw [Dict.get?_insert, Dict.get?_insert]
    split
    · exact .some (.inventory hheld)
    · exact .none

private theorem charges_of_ann_fit {inv : Inventory} (h : (inv.held.map (·.charges.toNat)).sum < 2 ^ 32) (slot : Slot)
    (creature : Character) (hcreature : annAndKnife.character? (stateOfAnn inv).world slot = some creature) :
    creature.ChargesFit := by
  cases slot with
  | primary =>
    cases hcreature
    exact Character.chargesFit_of_total _ h
  | secondary =>
    -- she speaks with an item, which is no creature
    change (((worldOfAnn inv).itemAt? (.carried (.ofNat 1) knife.id)).map Actor.item).bind Actor.character? = _
      at hcreature
    generalize (worldOfAnn inv).itemAt? _ = found at hcreature
    cases found <;> cases hcreature

/-- Conditions about items held depend on nothing but which items these are. Such a condition finds out what the key
asks for and, where the charges held fit into 32 bits, is true iff there is a character in the role of the key whose
items, taken together and each of them counted once, are that. Wherever and in whatever order characters keep their
items, it has the same answer and the same effects, as long as every item that takes part in the conversation is found
under its id as before. To have an item is to have one charge of it. Where no two items of the holder have one id, they
are found as before. -/
theorem held_items_decide :
    (∀ key json c, key ∈ holdingKeys → OfKey key json → load json = .ok c →
      ∃ t slot question, c = .test t ∧ Catalog.asked? key = some (slot, question) ∧
        ∀ ctx, Oblivious ctx (c.evaluate ctx) ∧ ∃ asked, t.holding? ctx = some (slot, asked) ∧
          ∀ s, (∀ holding, (asked s).1 = some holding → Holding.Answers question holding) ∧
            (c.evaluate ctx s).2 = (asked s).2 ∧
            ((∀ creature, ctx.character? s.world slot = some creature → creature.ChargesFit) →
              ((c.evaluate ctx s).1 = true ↔ ∃ holding creature, (asked s).1 = some holding ∧
                ctx.character? (asked s).2.world slot = some creature ∧ holding.Of creature.inventory.held))) ∧
    (∀ slot typeId ms ns, WithText itemKeys slot typeId ms → HasCharges slot typeId 1 ns →
      ∃ c c', load (.object ms) = .ok c ∧ load (.object ns) = .ok c' ∧ ∀ ctx, c.evaluate ctx = c'.evaluate ctx) ∧
    ∀ (ctx : Context) (w w' : World), w.HoldsSame w' →
      (∀ slot owner id, ctx.handle? slot = some (.item (.carried owner id)) →
        ∀ c, w.character? owner = some c → (c.items.map (·.id)).Nodup) → w.Rearranged ctx w' := by
  refine ⟨?_, ?_, ?_⟩
  · intro key json c hkey hof hload
    obtain ⟨t, slot, question, rfl, hquestion, hholding⟩ := exists_holding hkey hof hload
    refine ⟨t, slot, question, rfl, hquestion, fun ctx => ?_⟩
    obtain ⟨asked, hasked, hanswers⟩ := hholding ctx
    have hevaluate : evaluate ctx (.test t) = t.evaluate ctx := by rw [evaluate]
    rw [hevaluate]
    exact ⟨Test.oblivious hasked, asked, hasked,
      fun s => ⟨hanswers s, t.evaluate_state hasked s, t.evaluate_iff hasked⟩⟩
  · intro slot typeId ms ns hitem hcharges
    exact ⟨_, _, load_hasItem hitem, hcharges.load, evaluate_hasItem⟩
  · intro ctx w w' hsame hdistinct
    exact .of_distinct hsame hdistinct

/-- Ann has a stolen knife in her hand as she had in her bag, and has a knife as she has one charge of knives. -/
theorem held_items_decide_about_ann :
    let rope : Item := { Item.ofType "rope" with id := .ofNat 8 }
    let s := stateOfAnn ⟨[knife, rope], [], none⟩
    (∃ c, load (.string "u_has_stolen_item") = .ok c ∧ (c.evaluate annAndKnife s).1 = true ∧
      (c.evaluate annAndKnife (s.inWorld (worldOfAnn ⟨[], [rope], some knife⟩))).1 = true) ∧
    ∃ c c', load (.object [("u_has_item", .string "knife")]) = .ok c ∧
      load (.object [("u_has_items", .object [("charges", .int 1), ("item", .string "knife")])]) = .ok c' ∧
      c.evaluate annAndKnife = c'.evaluate annAndKnife ∧ (c'.evaluate annAndKnife s).1 = true := by
  intro rope s
  obtain ⟨hinvariant, hcharge, hfound⟩ := held_items_decide
  have hfit : ∀ creature, annAndKnife.character? s.world .primary = some creature → creature.ChargesFit :=
    charges_of_ann_fit (by decide) .primary
  have hknife : knife ∈ (Inventory.mk [knife, rope] [] none).held := by decide
  refine ⟨?_, ?_⟩
  · have hload : load (.string "u_has_stolen_item") = .ok (.test (.fact .primary .holdsStolenItem)) := load_string
    have hsame : s.world.HoldsSame (worldOfAnn ⟨[], [rope], some knife⟩) := holdsSame_of_ann (.swap _ _ _)
    have hdistinct : ∀ slot owner id, annAndKnife.handle? slot = some (.item (.carried owner id)) →
        ∀ c, s.world.character? owner = some c → (c.items.map (·.id)).Nodup := by
      intro slot owner id hhandle c hc
      cases slot <;> cases hhandle
      cases hc
      decide
    have hworld := hfound annAndKnife _ _ hsame hdistinct
    obtain ⟨t, _, _, ht, -, hall⟩ := hinvariant _ _ _ (by decide) (.inl rfl) hload
    obtain rfl := Condition.test.inj ht
    obtain ⟨hoblivious, asked, hasked, hexact⟩ := hall annAndKnife
    cases hasked
    have htrue := ((hexact s).2.2 hfit).2 ⟨.owner "bandits", _, rfl, rfl, knife, hknife, rfl⟩
    obtain ⟨w'', heq, -⟩ := hoblivious s _ hworld
    refine ⟨_, hload, htrue, ?_⟩
    rw [heq, htrue]
  · have hitemKeys : ["u_has_item"].filter Catalog.isKey = ["u_has_item"] := by decide
    have hitemsKeys : ["u_has_items"].filter Catalog.isKey = ["u_has_items"] := by decide
    have hitem : WithText itemKeys .primary (.literal "knife") [("u_has_item", .string "knife")] :=
      ⟨_, _, .head _, ⟨hitemKeys, rfl⟩, Source.load_string⟩
    have hcharges : HasCharges .primary (.literal "knife") 1
        [("u_has_items", .object [("charges", .int 1), ("item", .string "knife")])] :=
      .of (.head _) ⟨hitemsKeys, rfl⟩ rfl Source.load_string rfl rfl ⟨1, by decide, rfl⟩
    obtain ⟨c, c', hload, hload', hevaluate⟩ := hcharge _ _ _ _ hitem hcharges
    obtain rfl := Except.ok.inj (hload'.symm.trans hcharges.load)
    obtain ⟨t, _, _, ht, -, hall⟩ :=
      hinvariant "u_has_items" _ _ (by decide) (.inr ⟨[("u_has_items", _)], rfl, hitemsKeys⟩) hload'
    obtain rfl := Condition.test.inj ht
    obtain ⟨-, asked, hasked, hexact⟩ := hall annAndKnife
    cases hasked
    have hone : (1 : Int32).toInt ≤ chargesAmong (Inventory.mk [knife, rope] [] none).held "knife" := by decide
    have htrue := ((hexact s).2.2 hfit).2 ⟨.charges "knife" 1, _, rfl, rfl, hone⟩
    exact ⟨c, _, hload, hload', hevaluate annAndKnife, htrue⟩

/-- Where another item has the id of the knife and comes first, nobody finds that the knife is stolen. -/
theorem arrangement_matters : ¬∀ key json c, key ∈ holdingKeys → OfKey key json → load json = .ok c →
    ∀ ctx (s : State) w', (∀ slot creature, ctx.character? s.world slot = some creature → creature.ChargesFit) →
      s.world.HoldsSame w' → (c.evaluate ctx (s.inWorld w')).1 = (c.evaluate ctx s).1 := by
  intro hall
  let rope : Item := { Item.ofType "rope" with id := knife.id }
  have hsame : (worldOfAnn ⟨[knife, rope], [], none⟩).HoldsSame (worldOfAnn ⟨[rope, knife], [], none⟩) :=
    holdsSame_of_ann (.swap _ _ _)
  have hanswers := hall "u_has_stolen_item" (.string "u_has_stolen_item") (.test (.fact .primary .holdsStolenItem))
    (by decide) (.inl rfl) load_string annAndKnife (stateOfAnn ⟨[knife, rope], [], none⟩) _
    (charges_of_ann_fit (by decide)) hsame
  have hbefore : (evaluate annAndKnife (.test (.fact .primary .holdsStolenItem))
      (stateOfAnn ⟨[knife, rope], [], none⟩)).1 = true := by decide
  have hafter : (evaluate annAndKnife (.test (.fact .primary .holdsStolenItem))
      (stateOfAnn ⟨[rope, knife], [], none⟩)).1 = false := by decide
  exact nomatch hafter.symm.trans (hanswers.trans hbefore)

end Condition

end Parley
