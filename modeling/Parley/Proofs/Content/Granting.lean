import Parley.Proofs.Access
import Parley.Proofs.Condition.Written
import Parley.Proofs.Content.Construct
import Parley.Proofs.Value.Written

/-!
What content grants. A relation between content and accesses that follows the forms of content, one
clause for each way to name a variable, to draw a number or to compute a value, holds of whatever is
compiled. Main statements: the accesses of each kind of syntax are granted by the content that it is
compiled from.
-/

set_option autoImplicit false
set_option relaxedAutoImplicit false

namespace Parley

private theorem Ranged.get?_of_loadMember {m : Measure} {ms : Json.Members} {member : String}
    {range : Ranged m} (h : Ranged.loadMember m ms member none = .ok range) :
    ∃ json, ms.get? member = some json := by
  cases hmember : ms.get? member with
  | some json => exact ⟨json, rfl⟩
  | none =>
    unfold Ranged.loadMember at h
    rw [hmember] at h
    cases h

private theorem Condition.accesses_of_loadKey {key : String} {c : Condition} (h : loadKey key = .ok c) :
    c.accesses = [] := by
  unfold loadKey at h
  split at h
  · cases h; rfl
  · cases h; rfl
  · split at h
    · cases h; rfl
    · split at h <;> cases h

def Arguments.fit (key : String) : Arguments → Bool
  | .oneIn | .xInY => Construct.chanceKeys.contains key
  | .variableIs | .compareVariable | .compareElapsed => Construct.variableKeys.contains key
  | _ => true

private theorem Catalog.fit_of_arguments? {key : String} {slot : Slot} {arguments : Arguments}
    (h : arguments? key = some (slot, arguments)) : arguments.fit key = true := by
  have hall : parameterized.all (fun e => e.2.2.fit e.1) = true := by decide
  exact List.all_eq_true.1 hall _ (Entries.mem_of_find? h)

/-- A relation between content at some place and the accesses that it grants. -/
structure Granting (grants : Place → Json → Access → Prop) : Prop where
  member : ∀ {place : Place} {ms : Json.Members} {name : String} {json : Json} {x : Access},
    ms.get? name = some json → grants (.under name) json x → grants place (.object ms) x
  item : ∀ {place : Place} {items : List Json} {item : Json} {x : Access},
    item ∈ items → grants place.ofItems item x → grants place (.array items) x
  pair : ∀ {low high : Json}, grants .range (.array [low, high]) .draw
  computed : ∀ {place : Place} {ms : Json.Members} {name : String} {json : Json},
    (Source.membersOf ms).length ≤ 1 → name ∈ ["arithmetic", "effect"] →
      ms.get? name = some json → grants place (.object ms) .compute
  random : ∀ {place : Place} {ms : Json.Members} {json : Json},
    ms.get? "rand" = some json → grants place (.object ms) .draw
  chance : ∀ {place : Place} {ms : Json.Members} {key : String} {json : Json},
    key ∈ Construct.chanceKeys → ms.get? key = some json → grants place (.object ms) .draw
  reference : ∀ {place : Place} {ms : Json.Members} {requireDefault : Bool} {ref : Reference},
    Reference.load ms requireDefault = .ok ref →
      grants place (.object ms) (.read ref) ∧ grants place (.object ms) (.write ref)
  stored : ∀ {place : Place} {ms : Json.Members} {slot : Slot} {json : Json} {ref : Reference},
    ms.get? (Operand.scopeOf slot).member = some json → Operand.loadVariable ms slot = .ok ref →
      grants place (.object ms) (.read ref)
  keyed : ∀ {place : Place} {ms : Json.Members} {key : String} {slot : Slot} {ref : Reference},
    key ∈ Construct.variableKeys → Test.loadReference ms key slot = .ok ref →
      grants place (.object ms) (.read ref)

namespace Granting

variable {grants : Place → Json → Access → Prop}

private theorem operandItem (G : Granting grants) {place : Place} {ms : Json.Members} {name : String}
    {items : List Json} {item : Json} {x : Access} (hname : Place.under name = .operands)
    (hmember : ms.get? name = some (.array items)) (hitem : item ∈ items)
    (h : grants .range item x) : grants place (.object ms) x := by
  refine G.member hmember (G.item hitem ?_)
  rw [hname]
  exact h

private theorem reading (G : Granting grants) {place : Place} {ms : Json.Members} {operand : Operand}
    (h : Operand.Reading ms operand) : ∀ x ∈ operand.accesses, grants place (.object ms) x := by
  cases h with
  | constant | clock | weather | creature | coordinate => nofun
  | random member_eq most => exact List.forall_mem_singleton.2 (G.random member_eq)
  | stored member_eq ref_eq => exact List.forall_mem_singleton.2 (G.stored member_eq ref_eq)
  | elapsed member_eq ref_eq => exact List.forall_mem_singleton.2 (G.stored member_eq ref_eq)

private theorem target (G : Granting grants) {place : Place} {json : Json} {ref : Reference}
    (h : Effect.loadTarget json = .ok ref) :
    grants place json (.read ref) ∧ grants place json (.write ref) := by
  obtain ⟨ms, rfl, hload, -⟩ := Effect.loadTarget_eq_ok_iff_load.1 h
  exact G.reference hload

mutual

theorem effect (G : Granting grants) {json : Json} {e : Effect} (h : Effect.Written json e) :
    ∀ x ∈ e.accesses, grants .other json x := by
  match h with
  | .sequence all =>
    rw [Effect.accesses]
    intro x hx
    obtain ⟨item, hitem, hgranted⟩ := effects G all x hx
    exact G.item hitem hgranted
  | .arithmetic member_eq inner =>
    intro x hx
    obtain ⟨item, hitem, hgranted⟩ := arithmetic G inner x hx
    exact G.operandItem (by cbv) member_eq hitem hgranted
  | .setText _ member_eq target_eq ref_eq inner =>
    rw [Effect.accesses, List.forall_mem_cons]
    have htarget := Json.Members.objectAt_eq_ok_iff.1 target_eq
    exact ⟨G.member htarget (G.reference ref_eq).2,
      fun x hx => G.member member_eq (source G _ inner x hx)⟩

theorem effects (G : Granting grants) {items : List Json} {es : List Effect}
    (h : Effect.WrittenAll items es) :
    ∀ x ∈ Effect.accessesAll es, ∃ item ∈ items, grants .other item x := by
  match h with
  | .nil => simp [Effect.accessesAll]
  | .cons head tail =>
    rw [Effect.accessesAll, List.forall_mem_append]
    refine ⟨fun x hx => ⟨_, List.mem_cons_self .., effect G head x hx⟩, fun x hx => ?_⟩
    obtain ⟨item, hitem, hgranted⟩ := effects G tail x hx
    exact ⟨item, List.mem_cons_of_mem _ hitem, hgranted⟩

private theorem arithmetic (G : Granting grants) {items : List Json} {e : Effect}
    (h : Effect.WrittenArithmetic items e) :
    ∀ x ∈ e.accesses, ∃ item ∈ items, grants .range item x := by
  match h with
  | .value a_written =>
    rw [Effect.accesses, Term.accesses]
    exact fun x hx => ⟨_, by simp, operand G a_written x hx⟩
  | .step _ target_eq _ =>
    simp only [Effect.step, Effect.accesses, Term.accesses, Operand.accesses, List.singleton_append,
      List.forall_mem_cons]
    exact ⟨⟨_, by simp, (G.target target_eq).2⟩, ⟨_, by simp, (G.target target_eq).1⟩, by simp⟩
  | .assign _ target_eq a_written =>
    rw [Effect.accesses, Term.accesses, List.forall_mem_cons]
    exact ⟨⟨_, by simp, (G.target target_eq).2⟩,
      fun x hx => ⟨_, by simp, operand G a_written x hx⟩⟩
  | .binary _ _ a_written b_written =>
    rw [Effect.accesses, Term.accesses, List.forall_mem_append]
    exact ⟨fun x hx => ⟨_, by simp, operand G a_written x hx⟩,
      fun x hx => ⟨_, by simp, operand G b_written x hx⟩⟩
  | .assignBinary _ _ target_eq a_written b_written =>
    rw [Effect.accesses, Term.accesses, List.forall_mem_cons, List.forall_mem_append]
    exact ⟨⟨_, by simp, (G.target target_eq).2⟩,
      fun x hx => ⟨_, by simp, operand G a_written x hx⟩,
      fun x hx => ⟨_, by simp, operand G b_written x hx⟩⟩

theorem operand (G : Granting grants) {json : Json} {member : String} {o : Operand}
    (h : Operand.Written member json o) :
    ∀ x ∈ o.accesses, grants .range json x := by
  match h with
  | .reading reading_eq => exact G.reading (Operand.reading_of_loadReading reading_eq)
  | .value _ inner =>
    rw [Operand.accesses]
    exact ranged G inner

theorem ranged (G : Granting grants) {m : Measure} {json : Json} {member : String}
    {range : Ranged m} (h : Ranged.Written m member json range) :
    ∀ x ∈ range.accesses, grants .range json x := by
  match h with
  | .pair low_written high_written =>
    rw [Ranged.accesses, List.forall_mem_append, List.forall_mem_append, List.forall_mem_singleton]
    exact ⟨⟨fun x hx => G.item (by simp) (source G _ low_written x hx),
      fun x hx => G.item (by simp) (source G _ high_written x hx)⟩, G.pair⟩
  | .single _ inner =>
    rw [Ranged.accesses]
    exact source G _ inner

theorem source (G : Granting grants) (place : Place) {k : Kind} {json : Json} {member : String}
    {value : Source k} (h : Source.Written k member json value) :
    ∀ x ∈ value.accesses, grants place json x := by
  match h with
  | .literal _ _ => simp [Source.accesses]
  | .arithmetic members_le _ member_eq inner =>
    rw [Source.accesses, List.forall_mem_cons]
    refine ⟨G.computed members_le (by simp) member_eq, fun x hx => ?_⟩
    obtain ⟨item, hitem, hgranted⟩ := arithmetic G inner x hx
    exact G.operandItem (by cbv) member_eq hitem hgranted
  | .effect members_le _ member_eq inner =>
    rw [Source.accesses, List.forall_mem_cons]
    have hplace : Place.under "effect" = .other := by cbv
    exact ⟨G.computed members_le (by simp) member_eq,
      fun x hx => G.member member_eq (hplace ▸ effect G inner x hx)⟩
  | .reference _ _ ref_eq =>
    rw [Source.accesses, List.forall_mem_singleton]
    exact (G.reference ref_eq).1

end

private theorem sourceMember (G : Granting grants) {place : Place} {k : Kind} {ms : Json.Members}
    {member : String} {default : Option k.Value} {value : Source k}
    (h : Source.loadMember k ms member default = .ok value) :
    ∀ x ∈ value.accesses, grants place (.object ms) x := by
  unfold Source.loadMember at h
  split at h
  · rename_i hmember
    exact fun x hx => G.member hmember (G.source _ (Source.written_of_load h) x hx)
  · cases h
    simp [Source.accesses]
  · cases h

private theorem rangedMember (G : Granting grants) {place : Place} {m : Measure} {ms : Json.Members}
    {member : String} {default : Option m.Value} {range : Ranged m}
    (hplace : Place.under member = .range) (h : Ranged.loadMember m ms member default = .ok range) :
    ∀ x ∈ range.accesses, grants place (.object ms) x := by
  unfold Ranged.loadMember at h
  split at h
  · rename_i hmember
    intro x hx
    refine G.member hmember ?_
    rw [hplace]
    exact G.ranged (Ranged.written_of_load h) x hx
  · cases h
    simp [Ranged.accesses, Source.accesses]
  · cases h

private theorem sources (G : Granting grants) {k : Kind} {member : String} {items : List Json}
    {values : List (Source k)} (h : Source.loadAll k member items = .ok values) :
    ∀ x ∈ values.flatMap Source.accesses, ∃ item ∈ items, ∀ place, grants place item x := by
  induction items generalizing values with
  | nil =>
    cases h
    simp
  | cons item rest ih =>
    unfold Source.loadAll at h
    split at h
    · cases h
    · rename_i source hitem
      obtain ⟨others, hrest, rfl⟩ := Loaded.map_eq_ok_iff.1 h
      rw [List.flatMap_cons, List.forall_mem_append]
      refine ⟨fun x hx => ?_, fun x hx => ?_⟩
      · exact ⟨item, List.mem_cons_self .., fun _ => G.source _ (Source.written_of_load hitem) x hx⟩
      · obtain ⟨item', hitem', hgranted⟩ := ih hrest x hx
        exact ⟨item', List.mem_cons_of_mem _ hitem', hgranted⟩

private theorem needLevel (G : Granting grants) {place : Place} {ms : Json.Members}
    {range : Ranged .integer} (h : Test.loadNeedLevel ms = .ok range) :
    ∀ x ∈ range.accesses, grants place (.object ms) x := by
  unfold Test.loadNeedLevel at h
  split at h
  · obtain ⟨level, _, h⟩ := Loaded.bind_eq_ok_iff.1 h
    cases h
    simp [Ranged.accesses, Source.accesses]
  · exact G.rangedMember (by cbv) h

private theorem test (G : Granting grants) {place : Place} {ms : Json.Members} {key : String} {slot : Slot}
    {arguments : Arguments} {t : Test} (hkey : Catalog.arguments? key = some (slot, arguments))
    (h : Test.load ms key slot arguments = .ok t) :
    ∀ x ∈ t.accesses, grants place (.object ms) x := by
  have hfit := Catalog.fit_of_arguments? hkey
  cases Test.written_of_load h with
  | anyTrait items_eq traits_eq =>
    intro x hx
    obtain ⟨item, hitem, hgranted⟩ := G.sources traits_eq x hx
    exact G.member items_eq (G.item hitem (hgranted _))
  | text text_eq | prompt text_eq => exact G.sourceMember text_eq
  | level level_eq | hitPoints level_eq => exact G.rangedMember (by rw [Place.under, hkey]) level_eq
  | need _ level_eq => exact G.needLevel level_eq
  | items params_eq text_eq _ amount_eq | charges params_eq text_eq _ amount_eq | skill params_eq text_eq amount_eq =>
    exact List.forall_mem_append.2 ⟨fun x hx => G.member params_eq (G.sourceMember text_eq x hx),
      fun x hx => G.member params_eq (G.rangedMember (by cbv) amount_eq x hx)⟩
  | category text_eq amount_eq | effect text_eq amount_eq | nearLocation text_eq amount_eq =>
    exact List.forall_mem_append.2 ⟨G.sourceMember text_eq, G.rangedMember (by cbv) amount_eq⟩
  | direction | aimRule | engagementRule | reserveRule | rechargeRule | season | missionGoal =>
    simp [Test.accesses]
  | variableIs name_eq =>
    have href : Test.loadReference ms key slot = .ok _ := Test.loadReference_eq_ok_iff.2 ⟨_, name_eq, rfl⟩
    exact List.forall_mem_singleton.2 (G.keyed (List.contains_iff_mem.1 hfit) href)
  | compareVariable name_eq _ bound_eq | compareElapsed name_eq _ bound_eq =>
    have href : Test.loadReference ms key slot = .ok _ := Test.loadReference_eq_ok_iff.2 ⟨_, name_eq, rfl⟩
    exact List.forall_mem_cons.2
      ⟨G.keyed (List.contains_iff_mem.1 hfit) href, G.rangedMember (by cbv) bound_eq⟩
  | oneIn n_eq =>
    obtain ⟨json, hmember⟩ := Ranged.get?_of_loadMember n_eq
    exact List.forall_mem_append.2 ⟨G.rangedMember (by rw [Place.under, hkey]) n_eq,
      List.forall_mem_singleton.2 (G.chance (List.contains_iff_mem.1 hfit) hmember)⟩
  | xInY params_eq x_eq y_eq =>
    exact List.forall_mem_append.2
      ⟨List.forall_mem_append.2
        ⟨fun x hx => G.member params_eq (G.rangedMember (by cbv) x_eq x hx),
          fun x hx => G.member params_eq (G.rangedMember (by cbv) y_eq x hx)⟩,
        List.forall_mem_singleton.2 (G.chance (List.contains_iff_mem.1 hfit) params_eq)⟩
  | compareIntegers values_eq left_eq right_eq =>
    have hplace : Place.under key = .operands := by rw [Place.under, hkey]
    exact List.forall_mem_append.2
      ⟨fun x hx => G.operandItem hplace values_eq (by simp) (G.operand (Operand.written_of_load left_eq) x hx),
        fun x hx => G.operandItem hplace values_eq (by simp) (G.operand (Operand.written_of_load right_eq) x hx)⟩
  | compareTexts values_eq left_eq right_eq =>
    exact List.forall_mem_append.2
      ⟨fun x hx => G.member values_eq (G.item (by simp) (G.source _ (Source.written_of_load left_eq) x hx)),
        fun x hx => G.member values_eq (G.item (by simp) (G.source _ (Source.written_of_load right_eq) x hx))⟩

mutual

theorem condition (G : Granting grants) (place : Place) {json : Json} {c : Condition}
    (h : Condition.Written json c) :
    ∀ x ∈ c.accesses, grants place json x := by
  match h with
  | .constant b => simp [Condition.accesses]
  | .key key_eq => simp [Condition.accesses_of_loadKey key_eq]
  | .negate _ _ member_eq inner =>
    rw [Condition.accesses]
    exact fun x hx => G.member member_eq (condition G _ inner x hx)
  | .all _ _ member_eq inner =>
    rw [Condition.accesses]
    intro x hx
    obtain ⟨item, hitem, hgranted⟩ := conditions G inner x hx
    exact G.member member_eq (G.item hitem (hgranted _))
  | .any _ _ member_eq inner =>
    rw [Condition.accesses]
    intro x hx
    obtain ⟨item, hitem, hgranted⟩ := conditions G inner x hx
    exact G.member member_eq (G.item hitem (hgranted _))
  | .test _ _ arguments_eq test_eq =>
    rw [Condition.accesses]
    exact G.test arguments_eq test_eq
  | .bare _ _ _ key_eq => simp [Condition.accesses_of_loadKey key_eq]

private theorem conditions (G : Granting grants) {items : List Json} {cs : List Condition}
    (h : Condition.WrittenAll items cs) :
    ∀ x ∈ Condition.accessesAll cs, ∃ item ∈ items, ∀ place, grants place item x := by
  match h with
  | .nil => simp [Condition.accessesAll]
  | .cons head tail =>
    rw [Condition.accessesAll, List.forall_mem_append]
    refine ⟨fun x hx => ⟨_, List.mem_cons_self .., fun _ => condition G _ head x hx⟩, fun x hx => ?_⟩
    obtain ⟨item, hitem, hgranted⟩ := conditions G tail x hx
    exact ⟨item, List.mem_cons_of_mem _ hitem, hgranted⟩

end

end Granting

end Parley
