import Parley.Proofs.Evaluation.Logic
import Parley.Proofs.World.Development

/-!
Development of the world along an evaluation. A relation between worlds that takes no steps, follows its
own steps and is kept by every write is kept by every evaluation. Main statement: evaluation changes
nothing but variables, and a faction becomes known only where a write in its scope stands.
-/

set_option autoImplicit false
set_option relaxedAutoImplicit false

namespace Parley

namespace Evaluation

variable {α β : Type} {ctx : Context} {allowed : Access → Prop} {R : World → World → Prop}

/-- An evaluation that relates the world before it to the one after it. -/
def Along (R : World → World → Prop) (m : Evaluation α) : Prop :=
  ∀ s, R s.world (m s).2.world

/-- A relation on worlds that the steps of a run can be lined up along. -/
structure Steps (ctx : Context) (allowed : Access → Prop) (R : World → World → Prop) : Prop where
  refl : ∀ w, R w w
  trans : ∀ w w' w'', R w w' → R w' w'' → R w w''
  write : allowed .compute → ∀ ref, ref = .temp ∨ allowed (.write ref) →
    ∀ text, Along R (Evaluation.write ctx ref text)

namespace Along

private theorem bind (h : Steps ctx allowed R) {m : Evaluation α} {f : α → Evaluation β} (hm : Along R m)
    (hf : ∀ a, Along R (f a)) : Along R (m >>= f) :=
  fun s => h.trans _ _ _ (hm s) (hf _ _)

private theorem of_world_eq (h : Steps ctx allowed R) {m : Evaluation α}
    (hm : ∀ s, (m s).2.world = s.world) : Along R m := by
  intro s
  rw [hm s]
  exact h.refl _

private theorem closeFrame (h : Steps ctx allowed R) : Along R closeFrame := by
  refine of_world_eq h fun s => ?_
  change s.closeFrame.2.world = s.world
  unfold State.closeFrame
  split <;> rfl

end Along

/-- What has allowed accesses only keeps a relation that writes keep. Effects are run where computed
values are allowed. -/
def along (h : Steps ctx allowed R) : Logic ctx allowed where
  Value := Along R
  Run m := allowed .compute → Along R m
  value_pure _ := .of_world_eq h fun _ => rfl
  value_bind := .bind h
  value_report _ := .of_world_eq h fun _ => rfl
  value_ask _ := .of_world_eq h fun _ => rfl
  value_read _ := .of_world_eq h fun _ => rfl
  value_draw _ _ _ := .of_world_eq h fun _ => rfl
  value_chance _ _ := .of_world_eq h fun _ => rfl
  value_framed hcompute hm hf :=
    .bind h (.of_world_eq h fun _ => rfl) fun _ =>
      .bind h (hm hcompute) fun _ => .bind h (.closeFrame h) hf
  run_pure _ := .of_world_eq h fun _ => rfl
  run_bind hm hn hcompute := .bind h (hm hcompute) fun _ => hn hcompute
  run_report _ hm hcompute := .bind h hm fun _ => h.write hcompute _ (.inl rfl) _
  run_write _ href hm hcompute := .bind h hm fun _ => h.write hcompute _ (.inr href) _

end Evaluation

/-- Some access writes to the variables of a faction. -/
def Context.Founds (ctx : Context) (accesses : List Access) (w : World) (faction : String) : Prop :=
  ∃ ref, .write ref ∈ accesses ∧ ctx.store? w ref.scope = some (.faction faction)

/-- The world develops, and a faction becomes known only where it is written to. -/
structure Context.Develops (ctx : Context) (accesses : List Access) (w w' : World) : Prop where
  world : w.Develops w'
  founded : ∀ faction, w.factions.get? faction = none → (w'.factions.get? faction).isSome = true →
    ctx.Founds accesses w faction

namespace State

variable (s : State) {ctx : Context}

private theorem factions_writeGlobal (name text : String) :
    (s.writeGlobal name text).world.factions = s.world.factions := by
  unfold writeGlobal
  split
  · cases s.frames <;> rfl
  · rfl

private theorem get?_factions_put (cell : Store × String) (text : String) {faction : String}
    (h : cell.1 ≠ .faction faction) :
    (s.put cell text).world.factions.get? faction = s.world.factions.get? faction := by
  obtain ⟨store, name⟩ := cell
  cases store with
  | globals => exact congrArg (·.get? faction) (s.factions_writeGlobal name text)
  | actor handle => rcases handle with id | ⟨id⟩ | ⟨owner, id⟩ <;> rfl
  | faction id =>
    have hne : id ≠ faction := fun heq => h (congrArg Store.faction heq)
    exact (s.get?_factions_writeFaction id name text faction).trans (if_neg hne)

private theorem develops_write_of_mem {accesses : List Access} {ref : Reference}
    (href : ref = .temp ∨ .write ref ∈ accesses) (text : String) :
    ctx.Develops accesses s.world (s.write ctx ref text).world where
  world := s.develops_write ctx ref text
  founded faction hnone hsome := by
    by_cases h : ctx.store? s.world ref.scope = some (.faction faction)
    · rcases href with rfl | hmem
      · cases h
      · exact ⟨ref, hmem, h⟩
    · have hkept : (s.write ctx ref text).world.factions.get? faction =
          s.world.factions.get? faction := by
        rw [write_eq, Context.cell?]
        cases hstore : ctx.store? s.world ref.scope with
        | none => rfl
        | some store => exact s.get?_factions_put _ text fun heq => h (hstore.trans (congrArg some heq))
      rw [hkept, hnone] at hsome
      cases hsome

end State

namespace Context.Develops

variable {ctx : Context} {accesses : List Access} {w w' w'' : World}

private theorem refl (w : World) : ctx.Develops accesses w w where
  world := .refl w
  founded faction hnone hsome := by
    rw [hnone] at hsome
    cases hsome

private theorem trans (h : ctx.Develops accesses w w') (h' : ctx.Develops accesses w' w'') :
    ctx.Develops accesses w w'' where
  world := h.world.trans h'.world
  founded faction hnone hsome := by
    cases hfirst : w'.factions.get? faction with
    | some f => exact h.founded faction hnone (by rw [hfirst]; rfl)
    | none =>
      obtain ⟨ref, hmem, hfaction⟩ := h'.founded faction hfirst hsome
      -- the scope that is written in the second step had the same store before the first
      rw [h.world.store?_eq] at hfaction
      exact ⟨ref, hmem, hfaction⟩

end Context.Develops

namespace Evaluation

private theorem steps_develops (ctx : Context) (accesses : List Access) :
    Steps ctx (fun x => x = .compute ∨ x ∈ accesses) (ctx.Develops accesses) where
  refl := .refl
  trans _ _ _ := .trans
  write _ ref href text s := by
    refine s.develops_write_of_mem ?_ text
    rcases href with htemp | hcompute | hmem
    · exact .inl htemp
    · cases hcompute
    · exact .inr hmem

/-- The world develops along an evaluation that has accesses from a list only. -/
def development (ctx : Context) (accesses : List Access) :
    Logic ctx fun x => x = .compute ∨ x ∈ accesses :=
  along (steps_develops ctx accesses)

end Evaluation

open Evaluation

/-- Evaluation changes nothing but variables. What is not stored in variables stays, no variable loses its
text, and a faction that becomes known has nothing but its id and variables, and a write in its scope. -/
theorem evaluation_develops (ctx : Context) :
    (∀ condition : Condition,
      Along (ctx.Develops condition.accesses) (condition.evaluate ctx)) ∧
    (∀ (k : Kind) (value : Source k), Along (ctx.Develops value.accesses) (value.evaluate ctx)) ∧
    (∀ (m : Measure) (value : Ranged m), Along (ctx.Develops value.accesses) (value.evaluate ctx)) ∧
    (∀ operand : Operand, Along (ctx.Develops operand.accesses) (operand.evaluate ctx)) ∧
    (∀ effect : Effect, Along (ctx.Develops effect.accesses) (effect.run ctx)) := by
  refine ⟨?_, ?_, ?_, ?_, ?_⟩
  · intro condition
    exact (development ctx condition.accesses).condition condition fun _ => .inr
  · intro k value
    exact (development ctx value.accesses).source value fun _ => .inr
  · intro m value
    exact (development ctx value.accesses).ranged value fun _ => .inr
  · intro operand
    exact (development ctx operand.accesses).operand operand fun _ => .inr
  · intro effect
    exact (development ctx effect.accesses).effect effect (fun _ => .inr) (.inl rfl)

end Parley
