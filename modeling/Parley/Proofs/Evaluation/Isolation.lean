import Parley.Proofs.Evaluation.Logic
import Parley.Proofs.Talk.Core

/-!
Isolation of evaluation. What is compiled from content reads no frame and not the reserved variable, and
the effect of a computed value has a frame of its own; so evaluation leaves both alone and does not
depend on them. Main statements: evaluation is isolated, and an effect that is run changes, besides its
targets, only what was reported last.
-/

set_option autoImplicit false
set_option relaxedAutoImplicit false

namespace Parley

namespace Evaluation

variable {α β : Type} {ctx : Context}

/-- An evaluation that depends on the core of the state only: from states that agree on their cores it
gives the same value, and states that agree on their cores again. -/
def Uniform (m : Evaluation α) : Prop :=
  ∀ s s', s.core = s'.core → (m s).1 = (m s').1 ∧ (m s).2.core = (m s').2.core

/-- An evaluation that has nothing to do with the open frames and the reserved variable. -/
structure Isolated (m : Evaluation α) : Prop where
  frames_eq : ∀ s, (m s).2.frames = s.frames
  temp_eq : ∀ s, (m s).2.world.temp? = s.world.temp?
  uniform : Uniform m

/-- A run that has to do with the innermost open frame only, or with the reserved variable if no frame
is open. What it reports may be what was reported before it. -/
structure Confined (m : Evaluation PUnit) : Prop where
  frames_of_nil : ∀ s, s.frames = [] → (m s).2.frames = []
  frames_of_cons : ∀ s frame rest, s.frames = frame :: rest → ∃ frame', (m s).2.frames = frame' :: rest
  temp_eq : ∀ s, s.frames ≠ [] → (m s).2.world.temp? = s.world.temp?
  uniform : Uniform m
  reported_eq : ∀ s s', s.core = s'.core → s.reported = s'.reported →
    (m s).2.reported = (m s').2.reported

private theorem Uniform.bind {m : Evaluation α} {f : α → Evaluation β} (hm : Uniform m)
    (hf : ∀ a, Uniform (f a)) : Uniform (m >>= f) := by
  intro s s' h
  obtain ⟨hvalue, hcore⟩ := hm s s' h
  change (f (m s).1 (m s).2).1 = (f (m s').1 (m s').2).1 ∧ _ = (f (m s').1 (m s').2).2.core
  rw [← hvalue]
  exact hf _ _ _ hcore

private theorem uniform_of_core {m : Evaluation α} (h : ∀ s, (m s).1 = (m s.core).1)
    (hcore : ∀ s, (m s).2.core = (m s.core).2) : Uniform m := by
  intro s s' hs
  rw [h s, h s', hcore s, hcore s', hs]
  exact ⟨rfl, rfl⟩

private theorem uniform_write {ref : Reference} (text : String) (h : ref.Authored) :
    Uniform (write ctx ref text) :=
  uniform_of_core (fun _ => rfl) fun _ => State.core_write text h

private theorem uniform_write_temp (text : String) : Uniform (write ctx .temp text) := by
  intro s s' h
  change _ ∧ (s.write ctx .temp text).core = (s'.write ctx .temp text).core
  rw [State.core_write_temp, State.core_write_temp]
  exact ⟨rfl, h⟩

namespace Isolated

private theorem bind {m : Evaluation α} {f : α → Evaluation β} (hm : Isolated m)
    (hf : ∀ a, Isolated (f a)) : Isolated (m >>= f) where
  frames_eq s := ((hf _).frames_eq _).trans (hm.frames_eq s)
  temp_eq s := ((hf _).temp_eq _).trans (hm.temp_eq s)
  uniform := hm.uniform.bind fun a => (hf a).uniform

private theorem of_core {m : Evaluation α} (hframes : ∀ s, (m s).2.frames = s.frames)
    (hglobals : ∀ s, (m s).2.world.globals = s.world.globals) (h : ∀ s, (m s).1 = (m s.core).1)
    (hcore : ∀ s, (m s).2.core = (m s.core).2) : Isolated m where
  frames_eq := hframes
  temp_eq s := congrArg (·.texts.get? Reference.tempName) (hglobals s)
  uniform := uniform_of_core h hcore

private theorem read {ref : Reference} (h : ref.Authored) : Isolated (read ctx ref) :=
  of_core (fun _ => rfl) (fun _ => rfl) (fun _ => (State.read_core h).symm) fun _ => rfl

private theorem ask {f : World → α} (h : Blind f) : Isolated (ask f) :=
  of_core (fun _ => rfl) (fun _ => rfl) (fun s => (h s.world _).symm) fun _ => rfl

theorem reported_eq {m : Evaluation α} (hm : Isolated m) (s : State) :
    (m s).2.reported = s.reported :=
  State.reported_congr (hm.frames_eq s) (hm.temp_eq s)

theorem eq_openFrame {m : Evaluation α} (hm : Isolated m) (s : State) :
    m s.openFrame = ((m s).1, (m s).2.openFrame) := by
  have hcore : s.openFrame.core = s.core := rfl
  obtain ⟨hvalue, hstate⟩ := hm.uniform _ _ hcore
  have hframes : (m s.openFrame).2.frames = (m s).2.openFrame.frames := by
    rw [hm.frames_eq]
    exact congrArg (none :: ·) (hm.frames_eq s).symm
  have htemp : (m s.openFrame).2.world.temp? = (m s).2.openFrame.world.temp? :=
    (hm.temp_eq s.openFrame).trans (hm.temp_eq s).symm
  exact Prod.ext hvalue (State.ext_core hstate hframes htemp)

/-- Inside a frame of its own a run reports what does not depend on what was reported before, and the
frame is gone after it. -/
theorem framed {m : Evaluation PUnit} {f : String → Evaluation α} (hm : Confined m)
    (hf : ∀ text, Isolated (f text)) :
    Isolated (do openFrame; m; f (← closeFrame)) := by
  -- the state once the frame is closed, and what goes on from there
  have hrun : ∀ s : State, ∃ t : State, t.core = (m s.openFrame).2.core ∧ t.frames = s.frames ∧
      t.world.temp? = s.world.temp? ∧
      (do openFrame; m; f (← closeFrame) : Evaluation α) s = f (m s.openFrame).2.reported t := by
    intro s
    obtain ⟨frame, hframes⟩ := hm.frames_of_cons s.openFrame none s.frames rfl
    have htemp := hm.temp_eq s.openFrame (List.cons_ne_nil _ _)
    refine ⟨{ (m s.openFrame).2 with frames := s.frames }, rfl, rfl, htemp, ?_⟩
    change f (m s.openFrame).2.closeFrame.1 (m s.openFrame).2.closeFrame.2 = _
    rw [State.closeFrame_of_cons hframes]
  constructor
  · intro s
    obtain ⟨t, -, hframes, -, heq⟩ := hrun s
    rw [heq, (hf _).frames_eq, hframes]
  · intro s
    obtain ⟨t, -, -, htemp, heq⟩ := hrun s
    rw [heq, (hf _).temp_eq, htemp]
  · intro s s' h
    obtain ⟨t, hcore, -, -, heq⟩ := hrun s
    obtain ⟨t', hcore', -, -, heq'⟩ := hrun s'
    have hopen : s.openFrame.core = s'.openFrame.core := h
    have hreported := hm.reported_eq s.openFrame s'.openFrame hopen rfl
    have hcores : t.core = t'.core := by
      rw [hcore, hcore']
      exact (hm.uniform _ _ hopen).2
    rw [heq, heq', hreported]
    exact (hf _).uniform t t' hcores

end Isolated

namespace Confined

private theorem bind {m n : Evaluation PUnit} (hm : Confined m) (hn : Confined n) :
    Confined (m >>= fun _ => n) where
  frames_of_nil s h := hn.frames_of_nil _ (hm.frames_of_nil s h)
  frames_of_cons s frame rest h := by
    obtain ⟨frame', h'⟩ := hm.frames_of_cons s frame rest h
    exact hn.frames_of_cons _ frame' rest h'
  temp_eq s h := by
    obtain ⟨frame, rest, hframes⟩ := List.exists_cons_of_ne_nil h
    obtain ⟨frame', h'⟩ := hm.frames_of_cons s frame rest hframes
    have hn' := hn.temp_eq (m s).2 (h' ▸ List.cons_ne_nil _ _)
    exact hn'.trans (hm.temp_eq s h)
  uniform := hm.uniform.bind fun _ => hn.uniform
  reported_eq s s' h hreported :=
    hn.reported_eq _ _ (hm.uniform s s' h).2 (hm.reported_eq s s' h hreported)

/-- A report of a value that was evaluated in isolation. -/
theorem report {m : Evaluation α} (hm : Isolated m) (f : α → String) :
    Confined (do write ctx .temp (f (← m))) where
  frames_of_nil s h := by
    have hm' := (hm.frames_eq s).trans h
    change ((m s).2.write ctx .temp _).frames = []
    rw [State.write_temp_of_nil _ hm', hm']
  frames_of_cons s frame rest h := by
    have hm' := (hm.frames_eq s).trans h
    refine ⟨some (f (m s).1), ?_⟩
    change ((m s).2.write ctx .temp _).frames = _
    rw [State.write_temp_of_cons _ hm']
  temp_eq s h := by
    obtain ⟨frame, rest, hframes⟩ := List.exists_cons_of_ne_nil h
    have hm' := (hm.frames_eq s).trans hframes
    change ((m s).2.write ctx .temp _).world.temp? = _
    rw [State.write_temp_of_cons _ hm']
    exact hm.temp_eq s
  uniform := hm.uniform.bind fun _ => uniform_write_temp _
  reported_eq s s' h _ := by
    change ((m s).2.write ctx .temp _).reported = ((m s').2.write ctx .temp _).reported
    rw [State.reported_write_temp, State.reported_write_temp, (hm.uniform s s' h).1]

private theorem write {m : Evaluation α} {ref : Reference} (hm : Isolated m) (href : ref.Authored)
    (f : α → String) : Confined (do write ctx ref (f (← m))) where
  frames_of_nil s h := (State.write_kept _ href).1.trans ((hm.frames_eq s).trans h)
  frames_of_cons s frame rest h :=
    ⟨frame, (State.write_kept _ href).1.trans ((hm.frames_eq s).trans h)⟩
  temp_eq s _ := (State.write_kept _ href).2.trans (hm.temp_eq s)
  uniform := hm.uniform.bind fun _ => uniform_write _ href
  reported_eq s s' _ hreported := by
    change ((m s).2.write ctx ref _).reported = ((m s').2.write ctx ref _).reported
    rw [State.reported_write _ href, State.reported_write _ href, hm.reported_eq, hm.reported_eq,
      hreported]

end Confined

/-- What accesses authored variables only is isolated. -/
def isolation (ctx : Context) : Logic ctx Access.Authored where
  Value := Isolated
  Run := Confined
  value_pure _ := .of_core (fun _ => rfl) (fun _ => rfl) (fun _ => rfl) fun _ => rfl
  value_bind := .bind
  value_report _ := .of_core (fun _ => rfl) (fun _ => rfl) (fun _ => rfl) fun _ => rfl
  value_ask := .ask
  value_read := .read
  value_draw _ _ _ := .of_core (fun _ => rfl) (fun _ => rfl) (fun _ => rfl) fun _ => rfl
  value_chance _ _ := .of_core (fun _ => rfl) (fun _ => rfl) (fun _ => rfl) fun _ => rfl
  value_framed _ := .framed
  run_pure := ⟨fun _ h => h, fun _ frame _ h => ⟨frame, h⟩, fun _ _ => rfl,
    uniform_of_core (fun _ => rfl) fun _ => rfl, fun _ _ _ h => h⟩
  run_bind := .bind
  run_report f hm := .report hm f
  run_write f href hm := .write hm href f

/-- An evaluation that changes nothing of the world but the reserved variable and what writes of given
variables change. -/
def Touches (ctx : Context) (targets : Reference → Prop) (m : Evaluation α) : Prop :=
  ∀ s, ∃ texts : List (Reference × String), (∀ x ∈ texts, targets x.1) ∧
    (m s).2.world.withoutTemp = (s.world.writeAll ctx texts).withoutTemp

namespace Touches

variable {targets : Reference → Prop}

private theorem of_world_eq {m : Evaluation α} (h : ∀ s, (m s).2.world.withoutTemp = s.world.withoutTemp) :
    Touches ctx targets m := by
  intro s
  refine ⟨[], ?_, h s⟩
  intro x hx
  cases hx

private theorem bind {m : Evaluation α} {f : α → Evaluation β} (htargets : ∀ ref, targets ref → ref.Authored)
    (hm : Touches ctx targets m) (hf : ∀ a, Touches ctx targets (f a)) :
    Touches ctx targets (m >>= f) := by
  intro s
  obtain ⟨texts, hfirst, hworld⟩ := hm s
  obtain ⟨texts', hlast, hworld'⟩ := hf (m s).1 (m s).2
  refine ⟨texts ++ texts', List.forall_mem_append.2 ⟨hfirst, hlast⟩, ?_⟩
  have hauthored : ∀ x ∈ texts', x.1.Authored := fun x hx => htargets x.1 (hlast x hx)
  calc (f (m s).1 (m s).2).2.world.withoutTemp
      = ((m s).2.world.writeAll ctx texts').withoutTemp := hworld'
    _ = (m s).2.world.withoutTemp.writeAll ctx texts' := World.withoutTemp_writeAll _ _ _ hauthored
    _ = (s.world.writeAll ctx texts).withoutTemp.writeAll ctx texts' := by rw [hworld]
    _ = ((s.world.writeAll ctx texts).writeAll ctx texts').withoutTemp :=
        (World.withoutTemp_writeAll _ _ _ hauthored).symm
    _ = (s.world.writeAll ctx (texts ++ texts')).withoutTemp := by rw [World.writeAll_append]

private theorem write {ref : Reference} (text : String) (href : ref.Authored) (h : targets ref) :
    Touches ctx targets (write ctx ref text) := by
  intro s
  refine ⟨[(ref, text)], List.forall_mem_singleton.2 h, ?_⟩
  exact congrArg World.withoutTemp (State.world_write text href)

private theorem report (text : String) : Touches ctx targets (Evaluation.write ctx .temp text) := by
  refine of_world_eq fun s => ?_
  have hcore : (s.write ctx .temp text).core = s.core := State.core_write_temp text
  exact congrArg State.world hcore

private theorem closeFrame : Touches ctx targets closeFrame := by
  refine of_world_eq fun s => ?_
  change s.closeFrame.2.world.withoutTemp = _
  cases h : s.frames with
  | nil => rw [State.closeFrame, h]
  | cons frame rest => rw [State.closeFrame_of_cons h]

end Touches

/-- What writes the given variables only touches these only. -/
def footprint (ctx : Context) (targets : Reference → Prop)
    (htargets : ∀ ref, targets ref → ref.Authored) :
    Logic ctx fun x => ∀ ref, x = .write ref → targets ref where
  Value := Touches ctx targets
  Run := Touches ctx targets
  value_pure _ := .of_world_eq fun _ => rfl
  value_bind := .bind htargets
  value_report _ := .of_world_eq fun _ => rfl
  value_ask _ := .of_world_eq fun _ => rfl
  value_read _ := .of_world_eq fun _ => rfl
  value_draw _ _ _ := .of_world_eq fun _ => rfl
  value_chance _ _ := .of_world_eq fun _ => rfl
  value_framed _ hm hf :=
    .bind htargets (.of_world_eq fun _ => rfl) fun _ =>
      .bind htargets hm fun _ => .bind htargets .closeFrame hf
  run_pure := .of_world_eq fun _ => rfl
  run_bind hm hn := .bind htargets hm fun _ => hn
  run_report _ hm := .bind htargets hm fun _ => .report _
  run_write _ href hm := .bind htargets hm fun _ => .write _ (htargets _ (href _ rfl)) (href _ rfl)

end Evaluation

open Evaluation

theorem Effect.confined_of_load {json : Json} {effect : Effect} (ctx : Context)
    (h : Effect.load json = .ok effect) : Confined (effect.run ctx) :=
  (isolation ctx).effect effect (Effect.authored_of_load h)

/-- The variables that an effect and the effects nested in it write. -/
def Effect.Targets (effect : Effect) (ref : Reference) : Prop :=
  .write ref ∈ effect.accesses

private theorem Effect.touches_of_load {json : Json} {effect : Effect} (ctx : Context)
    (h : Effect.load json = .ok effect) : Touches ctx effect.Targets (effect.run ctx) := by
  have hauthored : ∀ ref, effect.Targets ref → ref.Authored :=
    fun ref href => Effect.authored_of_load h (.write ref) href
  refine (footprint ctx effect.Targets hauthored).effect effect ?_
  rintro x hx ref rfl
  exact hx

/-- Whatever is compiled from content is evaluated in isolation: the open frames and the reserved variable
are left alone and make no difference. An effect that is run changes its targets and the innermost frame
only, or the reserved variable in its place. -/
theorem content_isolated (ctx : Context) :
    (∀ json condition, Condition.load json = .ok condition → Isolated (condition.evaluate ctx)) ∧
    (∀ k json member (value : Source k), Source.load k json member = .ok value →
      Isolated (value.evaluate ctx)) ∧
    (∀ m json member (value : Ranged m), Ranged.load m json member = .ok value →
      Isolated (value.evaluate ctx)) ∧
    (∀ json member operand, Operand.load json member = .ok operand →
      Isolated (operand.evaluate ctx)) ∧
    (∀ json effect, Effect.load json = .ok effect →
      Confined (effect.run ctx) ∧ Touches ctx effect.Targets (effect.run ctx)) := by
  refine ⟨?_, ?_, ?_, ?_, ?_⟩
  · intro json condition h
    exact (isolation ctx).condition condition (Condition.authored_of_load h)
  · intro k json member value h
    exact (isolation ctx).source value (Source.authored_of_load h)
  · intro m json member value h
    exact (isolation ctx).ranged value (Ranged.authored_of_load h)
  · intro json member operand h
    exact (isolation ctx).operand operand (Operand.authored_of_load h)
  · intro json effect h
    exact ⟨Effect.confined_of_load ctx h, Effect.touches_of_load ctx h⟩

/-- A chance, a text, a range between two times, a gauge, and a variable set to the turn it is now. -/
theorem content_isolated_samples :
    Isolated ((Condition.test (.oneIn (.single (.computed
      (.report (.operand (.clock .now))) none)))).evaluate ⟨none, none, .missionGoal⟩) ∧
    Isolated ((Source.literal (k := .text) "a").evaluate ⟨none, none, .missionGoal⟩) ∧
    Isolated ((Ranged.pair (m := .integer) (.computed (.report (.operand (.clock .hour))) none)
      (.computed (.report (.operand (.clock .now))) none)).evaluate ⟨none, none, .missionGoal⟩) ∧
    Isolated ((Operand.weather .humidity).evaluate ⟨none, none, .missionGoal⟩) ∧
    Confined ((Effect.assign ⟨.global, "npctalk_var_a", none⟩ (.operand (.value (.single (.computed
      (.report (.operand (.clock .now))) none))))).run ⟨none, none, .missionGoal⟩) := by
  obtain ⟨hcondition, hsource, hranged, hoperand, heffect⟩ :=
    content_isolated ⟨none, none, .missionGoal⟩
  refine ⟨?_, ?_, ?_, ?_, ?_⟩
  · exact hcondition (.object [("one_in_chance",
      .object [("arithmetic", .array [.object [("time", .string "now")]])])]) _ (by cbv)
  · exact hsource .text (.string "a") "item" _ (by cbv)
  · exact hranged .integer (.array [
      .object [("arithmetic", .array [.object [("time", .string "hour")]])],
      .object [("arithmetic", .array [.object [("time", .string "now")]])]]) "level" _ (by cbv)
  · exact hoperand (.object [("weather", .string "humidity")]) "arithmetic" _ (by cbv)
  · refine (heffect (.object [("arithmetic", .array [.object [("global_val", .string "a")],
      .string "=", .object [("arithmetic", .array [.object [("time", .string "now")]])]])]) _ ?_).1
    cbv

end Parley
