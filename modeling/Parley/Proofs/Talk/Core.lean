import Parley.Proofs.Authored
import Parley.Talk.State

/-!
The core of a state: what is left of it without the open frames and the reserved variable. Main
statements: every step that names an authored variable does the same to a state as to its core, and a
write of the reserved variable does nothing to the core.
-/

set_option autoImplicit false
set_option relaxedAutoImplicit false

namespace Parley

namespace Variables

theorem erase_set_self (v : Variables) (name text : String) :
    (v.set name text).erase name = v.erase name := by
  simp only [set, erase, mk.injEq]
  refine Dict.ext_get? fun k => ?_
  simp only [Dict.get?_erase, Dict.get?_insert]
  split <;> rfl

private theorem erase_set_of_ne (v : Variables) {name name' : String} (text : String) (h : name ≠ name') :
    (v.set name text).erase name' = (v.erase name').set name text := by
  simp only [set, erase, mk.injEq]
  refine Dict.ext_get? fun k => ?_
  simp only [Dict.get?_erase, Dict.get?_insert]
  by_cases hk : name = k
  · rw [if_pos hk, if_pos hk, if_neg fun hk' => h (hk.trans hk'.symm)]
  · rw [if_neg hk, if_neg hk]

private theorem get?_set_of_ne (v : Variables) {name name' : String} (text : String) (h : name ≠ name') :
    (v.set name text).texts.get? name' = v.texts.get? name' := by
  rw [set, Dict.get?_insert, if_neg h]

end Variables

namespace World

def withoutTemp (w : World) : World :=
  { w with globals := w.globals.erase Reference.tempName }

def temp? (w : World) : Option String :=
  w.globals.texts.get? Reference.tempName

private theorem modifyVars_globals (w : World) (globals : Variables) (h : Handle)
    (f : Variables → Variables) :
    { w with globals := globals }.modifyVars h f =
      { w.modifyVars h f with globals := globals } := by
  rcases h with id | ⟨id⟩ | ⟨owner, id⟩ <;> rfl

private theorem globals_modifyVars (w : World) (h : Handle) (f : Variables → Variables) :
    (w.modifyVars h f).globals = w.globals := by
  rcases h with id | ⟨id⟩ | ⟨owner, id⟩ <;> rfl

end World

namespace State

variable {s : State} {ctx : Context} {ref : Reference}

/-- The state without its open frames and without the reserved variable. -/
def core (s : State) : State :=
  { s with world := s.world.withoutTemp, frames := [] }

/-- A state is its core, its frames and the reserved variable. -/
theorem ext_core {s' : State} (hcore : s.core = s'.core) (hframes : s.frames = s'.frames)
    (htemp : s.world.temp? = s'.world.temp?) : s = s' := by
  obtain ⟨w, random, frames, log⟩ := s
  obtain ⟨w', random', frames', log'⟩ := s'
  have hworlds : w.withoutTemp = w'.withoutTemp := congrArg State.world hcore
  have hglobals : w.globals = w'.globals := by
    have herased := congrArg World.globals hworlds
    refine congrArg Variables.mk (Dict.ext_get? fun k => ?_)
    by_cases hk : Reference.tempName = k
    · subst hk
      exact htemp
    · have hget := congrArg (·.texts.get? k) herased
      simp only [World.withoutTemp, Variables.erase, Dict.get?_erase, if_neg hk] at hget
      exact hget
  have hworld : w = w' := by
    calc w = { w.withoutTemp with globals := w.globals } := rfl
      _ = { w'.withoutTemp with globals := w'.globals } := by rw [hworlds, hglobals]
      _ = w' := rfl
  have hrandom : random = random' := congrArg State.random hcore
  have hlog : log = log' := congrArg State.log hcore
  rw [hworld, hrandom, hlog, show frames = frames' from hframes]

/-- What was reported last: the text of the innermost frame, or of the reserved variable if no frame is
open. -/
def reported (s : State) : String :=
  s.globalText Reference.tempName

theorem reported_of_nil (h : s.frames = []) :
    s.reported = s.world.globals.get Reference.tempName := by
  simp only [reported, globalText, if_true, h]

private theorem reported_of_cons {frame : Option String} {rest : List (Option String)}
    (h : s.frames = frame :: rest) : s.reported = frame.getD "" := by
  simp only [reported, globalText, if_true, h]

theorem closeFrame_of_cons {frame : Option String} {rest : List (Option String)}
    (h : s.frames = frame :: rest) : s.closeFrame = (s.reported, { s with frames := rest }) := by
  rw [reported_of_cons h, closeFrame, h]

private theorem globalText_of_ne {name : String} (h : name ≠ Reference.tempName) :
    s.globalText name = s.world.globals.get name := by
  rw [globalText, if_neg h]

theorem read_core (h : ref.Authored) : s.core.read ctx ref = s.read ctx ref := by
  obtain ⟨scope, name, default⟩ := ref
  have hname : name ≠ Reference.tempName := h
  cases scope with
  | global =>
    change s.core.globalText name = s.globalText name
    rw [globalText_of_ne hname, globalText_of_ne hname]
    change (s.world.globals.erase Reference.tempName).get name = s.world.globals.get name
    rw [Variables.get_erase, if_neg hname.symm]
  | primary | secondary | faction | party => rfl

theorem writeGlobal_of_ne {name : String} (text : String) (h : name ≠ Reference.tempName) :
    s.writeGlobal name text =
      { s with world := { s.world with globals := s.world.globals.set name text } } := by
  rw [writeGlobal, if_neg h]

private theorem core_writeActor (h : Handle) (name text : String) :
    (s.writeActor h name text).core = s.core.writeActor h name text := by
  have hactor : s.core.world.actor? h = s.world.actor? h := rfl
  unfold writeActor
  rw [hactor]
  cases s.world.actor? h with
  | none => cases h <;> rfl
  | some actor =>
    simp only [core, World.withoutTemp, World.globals_modifyVars, World.modifyVars_globals]

private theorem world_writeActor {s' : State} (h : Handle) (name text : String)
    (hworld : s'.world = s.world) :
    (s'.writeActor h name text).world = (s.writeActor h name text).world := by
  unfold writeActor
  rw [hworld]
  cases s.world.actor? h with
  | none => cases h <;> exact hworld
  | some actor => rfl

theorem core_write (text : String) (h : ref.Authored) :
    (s.write ctx ref text).core = s.core.write ctx ref text := by
  obtain ⟨scope, name, default⟩ := ref
  have hname : name ≠ Reference.tempName := h
  cases scope with
  | global =>
    change (s.writeGlobal name text).core = s.core.writeGlobal name text
    rw [writeGlobal_of_ne text hname, writeGlobal_of_ne text hname]
    simp only [core, World.withoutTemp, Variables.erase_set_of_ne _ text hname]
  | primary | secondary =>
    -- the write goes to the actor in the role, if there is one
    rcases ctx with ⟨_ | p, _ | q, occasion⟩
    all_goals first | exact core_writeActor _ name text | rfl
  | faction =>
    unfold write writeAs scopeHandle
    have hactor : ctx.secondary.bind s.core.world.actor? = ctx.secondary.bind s.world.actor? := rfl
    simp only [hactor]
    cases (ctx.secondary.bind s.world.actor?).bind (·.faction?) <;> rfl
  | party => rfl

private theorem writeActor_kept (h : Handle) (name text : String) :
    (s.writeActor h name text).frames = s.frames ∧
      (s.writeActor h name text).world.temp? = s.world.temp? := by
  unfold writeActor
  cases s.world.actor? h with
  | none => cases h <;> exact ⟨rfl, rfl⟩
  | some actor =>
    refine ⟨rfl, ?_⟩
    rw [World.temp?, World.globals_modifyVars, World.temp?]

theorem write_kept (text : String) (h : ref.Authored) :
    (s.write ctx ref text).frames = s.frames ∧
      (s.write ctx ref text).world.temp? = s.world.temp? := by
  obtain ⟨scope, name, default⟩ := ref
  have hname : name ≠ Reference.tempName := h
  cases scope with
  | global =>
    change (s.writeGlobal name text).frames = _ ∧ (s.writeGlobal name text).world.temp? = _
    rw [writeGlobal_of_ne text hname]
    exact ⟨rfl, Variables.get?_set_of_ne _ text hname⟩
  | primary | secondary =>
    rcases ctx with ⟨_ | p, _ | q, occasion⟩
    all_goals first | exact ⟨rfl, rfl⟩ | exact writeActor_kept _ name text
  | faction =>
    unfold write writeAs scopeHandle
    simp only
    cases (ctx.secondary.bind s.world.actor?).bind (·.faction?) <;> exact ⟨rfl, rfl⟩
  | party => exact ⟨rfl, rfl⟩

theorem reported_congr {s' : State} (hframes : s'.frames = s.frames)
    (htemp : s'.world.temp? = s.world.temp?) : s'.reported = s.reported := by
  cases h : s.frames with
  | nil =>
    rw [reported_of_nil h, reported_of_nil (hframes.trans h)]
    exact congrArg (·.getD "") htemp
  | cons frame rest => rw [reported_of_cons h, reported_of_cons (hframes.trans h)]

theorem reported_write (text : String) (h : ref.Authored) :
    (s.write ctx ref text).reported = s.reported :=
  reported_congr (write_kept text h).1 (write_kept text h).2

theorem write_temp_of_nil (text : String) (h : s.frames = []) :
    s.write ctx .temp text =
      { s with world :=
          { s.world with globals := s.world.globals.set Reference.tempName text } } := by
  change s.writeGlobal Reference.tempName text = _
  simp only [writeGlobal, if_true, h]

theorem write_temp_of_cons (text : String) {frame : Option String} {rest : List (Option String)}
    (h : s.frames = frame :: rest) :
    s.write ctx .temp text = { s with frames := some text :: rest } := by
  change s.writeGlobal Reference.tempName text = _
  simp only [writeGlobal, if_true, h]

theorem core_write_temp (text : String) : (s.write ctx .temp text).core = s.core := by
  cases h : s.frames with
  | nil =>
    rw [write_temp_of_nil text h]
    simp only [core, World.withoutTemp, Variables.erase_set_self]
  | cons frame rest =>
    rw [write_temp_of_cons text h]
    rfl

theorem reported_write_temp (text : String) : (s.write ctx .temp text).reported = text := by
  cases h : s.frames with
  | nil =>
    rw [write_temp_of_nil text h, reported_of_nil, Variables.get_set, if_pos rfl]
    exact h
  | cons frame rest =>
    rw [write_temp_of_cons text h, reported_of_cons rfl]
    rfl

end State

namespace World

/-- The world after a variable is written while no frame is open. -/
def write (ctx : Context) (w : World) (ref : Reference) (text : String) : World :=
  (State.write ⟨w, .scripted [], [], []⟩ ctx ref text).world

private theorem withoutTemp_write (ctx : Context) (w : World) {ref : Reference} (text : String)
    (h : ref.Authored) : (w.write ctx ref text).withoutTemp = w.withoutTemp.write ctx ref text :=
  congrArg State.world (State.core_write text h)

/-- The world after some variables are written in turn. -/
def writeAll (ctx : Context) (w : World) (texts : List (Reference × String)) : World :=
  texts.foldl (fun w x => w.write ctx x.1 x.2) w

theorem withoutTemp_writeAll (ctx : Context) (w : World) (texts : List (Reference × String))
    (h : ∀ x ∈ texts, x.1.Authored) :
    (w.writeAll ctx texts).withoutTemp = w.withoutTemp.writeAll ctx texts := by
  induction texts generalizing w with
  | nil => rfl
  | cons x rest ih =>
    rw [List.forall_mem_cons] at h
    change ((w.write ctx x.1 x.2).writeAll ctx rest).withoutTemp =
      (w.withoutTemp.write ctx x.1 x.2).writeAll ctx rest
    rw [ih _ h.2, withoutTemp_write ctx w x.2 h.1]

theorem writeAll_append (ctx : Context) (w : World) (texts texts' : List (Reference × String)) :
    w.writeAll ctx (texts ++ texts') = (w.writeAll ctx texts).writeAll ctx texts' :=
  List.foldl_append

end World

theorem State.world_write {s : State} {ctx : Context} {ref : Reference} (text : String)
    (h : ref.Authored) : (s.write ctx ref text).world = s.world.write ctx ref text := by
  obtain ⟨scope, name, default⟩ := ref
  have hname : name ≠ Reference.tempName := h
  cases scope with
  | global =>
    change (s.writeGlobal name text).world = (State.writeGlobal ⟨s.world, _, [], []⟩ name text).world
    rw [writeGlobal_of_ne text hname, writeGlobal_of_ne text hname]
  | primary | secondary =>
    rcases ctx with ⟨_ | p, _ | q, occasion⟩
    all_goals first | rfl | exact State.world_writeActor _ name text rfl
  | faction =>
    unfold State.write World.write State.write State.writeAs State.scopeHandle
    simp only
    cases (ctx.secondary.bind s.world.actor?).bind (·.faction?) <;> rfl
  | party => rfl

end Parley
