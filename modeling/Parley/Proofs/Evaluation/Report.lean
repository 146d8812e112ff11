import Parley.Proofs.Evaluation.Composition
import Parley.Proofs.Value.Defaults

/-!
What evaluation reports. Content is compiled only if the defaults that are read as integers are integers. Main
statements: a compiled condition never reports a default; arithmetic is accepted exactly in its shapes, and what is
accepted never reports a default.
-/

set_option autoImplicit false
set_option relaxedAutoImplicit false

namespace Parley

/-- A diagnostic that is not about the default of a variable. -/
def Diagnostic.SparesDefaults : Diagnostic → Prop
  | .noValue _ (.default _) | .badValue _ (.default _) _ => False
  | _ => True

namespace Evaluation

variable {α β : Type} {P : Diagnostic → Prop} {ctx : Context}

def Reports (P : Diagnostic → Prop) (m : Evaluation α) : Prop :=
  ∀ s, ∃ ds, (m s).2.log = s.log ++ ds ∧ ∀ d ∈ ds, P d

namespace Reports

private theorem of_log_eq {m : Evaluation α} (h : ∀ s, (m s).2.log = s.log) : Reports P m := by
  intro s
  refine ⟨[], ?_, nofun⟩
  rw [h s, List.append_nil]

private theorem bind {m : Evaluation α} {f : α → Evaluation β} (hm : Reports P m) (hf : ∀ a, Reports P (f a)) :
    Reports P (m >>= f) := by
  intro s
  obtain ⟨ds, hlog, hds⟩ := hm s
  obtain ⟨ds', hlog', hds'⟩ := hf (m s).1 (m s).2
  refine ⟨ds ++ ds', ?_, List.forall_mem_append.2 ⟨hds, hds'⟩⟩
  rw [← List.append_assoc, ← hlog]
  exact hlog'

private theorem pure (a : α) : Reports P (Pure.pure a : Evaluation α) :=
  of_log_eq fun _ => rfl

private theorem composed : Composed (Reports P) :=
  ⟨pure, bind⟩

private theorem report {d : Diagnostic} (h : P d) : Reports P (report d) :=
  fun _ => ⟨[d], rfl, List.forall_mem_singleton.2 h⟩

private theorem ask (f : World → α) : Reports P (ask f) :=
  of_log_eq fun _ => rfl

private theorem draw (a b : Int64) : Reports P (draw a b) :=
  of_log_eq fun _ => rfl

private theorem read (ref : Reference) : Reports P (read ctx ref) :=
  of_log_eq fun _ => rfl

private theorem settle {outcome : α × Option Diagnostic} (h : ∀ d, outcome.2 = some d → P d) :
    Reports P (settle outcome) := by
  unfold Evaluation.settle
  split
  · exact pure _
  · rename_i d hd
    exact (report (h d hd)).bind fun _ => pure _

end Reports

end Evaluation

open Evaluation

/-- A failed write is about the actor, not about a default. -/
theorem State.writeAs_spares (s : State) (scope : Scope) (name : String) (who : Option Handle) (text : String) :
    ∃ ds, (s.writeAs scope name who text).log = s.log ++ ds ∧ ∀ d ∈ ds, d.SparesDefaults := by
  have hreport (d : Diagnostic) (h : d.SparesDefaults) :
      ∃ ds, (s.report d).log = s.log ++ ds ∧ ∀ d ∈ ds, d.SparesDefaults :=
    ⟨[d], rfl, List.forall_mem_singleton.2 h⟩
  have hkept (s' : State) (h : s'.log = s.log) :
      ∃ ds, s'.log = s.log ++ ds ∧ ∀ d ∈ ds, d.SparesDefaults := by
    refine ⟨[], ?_, nofun⟩
    rw [h, List.append_nil]
  have hactor (h : Handle) :
      ∃ ds, (s.writeActor h name text).log = s.log ++ ds ∧ ∀ d ∈ ds, d.SparesDefaults := by
    unfold writeActor
    split
    · exact hkept _ rfl
    · exact hreport _ trivial
    · exact hreport _ trivial
  cases scope with
  | global =>
    refine hkept _ ?_
    change (s.writeGlobal name text).log = s.log
    unfold writeGlobal
    split
    · split <;> rfl
    · rfl
  | primary | secondary =>
    unfold writeAs
    cases who with
    | none => exact hreport _ trivial
    | some h => exact hactor h
  | faction =>
    rw [writeAs]
    split
    · exact hkept _ rfl
    · exact hreport _ trivial
  | party => exact hkept _ rfl

private theorem Evaluation.write_spares (ctx : Context) (ref : Reference) (text : String) :
    Reports Diagnostic.SparesDefaults (write ctx ref text) :=
  fun s => s.writeAs_spares ..

private theorem Kind.resolve_spares {k : Kind} {origin : Origin} {text : String} {default : Option k.Value}
    {d : Diagnostic} (horigin : ∀ name, origin ≠ .default name) (h : (k.resolve origin text default).2 = some d) :
    d.SparesDefaults := by
  have hd : d = .noValue k origin ∨ ∃ fault, d = .badValue k origin fault := by
    unfold resolve at h
    split at h
    · split at h
      · cases h
      · cases h
        exact .inl rfl
    · split at h
      · cases h
      · cases h
        exact .inr ⟨_, rfl⟩
  rcases origin with _ | _ | name
  · rcases hd with rfl | ⟨_, rfl⟩ <;> trivial
  · rcases hd with rfl | ⟨_, rfl⟩ <;> trivial
  · exact absurd rfl (horigin name)

private theorem Reference.resolveInteger_spares {ref : Reference} (hdefault : ref.DefaultsToInteger) {text : String}
    {d : Diagnostic} (h : (ref.resolveInteger text).2 = some d) : d.SparesDefaults := by
  unfold resolveInteger at h
  split at h
  · split at h
    · cases h
    · rename_i default hsome
      have hnone : (Kind.resolve .integer (.default ref.name) default (some 0)).2 = none :=
        Kind.resolve_unreported _ (fun _ => rfl) fun _ => hdefault default hsome
      rw [hnone] at h
      cases h
  · have horigin : ∀ name, Origin.variable ref.name ≠ .default name := nofun
    exact Kind.resolve_spares horigin h

private theorem Reference.elapsed_spares {ref : Reference} {now : Int64} {text : String} {d : Diagnostic}
    (h : (ref.elapsed now text).2 = some d) : d.SparesDefaults := by
  unfold elapsed at h
  split at h
  · cases h
  · split at h
    · cases h
      trivial
    · split at h <;> cases h
      trivial

private theorem Operator.resolve_spares {op : Operator} {l r : Int32} {d : Diagnostic}
    (h : (op.resolve l r).2 = some d) : d.SparesDefaults := by
  unfold resolve at h
  split at h <;> cases h
  trivial

section

variable {ctx : Context}

private theorem Evaluation.integer_spares {ref : Reference} (hdefault : ref.DefaultsToInteger) :
    Reports Diagnostic.SparesDefaults (integer ctx ref) :=
  (Reports.read ref).bind fun _ => .settle fun _ h => ref.resolveInteger_spares hdefault h

private theorem Evaluation.elapsed_spares {ref : Reference} : Reports Diagnostic.SparesDefaults (elapsed ctx ref) :=
  (Reports.read ref).bind fun _ => (Reports.ask _).bind fun _ => .settle fun _ h => ref.elapsed_spares h

private theorem Operand.Reading.spares {ms : Json.Members} {o : Operand} (h : Operand.Reading ms o) :
    Reports Diagnostic.SparesDefaults (o.evaluate ctx) := by
  have hdefault := h.defaulted
  cases h with
  | constant n => exact .pure n
  | random => exact (Reports.draw _ _).bind fun _ => .pure _
  | clock | weather | creature | coordinate =>
    rw [Operand.evaluate]
    exact .ask _
  | stored => exact integer_spares hdefault
  | elapsed => exact elapsed_spares.bind fun _ => .pure _

mutual

private theorem Effect.Written.spares {json : Json} {e : Effect} (h : Effect.Written json e) :
    Reports Diagnostic.SparesDefaults (e.run ctx) := by
  match h with
  | .sequence all => exact all.spares
  | .arithmetic _ inner => exact inner.spares
  | .setText _ _ _ _ inner => exact inner.spares.bind fun _ => write_spares _ _ _

private theorem Effect.WrittenAll.spares {items : List Json} {es : List Effect} (h : Effect.WrittenAll items es) :
    Reports Diagnostic.SparesDefaults (Effect.runAll ctx es) := by
  match h with
  | .nil => exact .pure _
  | .cons head tail => exact head.spares.bind fun _ => tail.spares

private theorem Effect.WrittenArithmetic.spares {items : List Json} {e : Effect}
    (h : Effect.WrittenArithmetic items e) : Reports Diagnostic.SparesDefaults (e.run ctx) := by
  have hbinary {op : Operator} {l r : Operand} (hl : Reports Diagnostic.SparesDefaults (l.evaluate ctx))
      (hr : Reports Diagnostic.SparesDefaults (r.evaluate ctx)) :
      Reports Diagnostic.SparesDefaults ((Term.binary op l r).evaluate ctx) :=
    hl.bind fun _ => hr.bind fun _ => .settle fun _ => op.resolve_spares
  match h with
  | .value a_written => exact a_written.spares.bind fun _ => write_spares _ _ _
  | .step _ target_eq _ =>
    obtain ⟨_, -, -, hdefault⟩ := Effect.loadTarget_eq_ok_iff_load.1 target_eq
    exact (hbinary (l := .variable _) (integer_spares hdefault) (.pure _)).bind fun _ => write_spares _ _ _
  | .assign _ _ a_written => exact a_written.spares.bind fun _ => write_spares _ _ _
  | .binary _ _ a_written b_written =>
    exact (hbinary a_written.spares b_written.spares).bind fun _ => write_spares _ _ _
  | .assignBinary _ _ _ a_written b_written =>
    exact (hbinary a_written.spares b_written.spares).bind fun _ => write_spares _ _ _

private theorem Operand.Written.spares {member : String} {json : Json} {o : Operand}
    (h : Operand.Written member json o) : Reports Diagnostic.SparesDefaults (o.evaluate ctx) := by
  match h with
  | .reading reading_eq => exact (Operand.reading_of_loadReading reading_eq).spares
  | .value _ inner => exact inner.spares

private theorem Ranged.Written.spares {m : Measure} {member : String} {json : Json} {v : Ranged m}
    (h : Ranged.Written m member json v) : Reports Diagnostic.SparesDefaults (v.evaluate ctx) := by
  match h with
  | .pair low_written high_written =>
    exact low_written.spares.bind fun _ => high_written.spares.bind fun _ =>
      (Reports.draw _ _).bind fun _ => .pure _
  | .single _ inner => exact inner.spares

private theorem Source.Written.spares {k : Kind} {member : String} {json : Json} {v : Source k}
    (h : Source.Written k member json v) : Reports Diagnostic.SparesDefaults (v.evaluate ctx) := by
  have hcomputed {e : Effect} {default : Option k.Value} (he : Reports Diagnostic.SparesDefaults (e.run ctx)) :
      Reports Diagnostic.SparesDefaults ((Source.computed e default).evaluate ctx) := by
    have hopen : Reports Diagnostic.SparesDefaults openFrame := .of_log_eq fun _ => rfl
    have hclose : Reports Diagnostic.SparesDefaults closeFrame := by
      refine .of_log_eq fun s => ?_
      change s.closeFrame.2.log = s.log
      unfold State.closeFrame
      split <;> rfl
    exact hopen.bind fun _ => he.bind fun _ => hclose.bind fun _ => .settle fun _ => Kind.resolve_spares nofun
  match h with
  | .literal _ _ => exact .pure _
  | .arithmetic _ _ _ inner => exact hcomputed inner.spares
  | .effect _ _ _ inner => exact hcomputed inner.spares
  | .reference _ _ _ => exact (Reports.read _).bind fun _ => .settle fun _ => Kind.resolve_spares nofun

end

end

def Test.Value.Evaluates (P : {α : Type} → Evaluation α → Prop) (ctx : Context) : Test.Value → Prop
  | .text v => P (v.evaluate ctx)
  | .range v => P (v.evaluate ctx)
  | .operand o => P (o.evaluate ctx)

/-- A test evaluates its values, asks the world or draws, and reads the variable that it is of. -/
theorem Evaluation.Composed.test {P : {α : Type} → Evaluation α → Prop} (C : Composed P) {ctx : Context}
    (hask : ∀ {α : Type} (f : World → α), P (ask f)) (hchance : ∀ f, P (chance f)) (t : Test)
    (hvalues : ∀ v ∈ t.values, v.Evaluates P ctx)
    (href : ∀ ref, t.reference? = some ref → P (read ctx ref) ∧ P (integer ctx ref) ∧ P (elapsed ctx ref)) :
    P (t.evaluate ctx) := by
  cases t with
  | fact slot q => exact hask fun w => (q.check w).holds ctx w slot
  | text slot q value => exact C.bind (hvalues (.text value) List.mem_cons_self) fun _ => hask _
  | level slot q value => exact C.bind (hvalues (.range value) List.mem_cons_self) fun _ => hask _
  | count slot q value amount =>
    have hamount := hvalues (.range amount) (List.mem_cons_of_mem _ List.mem_cons_self)
    exact C.bind (hvalues (.text value) List.mem_cons_self) fun _ => C.bind hamount fun _ => hask _
  | anyTrait slot values =>
    have htexts := C.texts fun v hv => hvalues (.text v) (List.mem_map_of_mem hv)
    exact C.bind htexts fun _ => hask _
  | variableIs ref expected => exact C.bind (href ref rfl).1 fun _ => C.pure _
  | compareVariable ref c value =>
    have hinteger := (href ref rfl).2.1
    exact C.bind (hvalues (.range value) List.mem_cons_self) fun _ => C.bind hinteger fun _ => C.pure _
  | compareElapsed ref c time =>
    have helapsed := (href ref rfl).2.2
    exact C.bind (hvalues (.range time) List.mem_cons_self) fun _ => C.bind helapsed fun _ => C.pure _
  | oneIn n => exact C.bind (hvalues (.range n) List.mem_cons_self) fun _ => hchance _
  | xInY x y =>
    have hy := hvalues (.range y) (List.mem_cons_of_mem _ List.mem_cons_self)
    exact C.bind (hvalues (.range x) List.mem_cons_self) fun _ => C.bind hy fun _ => hchance _
  | compareIntegers c l r =>
    have hr := hvalues (.operand r) (List.mem_cons_of_mem _ List.mem_cons_self)
    exact C.bind (hvalues (.operand l) List.mem_cons_self) fun _ => C.bind hr fun _ => C.pure _
  | compareTexts l r =>
    have hr := hvalues (.text r) (List.mem_cons_of_mem _ List.mem_cons_self)
    exact C.bind (hvalues (.text l) List.mem_cons_self) fun _ => C.bind hr fun _ => C.pure _

private theorem Test.Value.WrittenIn.spares {ctx : Context} {contents : List Json} {v : Test.Value}
    (h : v.WrittenIn contents) : v.Evaluates (Reports Diagnostic.SparesDefaults) ctx := by
  cases h with
  | defaultText | defaultRange => exact .pure _
  | text _ written => exact written.spares
  | range _ written => exact written.spares
  | operand _ written => exact written.spares

/-- A compiled condition never reports that a default is missing or unreadable. -/
theorem Condition.spares_of_load {json : Json} {c : Condition} (h : load json = .ok c) (ctx : Context) :
    Reports Diagnostic.SparesDefaults (c.evaluate ctx) := by
  refine Reports.composed.condition c fun t ht => ?_
  have hvalues : ∀ v ∈ t.values, v.Evaluates (Reports Diagnostic.SparesDefaults) ctx :=
    fun v hv => ((written_of_load h).values t ht v hv).spares
  refine Reports.composed.test .ask (fun _ => .of_log_eq fun _ => rfl) t hvalues fun ref href => ?_
  have hdefault : ref.DefaultsToInteger := by
    intro text htext
    rw [default_of_load h ht href] at htext
    cases htext
  exact ⟨.read ref, integer_spares hdefault, elapsed_spares⟩

namespace Effect

private theorem Shape.length_mem {items : List Json} {effect : Effect} (h : Shape items effect) :
    items.length ∈ [1, 2, 3, 5] := by
  cases h <;> simp

private theorem Shape.assigns {target : Json} {rest : List Json} {effect : Effect}
    (h : Shape (target :: .string "=" :: rest) effect) :
    ∃ ref value, IsTarget target ref ∧ effect = .assign ref value := by
  generalize hsign : "=" = sign at h
  cases h with
  | binary a_eq sign_mem b_eq => exact absurd hsign.symm (ne_assign_of_mem_signs sign_mem)
  | assign target_is a_eq => exact ⟨_, _, target_is, rfl⟩
  | assignBinary target_is a_eq sign_mem b_eq => exact ⟨_, _, target_is, rfl⟩
  | increment | decrement => exact absurd hsign (by decide)

/-- Arithmetic is accepted exactly in its shapes, of one, two, three or five items. With "=" in the second place it
is an assignment. Whatever is accepted never reports, wherever it is run, that a default is missing or unreadable. -/
theorem accepted_iff_shape (items : List Json) :
    (∀ effect, arithmetic items = .ok effect ↔ Shape items effect) ∧
    ∀ effect, arithmetic items = .ok effect →
      items.length ∈ [1, 2, 3, 5] ∧
      (∀ target rest, items = target :: .string "=" :: rest →
        ∃ ref value, IsTarget target ref ∧ effect = .assign ref value) ∧
      ∀ (ctx : Context) (s : State),
        ∃ ds, (effect.run ctx s).2.log = s.log ++ ds ∧ ∀ d ∈ ds, d.SparesDefaults := by
  refine ⟨fun effect => arithmetic_eq_ok_iff, ?_⟩
  intro effect h
  have hshape := arithmetic_eq_ok_iff.1 h
  refine ⟨hshape.length_mem, ?_, fun ctx s => (written_of_arithmetic h).spares s⟩
  rintro target rest rfl
  exact hshape.assigns

/-- A variable with a default is set to a number. -/
theorem accepted_assignment :
    let ms : Json.Members := [("default", .int 3), ("u_val", .string "mood")]
    ∃ effect, arithmetic [.object ms, .string "=", .int 5] = .ok effect ∧
      (∃ ref value, IsTarget (.object ms) ref ∧ effect = .assign ref value) ∧
      ∀ (ctx : Context) (s : State),
        ∃ ds, (effect.run ctx s).2.log = s.log ++ ds ∧ ∀ d ∈ ds, d.SparesDefaults := by
  intro ms
  have htarget : IsTarget (.object ms) ⟨.primary, "npctalk_var_mood", some (Json.Number.integer 3).text⟩ := by
    have hname : ms.get? Scope.primary.member = some (.string "mood") := rfl
    have hdefault : Reference.DefaultWritten ms (some (Json.Number.integer 3).text) := .number rfl
    refine .object rfl hname hdefault ?_
    rintro text ⟨⟩
    exact ⟨3, Kind.readInteger_eq_ok_iff.1 (Kind.readInteger_text 3)⟩
  have hvalue : Operand.load (.int 5) "arithmetic" = .ok (.value (.single (.literal 5))) := by
    have hliteral : Source.load .integer (.int 5) "arithmetic" = .ok (.literal 5) :=
      (Source.load_literal_eq_ok_iff (by rintro ms ⟨⟩)).2 ⟨5, ⟨5, by decide, rfl⟩, rfl⟩
    have hrange : Ranged.load .integer (.int 5) "arithmetic" = .ok (.single (.literal 5)) :=
      Ranged.load_eq_ok_iff.2 (.inl ⟨_, hliteral, rfl⟩)
    exact Operand.load_eq_ok_iff.2 (.inr ⟨by rintro ms ⟨⟩, _, hrange, rfl⟩)
  obtain ⟨haccepted, hrun⟩ := accepted_iff_shape [.object ms, .string "=", .int 5]
  have h := (haccepted _).2 (.assign htarget hvalue)
  obtain ⟨-, hassign, hlog⟩ := hrun _ h
  exact ⟨_, h, hassign _ _ rfl, hlog⟩

end Effect

end Parley
