import Parley.Proofs.Condition.Keys
import Parley.Proofs.Evaluation.Purity
import Parley.Proofs.Evaluation.Report
import Parley.Proofs.World.Counts

/-!
Evaluations that report nothing. Whatever a variable holds is then usable, or its default is. Main statement: a
condition whose content computes no value reports nothing in a world whose variables are counts.
-/

set_option autoImplicit false
set_option relaxedAutoImplicit false

namespace Parley

namespace Reference

variable {ref : Reference} {text : String}

private theorem resolveInteger_unreported (hdefault : ref.DefaultsToInteger) (htext : Text.IsCount text) :
    (ref.resolveInteger text).2 = none := by
  rw [resolveInteger]
  split
  · cases href : ref.default with
    | none => rfl
    | some default =>
      exact Kind.resolve_unreported _ (fun _ => rfl) fun _ => hdefault default href
  · rename_i hne
    exact Kind.resolve_unreported _ (fun h => absurd h hne) (Kind.exists_read_of_isCount .integer htext)

private theorem elapsed_unreported {now : Int64} (hnow : 0 ≤ now.toInt) (htext : Text.IsCount text) :
    (ref.elapsed now text).2 = none := by
  rw [elapsed]
  split
  · rfl
  · rename_i hne
    obtain ⟨n, hwrites, hlo, hhi⟩ := htext.resolve_left hne
    have hturn : (Int64.ofInt n).toInt = n := Int64.toInt_ofInt_of_le (by omega) (by omega)
    have hmost := now.toInt_lt
    obtain ⟨d, hd⟩ : ∃ d, Narrow.int64? (now.toInt - n) = some d := by
      rw [Narrow.int64?, if_pos (by omega)]
      exact ⟨_, rfl⟩
    rw [Kind.trimChars_of_writes hwrites, Numeral.int64_of_writes hwrites (by omega) (by omega)]
    simp only [hturn, hd]

end Reference

namespace Evaluation

variable {α β : Type} {w : World} {ctx : Context}

/-- An evaluation in a world that leaves it alone and reports nothing. -/
def Quiet (w : World) (m : Evaluation α) : Prop :=
  ∀ s, s.world = w → (m s).2.world = w ∧ (m s).2.log = s.log

namespace Quiet

private theorem pure (a : α) : Quiet w (Pure.pure a : Evaluation α) :=
  fun _ hw => ⟨hw, rfl⟩

private theorem bind {m : Evaluation α} {f : α → Evaluation β} (hm : Quiet w m) (hf : ∀ a, Quiet w (f a)) :
    Quiet w (m >>= f) := by
  intro s hw
  obtain ⟨hworld, hlog⟩ := hm s hw
  obtain ⟨hworld', hlog'⟩ := hf (m s).1 (m s).2 hworld
  exact ⟨hworld', hlog'.trans hlog⟩

private theorem composed : Composed (Quiet w) :=
  ⟨pure, bind⟩

private theorem ask (f : World → α) : Quiet w (ask f) :=
  fun _ hw => ⟨hw, rfl⟩

private theorem draw (a b : Int64) : Quiet w (draw a b) :=
  fun _ hw => ⟨hw, rfl⟩

private theorem chance (f : Random → Bool × Random) : Quiet w (chance f) :=
  fun _ hw => ⟨hw, rfl⟩

private theorem settle {outcome : α × Option Diagnostic} (h : outcome.2 = none) : Quiet w (settle outcome) := by
  rw [Evaluation.settle, h]
  exact .pure outcome.1

private theorem read_bind {ref : Reference} {f : String → Evaluation α}
    (hf : ∀ s : State, s.world = w → Quiet w (f (s.read ctx ref))) : Quiet w (read ctx ref >>= f) :=
  fun s hw => hf s hw s hw

private theorem ask_bind {f : World → α} {g : α → Evaluation β} (hg : Quiet w (g (f w))) :
    Quiet w (Evaluation.ask f >>= g) := by
  intro s hw
  subst hw
  exact hg s rfl

end Quiet

end Evaluation

open Evaluation

section Counting

variable {w : World} {ctx : Context} (hw : w.Counting)
include hw

private theorem Evaluation.Quiet.of_count {α : Type} {ref : Reference} (href : ref.Authored)
    {f : String → Evaluation α} (hf : ∀ text, Text.IsCount text → Quiet w (f text)) :
    Quiet w (read ctx ref >>= f) := by
  refine .read_bind fun s hs => hf _ ?_
  subst hs
  exact s.isCount_read hw ctx href

private theorem Evaluation.integer_quiet {ref : Reference} (href : ref.Authored)
    (hdefault : ref.DefaultsToInteger) : Quiet w (integer ctx ref) :=
  .of_count hw href fun _ htext => .settle (ref.resolveInteger_unreported hdefault htext)

private theorem Source.quiet {k : Kind} (v : Source k) (hdefault : v.Defaulted)
    (haccess : ∀ x ∈ v.accesses, x ≠ .compute ∧ x.Authored) : Quiet w (v.evaluate ctx) := by
  match v with
  | .literal value => exact .pure value
  | .variable ref default =>
    have href := (haccess _ List.mem_cons_self).2
    exact .of_count hw href fun _ htext =>
      .settle (Kind.resolve_unreported _ (fun _ => hdefault) (k.exists_read_of_isCount htext))
  | .computed effect default => exact absurd rfl (haccess _ List.mem_cons_self).1

private theorem Ranged.quiet {m : Measure} (v : Ranged m) (hdefault : v.Defaulted)
    (haccess : ∀ x ∈ v.accesses, x ≠ .compute ∧ x.Authored) : Quiet w (v.evaluate ctx) := by
  match v with
  | .single value => exact value.quiet hw hdefault haccess
  | .pair low high =>
    rw [Ranged.accesses, List.forall_mem_append, List.forall_mem_append] at haccess
    exact .bind (low.quiet hw hdefault.1 haccess.1.1) fun _ =>
      .bind (high.quiet hw hdefault.2 haccess.1.2) fun _ => .bind (.draw _ _) fun _ => .pure _

variable (hturn : 0 ≤ w.calendar.turn.toInt)
include hturn

private theorem Evaluation.elapsed_quiet {ref : Reference} (href : ref.Authored) : Quiet w (elapsed ctx ref) :=
  .of_count hw href fun _ htext => .ask_bind (.settle (ref.elapsed_unreported hturn htext))

private theorem Operand.quiet (o : Operand) (hdefault : o.Defaulted)
    (haccess : ∀ x ∈ o.accesses, x ≠ .compute ∧ x.Authored) : Quiet w (o.evaluate ctx) := by
  match o with
  | .constant n => exact .pure n
  | .random most => exact .bind (.draw _ _) fun _ => .pure _
  | .clock _ | .weather _ | .creature _ _ | .coordinate _ _ =>
    rw [Operand.evaluate]
    exact .ask _
  | .variable ref => exact integer_quiet hw (haccess _ List.mem_cons_self).2 hdefault
  | .elapsed ref =>
    exact .bind (elapsed_quiet hw hturn (haccess _ List.mem_cons_self).2) fun _ => .pure _
  | .value range => exact range.quiet hw hdefault haccess

def Test.Value.Quiet (w : World) (ctx : Context) : Test.Value → Prop
  | .text v => Evaluation.Quiet w (v.evaluate ctx)
  | .range v => Evaluation.Quiet w (v.evaluate ctx)
  | .operand o => Evaluation.Quiet w (o.evaluate ctx)

private theorem Test.Value.quiet (v : Test.Value) (hdefault : v.Defaulted)
    (haccess : ∀ x ∈ v.accesses, x ≠ .compute ∧ x.Authored) : v.Quiet w ctx := by
  match v with
  | .text v => exact v.quiet hw hdefault haccess
  | .range v => exact v.quiet hw hdefault haccess
  | .operand o => exact o.quiet hw hturn hdefault haccess

private theorem Test.quiet (t : Test) (hvalues : ∀ v ∈ t.values, v.Quiet w ctx)
    (href : ∀ ref, t.reference? = some ref → ref.default = none)
    (haccess : ∀ x ∈ t.accesses, x ≠ .compute ∧ x.Authored) : Quiet w (t.evaluate ctx) := by
  have hevaluates : ∀ v ∈ t.values, v.Evaluates (Quiet w) ctx := by
    intro v hv
    have hquiet := hvalues v hv
    cases v <;> exact hquiet
  refine Quiet.composed.test .ask .chance t hevaluates fun ref hreference => ?_
  have hauthored : ref.Authored := by
    cases t with
    | variableIs | compareVariable | compareElapsed =>
      cases hreference
      exact (haccess _ List.mem_cons_self).2
    | _ => cases hreference
  have hdefault : ref.DefaultsToInteger := by
    intro text htext
    rw [href ref hreference] at htext
    cases htext
  exact ⟨fun _ hs => ⟨hs, rfl⟩, integer_quiet hw hauthored hdefault, elapsed_quiet hw hturn hauthored⟩

end Counting

namespace Condition

variable {json : Json} {c : Condition}

/-- A condition whose content computes no value, evaluated on or after turn 0 in a world in which every variable
is empty or holds a number from 0 to 2147483647, reports nothing. -/
theorem reports_nothing_of_load (h : load json = .ok c) (hcomputed : json.contains .computed = false)
    (ctx : Context) (s : State) (hturn : 0 ≤ s.world.calendar.turn.toInt) (hw : s.world.Counting) :
    (c.evaluate ctx s).2.log = s.log := by
  have hcompute := not_computes_of_load h hcomputed
  have hauthored := authored_of_load h
  have hquiet : Quiet s.world (c.evaluate ctx) := by
    refine Quiet.composed.condition c fun t ht => ?_
    have haccess : ∀ x ∈ t.accesses, x ≠ .compute ∧ x.Authored := by
      intro x hx
      have hmem : x ∈ c.accesses := by
        rw [accesses_eq_flatMap_tests]
        exact List.mem_flatMap_of_mem ht hx
      exact ⟨hcompute x hmem, hauthored x hmem⟩
    refine t.quiet hw hturn (fun v hv => ?_) (fun ref => default_of_load h ht) haccess
    exact v.quiet hw hturn (defaulted_of_load h t ht v hv) fun x hx =>
      haccess x (Test.accesses_of_value hv hx)
  exact (hquiet s rfl).2

/-- How much pain counts as much is read from a variable, which holds a number. -/
theorem reports_nothing_of_load_limit :
    let c : Condition := .test (.level .primary (.attribute .pain)
      (.single (.variable ⟨.global, "npctalk_var_limit", some "5"⟩ (some 5))))
    let w : World := { World.empty with globals := Variables.none.set "npctalk_var_limit" "007" }
    (c.evaluate ⟨none, none, .missionGoal⟩ ⟨w, .scripted [], [], []⟩).2.log = [] := by
  intro c w
  let limit : Json := .object [("default", .int 5), ("global_val", .string "limit")]
  have hlimit : Ranged.load .integer limit "u_has_pain" =
      .ok (.single (.variable ⟨.global, "npctalk_var_limit", some "5"⟩ (some 5))) := by
    rw [Ranged.load.eq_def]
    simp only [limit]
    rw [Source.load.eq_def]
    rfl
  have hload : load (.object [("u_has_pain", limit)]) = .ok c :=
    load_of_level (by decide) (by decide) (by decide) hlimit rfl
  have hwrites : Numeral.Writes ['0', '0', '7'] (Nat.ofDigitChars 10 ['0', '0', '7'] 0) :=
    .plain (by decide) (List.all_eq_true.1 (by decide))
  have hvalue : Nat.ofDigitChars 10 ['0', '0', '7'] 0 = 7 := by decide
  have hglobals : w.globals.Counting := by
    have htexts : w.globals.texts.values = ["007"] := rfl
    rw [hvalue] at hwrites
    rw [Variables.Counting, htexts]
    exact List.forall_mem_singleton.2 (.inr ⟨7, hwrites, by decide, by decide⟩)
  have hw : w.Counting := by
    refine ⟨hglobals, ?_, ?_, ?_, ?_⟩ <;> intro x hx <;> cases hx
  exact reports_nothing_of_load hload (by cbv) _ _ (by decide) hw

end Condition

end Parley
