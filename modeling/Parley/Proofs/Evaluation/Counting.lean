import Mathlib.Algebra.Order.Ring.Int
import Mathlib.Logic.Function.Iterate
import Mathlib.Tactic.Ring
import Parley.Proofs.Evaluation.Formula
import Parley.Proofs.Value.Defaults
import Parley.Proofs.Value.Stored
import Parley.Proofs.World.Erasure

/-!
Counting. The effects that add 1 to a variable and take 1 from it read their number from a text and store the next
one as a text. Main statement: run any number of times they count up and down from what the variable stands for at
the start, start again at 0 with one error when they leave the 32 bits, and change nothing else.
-/

set_option autoImplicit false
set_option relaxedAutoImplicit false

namespace Parley

open Evaluation

def Counter.Fits (n : Int) : Prop :=
  -0x80000000 ≤ n ∧ n ≤ 0x7fffffff

instance (n : Int) : Decidable (Counter.Fits n) :=
  inferInstanceAs (Decidable (_ ∧ _))

open Counter (Fits)

namespace Counter

private theorem fits_toInt (n : Int32) : Fits n.toInt := by
  have hlo := Int32.le_toInt n
  have hhi := Int32.toInt_lt n
  constructor <;> omega

private theorem toInt_of_fits {n : Int} (h : Fits n) : (Int32.ofInt n).toInt = n := by
  obtain ⟨hlo, hhi⟩ := h
  exact Int32.toInt_ofInt_of_le hlo (by omega)

private theorem Fits.between {n d : Int} {i k : Nat} (hn : Fits n) (hk : Fits (n + k * d)) (hik : i ≤ k) :
    Fits (n + i * d) := by
  obtain ⟨hlo, hhi⟩ := hn
  obtain ⟨hlo', hhi'⟩ := hk
  have hcast : (i : Int) ≤ k := Int.ofNat_le.2 hik
  have hpos : (0 : Int) ≤ i := Int.natCast_nonneg i
  rcases le_total 0 d with hd | hd
  · have hfirst : 0 ≤ i * d := mul_nonneg hpos hd
    have hlast : i * d ≤ k * d := mul_le_mul_of_nonneg_right hcast hd
    constructor <;> omega
  · have hfirst : i * d ≤ 0 := mul_nonpos_of_nonneg_of_nonpos hpos hd
    have hlast : k * d ≤ i * d := mul_le_mul_of_nonpos_right hcast hd
    constructor <;> omega

end Counter

private theorem Operator.resolve_add (n δ : Int32) : Operator.add.resolve n δ =
    if Fits (n.toInt + δ.toInt) then (Int32.ofInt (n.toInt + δ.toInt), none) else (0, some (.undefined .add n δ)) := by
  by_cases h : Fits (n.toInt + δ.toInt)
  · have hresult : Narrow.int32? (n.toInt + δ.toInt) = some (Int32.ofInt (n.toInt + δ.toInt)) := by
      obtain ⟨hlo, hhi⟩ := h
      exact if_pos ⟨hlo, by omega⟩
    rw [if_pos h, resolve, result?, hresult]
  · have hresult : Narrow.int32? (n.toInt + δ.toInt) = none := by
      refine if_neg fun hfits => h ?_
      obtain ⟨hlo, hhi⟩ := hfits
      exact ⟨hlo, by omega⟩
    rw [if_neg h, resolve, result?, hresult]

/-- The number that a variable stands for as an integer, and what is reported of its text: nothing is where it holds no
text, its default or else 0; a text that is no integer is 0, and an error. -/
inductive Reference.Start (ref : Reference) (text : String) : Int → List Diagnostic → Prop
  | unset (empty : text = "") (no_default : ref.default = none) : Start ref text 0 []
  | default {default : String} {n : Int32} (empty : text = "") (default_eq : ref.default = some default)
      (is_text : Kind.IsText .integer default n) : Start ref text n.toInt []
  | stored {n : Int32} (is_text : Kind.IsText .integer text n) : Start ref text n.toInt []
  | unreadable {fault : Kind.Fault} (nonempty : text ≠ "") (no_text : ∀ n : Int32, ¬Kind.IsText .integer text n) :
      Start ref text 0 [.badValue .integer (.variable ref.name) fault]

private theorem Reference.start_of_resolveInteger {ref : Reference} (h : ref.DefaultsToInteger) {text : String}
    {n : Int32} {d : Option Diagnostic} (hresolve : ref.resolveInteger text = (n, d)) :
    ref.Start text n.toInt d.toList := by
  rw [resolveInteger] at hresolve
  by_cases hempty : text = ""
  · rw [if_pos hempty] at hresolve
    cases hdefault : ref.default with
    | none =>
      rw [hdefault] at hresolve
      cases hresolve
      exact .unset hempty hdefault
    | some default =>
      obtain ⟨m, hm⟩ := h default hdefault
      have hnonempty : default ≠ "" := by
        rintro rfl
        cases hm
      have hread : Kind.read .integer default = .ok m := hm
      simp only [hdefault, Kind.resolve, if_neg hnonempty, hread] at hresolve
      cases hresolve
      exact .default hempty hdefault (Kind.read_eq_ok_iff.1 hread)
  · rw [if_neg hempty, Kind.resolve, if_neg hempty] at hresolve
    cases hread : Kind.read .integer text with
    | ok m =>
      rw [hread] at hresolve
      cases hresolve
      exact .stored (Kind.read_eq_ok_iff.1 hread)
    | error fault =>
      rw [hread] at hresolve
      cases hresolve
      exact .unreadable hempty (Kind.read_eq_error_iff.1 ⟨fault, hread⟩)

private theorem Evaluation.integer_eq {ctx : Context} {ref : Reference} {s : State} {n : Int32} {d : Option Diagnostic}
    (h : ref.resolveInteger (s.read ctx ref) = (n, d)) : Evaluation.integer ctx ref s = (n, s.reportAll d.toList) := by
  have hsettle : Evaluation.integer ctx ref s = settle (ref.resolveInteger (s.read ctx ref)) s := rfl
  rw [hsettle, h, settle_eq]

private theorem Reference.resolveInteger_text (ref : Reference) (n : Int32) :
    ref.resolveInteger (Numeral.text n.toInt) = (n, none) := by
  have hnonempty := Numeral.text_ne_empty n.toInt
  have hread : Kind.read .integer (Numeral.text n.toInt) = .ok n := Kind.readInteger_text n
  rw [resolveInteger, if_neg hnonempty, Kind.resolve, if_neg hnonempty, hread]

/-- The world with a record of the faction whose variables a store is, if it is that of a faction. -/
def World.withRecord (w : World) : Store → World
  | .faction id => if (w.factions.get? id).isSome then w else w.addFaction (.ofId id)
  | .globals | .actor _ => w

namespace State

variable {ctx : Context} {ref : Reference} {s : State} {cell : Store × String}

/-- A text that is put into a cell takes the place of what was there, and nothing else changes but that a faction may
become known. -/
theorem erase_put (hname : cell.2 ≠ Reference.tempName) (text : String) :
    (s.put cell text).world.erase cell = (s.world.withRecord cell.1).erase cell := by
  obtain ⟨store, name⟩ := cell
  cases store with
  | globals =>
    change (s.writeGlobal name text).world.erase (.globals, name) = s.world.erase (.globals, name)
    rw [writeGlobal_of_ne text hname]
    simp only [World.erase, Variables.erase_set_self]
  | actor h =>
    change (s.world.modifyVars h (·.set name text)).modifyVars h (·.erase name) = s.world.modifyVars h (·.erase name)
    simp only [World.modifyVars_modifyVars, Variables.erase_set_self]
  | faction id =>
    simp only [put, writeFaction, World.withRecord]
    cases hknown : s.world.factions.get? id with
    | some f =>
      simp only [Option.isSome_some, if_true, Option.getD_some, World.erase, World.mk.injEq, true_and, and_true]
      refine Dict.ext_get? fun id' => ?_
      simp only [Dict.get?_modify, Dict.get?_insert]
      by_cases hid : id = id'
      · subst hid
        simp only [if_true, hknown, Option.map_some, Variables.erase_set_self]
      · simp only [if_neg hid]
    | none =>
      simp only [Option.isSome_none, Bool.false_eq_true, if_false, Option.getD_none, World.addFaction, World.erase,
        World.mk.injEq, true_and, and_true]
      refine Dict.ext_get? fun id' => ?_
      simp only [Dict.get?_modify, Dict.get?_insert, Faction.ofId]
      by_cases hid : id = id'
      · simp only [if_pos hid, Option.map_some, Variables.erase_set_self]
      · simp only [if_neg hid]

private theorem put_kept (hname : cell.2 ≠ Reference.tempName) (text : String) :
    (s.put cell text).random = s.random ∧ (s.put cell text).frames = s.frames ∧ (s.put cell text).log = s.log := by
  obtain ⟨store, name⟩ := cell
  cases store with
  | globals =>
    rw [put, writeGlobal_of_ne text hname]
    exact ⟨rfl, rfl, rfl⟩
  | actor h => exact ⟨rfl, rfl, rfl⟩
  | faction id => exact ⟨rfl, rfl, rfl⟩

private theorem put_reportAll (text : String) (ds : List Diagnostic) :
    (s.reportAll ds).put cell text = (s.put cell text).reportAll ds := by
  obtain ⟨store, name⟩ := cell
  cases store with
  | globals =>
    have hframes : (s.reportAll ds).frames = s.frames := rfl
    simp only [put, writeGlobal, hframes]
    split
    · cases s.frames <;> rfl
    · rfl
  | actor h => rfl
  | faction id => rfl

def holding (s : State) (cell : Store × String) (n : Int) (ds : List Diagnostic) : State :=
  (s.put cell (Numeral.text n)).reportAll ds

private theorem holding_holding (n m : Int) (ds ds' : List Diagnostic) :
    (s.holding cell n ds).holding cell m ds' = s.holding cell m (ds ++ ds') := by
  simp only [holding, put_reportAll, put_put, reportAll_reportAll]

private theorem cell?_holding (hcell : ctx.cell? s.world ref = some cell) (n : Int) (ds : List Diagnostic) :
    ctx.cell? (s.holding cell n ds).world ref = some cell := by
  change ctx.cell? (s.put cell (Numeral.text n)).world ref = some cell
  rw [← write_of_cell hcell, (s.develops_write ctx ref _).cell?_eq, hcell]

private theorem read_holding (hcell : ctx.cell? s.world ref = some cell) (n : Int) (ds : List Diagnostic) :
    (s.holding cell n ds).read ctx ref = Numeral.text n := by
  change (s.put cell (Numeral.text n)).read ctx ref = Numeral.text n
  rw [← write_of_cell hcell, read_write_of_cell hcell, if_pos hcell]

/-- What is left of a state after some steps: the variable holds a number, some diagnostics were logged, and there is no
other change but that its faction may have become known. -/
structure Counts (ctx : Context) (ref : Reference) (cell : Store × String) (s s' : State) (n : Int)
    (ds : List Diagnostic) : Prop where
  read_eq : s'.read ctx ref = Numeral.text n
  world_eq : s'.world.erase cell = (s.world.withRecord cell.1).erase cell
  random_eq : s'.random = s.random
  frames_eq : s'.frames = s.frames
  log_eq : s'.log = s.log ++ ds

private theorem counts_holding (hcell : ctx.cell? s.world ref = some cell) (hauthored : ref.Authored) (n : Int)
    (ds : List Diagnostic) : Counts ctx ref cell s (s.holding cell n ds) n ds := by
  have hname : cell.2 ≠ Reference.tempName := by
    obtain ⟨store, -, rfl⟩ := Option.map_eq_some_iff.1 hcell
    exact hauthored
  obtain ⟨hrandom, hframes, hlog⟩ := put_kept (s := s) hname (Numeral.text n)
  exact
    { read_eq := read_holding hcell n ds
      world_eq := erase_put hname (Numeral.text n)
      random_eq := hrandom
      frames_eq := hframes
      log_eq := congrArg (· ++ ds) hlog }

end State

def Effect.next (ctx : Context) (effect : Effect) (s : State) : State :=
  (effect.run ctx s).2

namespace State

variable {ctx : Context} {ref : Reference} {s s' : State} {cell : Store × String} {n : Int}
  {ds : List Diagnostic}

/-- A state from which a step of any size stores the next number: the sum if that fits, else 0 with one more error. -/
def Ready (ctx : Context) (ref : Reference) (cell : Store × String) (s s' : State) (n : Int)
    (ds : List Diagnostic) : Prop :=
  ∀ δ : Int32, (Effect.step ref δ).next ctx s' =
    if Fits (n + δ.toInt) then s.holding cell (n + δ.toInt) ds
    else s.holding cell 0 (ds ++ [.undefined .add (Int32.ofInt n) δ])

private theorem ready_of_resolveInteger (hcell : ctx.cell? s.world ref = some cell) {m : Int32} {d : Option Diagnostic}
    (h : ref.resolveInteger (s.read ctx ref) = (m, d)) : Ready ctx ref cell s s m.toInt d.toList := by
  intro δ
  have hread := Evaluation.integer_eq h
  have hstep : (Effect.step ref δ).next ctx s =
      (settle (Operator.add.resolve (Evaluation.integer ctx ref s).1 δ) (Evaluation.integer ctx ref s).2).2.write ctx ref
        (Numeral.text
          (settle (Operator.add.resolve (Evaluation.integer ctx ref s).1 δ)
            (Evaluation.integer ctx ref s).2).1.toInt) := rfl
  have hcell' (ds : List Diagnostic) : ctx.cell? (s.reportAll ds).world ref = some cell := hcell
  rw [hstep, hread, settle_eq, reportAll_reportAll, write_of_cell (hcell' _), put_reportAll, Operator.resolve_add,
    Int32.ofInt_toInt]
  by_cases hfits : Fits (m.toInt + δ.toInt)
  · have hsum : (Int32.ofInt (m.toInt + δ.toInt)).toInt = m.toInt + δ.toInt := Counter.toInt_of_fits hfits
    simp only [if_pos hfits, hsum, Option.toList_none, List.append_nil]
    rfl
  · simp only [if_neg hfits]
    rfl

private theorem ready_holding (hcell : ctx.cell? s.world ref = some cell) (hn : Fits n) :
    Ready ctx ref cell s (s.holding cell n ds) n ds := by
  intro δ
  obtain ⟨m, rfl⟩ : ∃ m : Int32, m.toInt = n := ⟨Int32.ofInt n, Counter.toInt_of_fits hn⟩
  have hresolve : ref.resolveInteger ((s.holding cell m.toInt ds).read ctx ref) = (m, none) := by
    rw [read_holding hcell, ref.resolveInteger_text]
  rw [ready_of_resolveInteger (cell?_holding hcell m.toInt ds) hresolve δ]
  simp only [holding_holding, Option.toList_none, List.nil_append, List.append_nil]

namespace Ready

variable {δ : Int32}

private theorem next_of_fits (h : Ready ctx ref cell s s' n ds) (hfits : Fits (n + δ.toInt)) :
    (Effect.step ref δ).next ctx s' = s.holding cell (n + δ.toInt) ds := by
  rw [h δ, if_pos hfits]

private theorem next_of_not_fits (h : Ready ctx ref cell s s' n ds) (hexceeds : ¬Fits (n + δ.toInt)) :
    (Effect.step ref δ).next ctx s' = s.holding cell 0 (ds ++ [.undefined .add (Int32.ofInt n) δ]) := by
  rw [h δ, if_neg hexceeds]

end Ready

private theorem iterate_holding (hcell : ctx.cell? s.world ref = some cell) (ds : List Diagnostic) (δ : Int32) {k : Nat}
    (hn : Fits n) (hfits : Fits (n + k * δ.toInt)) :
    ((Effect.step ref δ).next ctx)^[k] (s.holding cell n ds) = s.holding cell (n + k * δ.toInt) ds := by
  induction k with
  | zero => rw [Function.iterate_zero, id, Nat.cast_zero, zero_mul, add_zero]
  | succ k ih =>
    have hbefore : Fits (n + k * δ.toInt) := hn.between hfits (Nat.le_succ k)
    have hsum : n + k * δ.toInt + δ.toInt = n + (k + 1 : Nat) * δ.toInt := by
      push_cast
      ring
    rw [← hsum] at hfits
    rw [Function.iterate_succ_apply', ih hbefore, (ready_holding hcell hbefore).next_of_fits hfits, hsum]

private theorem Ready.iterate (h : Ready ctx ref cell s s' n ds) (hcell : ctx.cell? s.world ref = some cell) (δ : Int32)
    {k : Nat} (hn : Fits n) (hk : 1 ≤ k) (hfits : Fits (n + k * δ.toInt)) :
    ((Effect.step ref δ).next ctx)^[k] s' = s.holding cell (n + k * δ.toInt) ds := by
  have hfirst : Fits (n + δ.toInt) := by
    have hone := hn.between hfits hk
    rwa [Nat.cast_one, one_mul] at hone
  obtain ⟨k, rfl⟩ := Nat.exists_eq_add_of_le' hk
  have hsum : n + δ.toInt + k * δ.toInt = n + (k + 1 : Nat) * δ.toInt := by
    push_cast
    ring
  rw [← hsum] at hfits
  rw [Function.iterate_succ_apply, h.next_of_fits hfirst, iterate_holding hcell ds δ hfirst hfits, hsum]

private theorem Ready.iterate_past (h : Ready ctx ref cell s s' n ds) (hcell : ctx.cell? s.world ref = some cell)
    (δ : Int32) {k : Nat} (hn : Fits n) (hfits : Fits (n + k * δ.toInt))
    (hexceeds : ¬Fits (n + (k + 1 : Nat) * δ.toInt)) :
    ((Effect.step ref δ).next ctx)^[k + 1] s' =
      s.holding cell 0 (ds ++ [.undefined .add (Int32.ofInt (n + k * δ.toInt)) δ]) := by
  have hsum : n + k * δ.toInt + δ.toInt = n + (k + 1 : Nat) * δ.toInt := by
    push_cast
    ring
  rw [← hsum] at hexceeds
  rw [Function.iterate_succ_apply']
  rcases Nat.eq_zero_or_pos k with rfl | hk
  · simp only [Function.iterate_zero, id, Nat.cast_zero, zero_mul, add_zero] at hexceeds ⊢
    exact h.next_of_not_fits hexceeds
  · rw [h.iterate hcell δ hn hk hfits]
    exact (ready_holding hcell hfits).next_of_not_fits hexceeds

private theorem Ready.counts_again (h : Ready ctx ref cell s s' n ds) (hcell : ctx.cell? s.world ref = some cell)
    (hauthored : ref.Authored) {δ : Int32} {u : Int} (hδ : δ.toInt = u) {k j : Nat} (hn : Fits n)
    (hfits : Fits (n + k * u)) (hexceeds : ¬Fits (n + (k + 1 : Nat) * u)) (hagain : Fits (j * u)) :
    ∃ d, d.severity = .error ∧ Counts ctx ref cell s
      (((Effect.step ref δ).next ctx)^[j] (((Effect.step ref δ).next ctx)^[k + 1] s')) (j * u) (ds ++ [d]) := by
  subst hδ
  have hzero : Fits 0 := by decide
  rw [← zero_add (j * δ.toInt)] at hagain
  refine ⟨.undefined .add (Int32.ofInt (n + k * δ.toInt)) δ, rfl, ?_⟩
  rw [h.iterate_past hcell δ hn hfits hexceeds, iterate_holding hcell _ δ hzero hagain, zero_add]
  exact counts_holding hcell hauthored _ _

end State

namespace Effect

open State

private theorem IsTarget.authored {target : Json} {ref : Reference} (h : IsTarget target ref) :
    ref.Authored ∧ ref.DefaultsToInteger := by
  obtain ⟨ms, -, hload, hdefault⟩ := loadTarget_eq_ok_iff_load.1 (loadTarget_eq_ok_iff.2 h)
  exact ⟨Reference.authored_of_load hload, hdefault⟩

private theorem exists_target_of_increment {target : Json} {up : Effect}
    (h : arithmetic [target, .string "++"] = .ok up) : ∃ ref, IsTarget target ref ∧ up = step ref 1 := by
  have hshape := shape_of_arithmetic h
  generalize hitems : [target, Json.string "++"] = items at hshape
  cases hshape with
  | increment target_is =>
    obtain rfl := (List.cons.inj hitems).1
    exact ⟨_, target_is, rfl⟩
  | _ => simp at hitems

/-- Steps count. A variable that exists stands for some number at the start, with one error if its text is no integer.
Run any number of times the effect that adds 1 leaves the number of times more, while that fits, and the one that takes
1 as often leaves the first number again. A step past either end leaves 0 with one error, and the next steps count from
there. Nothing else changes but that the variable's faction may become known. -/
theorem steps_count {target : Json} {up : Effect} (hup : arithmetic [target, .string "++"] = .ok up) :
    ∃ ref down, IsTarget target ref ∧ arithmetic [target, .string "--"] = .ok down ∧
      ∀ ctx (s : State) cell, ctx.cell? s.world ref = some cell →
        ∃ (v : Int) (ds : List Diagnostic), ref.Start (s.read ctx ref) v ds ∧
          (Evaluation.integer ctx ref s).1.toInt = v ∧
          (∀ k : Nat, 1 ≤ k → v + k ≤ 0x7fffffff →
            Counts ctx ref cell s ((up.next ctx)^[k] s) (v + k) ds ∧
            Counts ctx ref cell s ((down.next ctx)^[k] ((up.next ctx)^[k] s)) v ds) ∧
          (∀ k j : Nat, v + k = 0x80000000 → j ≤ 0x7fffffff → ∃ d, d.severity = .error ∧
            Counts ctx ref cell s ((up.next ctx)^[j] ((up.next ctx)^[k] s)) j (ds ++ [d])) ∧
          ∀ k j : Nat, v - k = -0x80000001 → j ≤ 0x80000000 → ∃ d, d.severity = .error ∧
            Counts ctx ref cell s ((down.next ctx)^[j] ((down.next ctx)^[k] s)) (-j) (ds ++ [d]) := by
  obtain ⟨ref, htarget, rfl⟩ := exists_target_of_increment hup
  obtain ⟨hauthored, hdefault⟩ := htarget.authored
  refine ⟨ref, step ref (-1), htarget, arithmetic_of_shape (.decrement htarget), ?_⟩
  intro ctx s cell hcell
  obtain ⟨⟨m, d⟩, hresolve⟩ : ∃ r, ref.resolveInteger (s.read ctx ref) = r := ⟨_, rfl⟩
  have hready : Ready ctx ref cell s s m.toInt d.toList := ready_of_resolveInteger hcell hresolve
  have hinteger : (Evaluation.integer ctx ref s).1.toInt = m.toInt := by rw [Evaluation.integer_eq hresolve]
  refine ⟨m.toInt, d.toList, ref.start_of_resolveInteger hdefault hresolve, hinteger, ?_⟩
  have hcounts (n : Int) (ds : List Diagnostic) := counts_holding hcell hauthored n ds
  have hfirst : Fits m.toInt := Counter.fits_toInt m
  have hlo : -0x80000000 ≤ m.toInt := hfirst.1
  have hhi : m.toInt ≤ 0x7fffffff := hfirst.2
  have hone : (1 : Int32).toInt = 1 := by decide
  have hminus : (-1 : Int32).toInt = -1 := by decide
  refine ⟨?_, ?_, ?_⟩
  · intro k hk hle
    have hlast : Fits (m.toInt + k) := by
      constructor <;> omega
    have hup : ((step ref 1).next ctx)^[k] s = s.holding cell (m.toInt + k) d.toList := by
      have hrun := hready.iterate hcell 1 hfirst hk (by rwa [hone, mul_one])
      rwa [hone, mul_one] at hrun
    have hback : m.toInt + k + k * (-1 : Int32).toInt = m.toInt := by
      rw [hminus]
      ring
    have hdown : ((step ref (-1)).next ctx)^[k] (s.holding cell (m.toInt + k) d.toList) =
        s.holding cell m.toInt d.toList := by
      have hrun := iterate_holding hcell d.toList (-1) hlast (by rwa [hback])
      rwa [hback] at hrun
    rw [hup, hdown]
    exact ⟨hcounts _ _, hcounts _ _⟩
  · intro k j hk hj
    obtain ⟨k, rfl⟩ : ∃ i, k = i + 1 := Nat.exists_eq_add_of_le' (by omega)
    have hlast : Fits (m.toInt + k * 1) := by
      constructor <;> omega
    have hexceeds : ¬Fits (m.toInt + (k + 1 : Nat) * 1) := by
      rintro ⟨-, hle⟩
      omega
    have hagain : Fits (j * 1) := by
      constructor <;> omega
    have hrun := hready.counts_again hcell hauthored hone hfirst hlast hexceeds hagain
    rwa [mul_one] at hrun
  · intro k j hk hj
    obtain ⟨k, rfl⟩ : ∃ i, k = i + 1 := Nat.exists_eq_add_of_le' (by omega)
    have hlast : Fits (m.toInt + k * -1) := by
      constructor <;> omega
    have hexceeds : ¬Fits (m.toInt + (k + 1 : Nat) * -1) := by
      rintro ⟨hle, -⟩
      omega
    have hagain : Fits (j * -1) := by
      constructor <;> omega
    have hrun := hready.counts_again hcell hauthored hminus hfirst hlast hexceeds hagain
    rwa [mul_neg_one] at hrun

/-- A count of kills that is one short of the greatest number reaches it, and two steps later stands at 1. -/
theorem steps_count_of_kills :
    let target : Json := .object [("global_val", .string "kills")]
    let kills : Reference := ⟨.global, "npctalk_var_kills", none⟩
    let ctx : Context := ⟨none, none, .missionGoal⟩
    let s : State :=
      ⟨{ World.empty with globals := Variables.none.set kills.name "2147483646" }, .scripted [], [], []⟩
    ∃ up down, arithmetic [target, .string "++"] = .ok up ∧ arithmetic [target, .string "--"] = .ok down ∧
      ((up.next ctx)^[1] s).read ctx kills = Numeral.text 2147483647 ∧
      ((down.next ctx)^[1] ((up.next ctx)^[1] s)).read ctx kills = Numeral.text 2147483646 ∧
      ((up.next ctx)^[1] ((up.next ctx)^[2] s)).read ctx kills = Numeral.text 1 := by
  intro target kills ctx s
  have hkills : IsTarget target kills := by
    have hscope : ["u_val", "npc_val", "global_val", "faction_val", "party_val"].find?
        (Json.Members.has [("global_val", .string "kills")]) = some Scope.global.member := by decide
    exact .object hscope rfl (.absent rfl) nofun
  obtain ⟨ref, down, htarget, hdown, hcounts⟩ := steps_count (arithmetic_of_shape (.increment hkills))
  obtain rfl : ref = kills := by
    have hload := loadTarget_eq_ok_iff.2 htarget
    rw [loadTarget_eq_ok_iff.2 hkills] at hload
    cases hload
    rfl
  obtain ⟨v, ds, -, hv, hups, hpast, -⟩ := hcounts ctx s (.globals, "npctalk_var_kills") rfl
  have hstart : (Evaluation.integer ctx kills s).1.toInt = 2147483646 := by decide
  rw [hstart] at hv
  subst hv
  refine ⟨_, down, arithmetic_of_shape (.increment hkills), hdown, ?_⟩
  obtain ⟨hone, hback⟩ := hups 1 (by decide) (by decide)
  obtain ⟨d, -, hagain⟩ := hpast 2 1 (by decide) (by decide)
  exact ⟨hone.read_eq, hback.read_eq, hagain.read_eq⟩

end Effect

end Parley
