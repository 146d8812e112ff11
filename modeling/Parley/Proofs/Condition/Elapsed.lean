import Parley.Proofs.Condition.Threshold
import Parley.Proofs.Evaluation.Composition
import Parley.Proofs.Time.Duration
import Parley.Proofs.Value.Stored

/-!
The time since a turn that a variable stores, which a condition compares with a duration and an operand gives as an
integer. Main statement: where a turn is stored and the time since it has 32 bits, the condition has the answer of
the comparison of the operand with the turns of the duration; where no turn can be read or the time since it has not
even 64 bits, the condition is false, the operand is -1, and both report the same.
-/

set_option autoImplicit false
set_option relaxedAutoImplicit false

namespace Parley

open Evaluation

private theorem compare_toInt {α : Type} [LT α] [DecidableLT α] [DecidableEq α] {toInt : α → Int}
    (hlt : ∀ a b, a < b ↔ toInt a < toInt b) (heq : ∀ a b, a = b ↔ toInt a = toInt b) (a b : α) :
    compareOfLessAndEq a b = compare (toInt a) (toInt b) := by
  change _ = compareOfLessAndEq (toInt a) (toInt b)
  simp only [compareOfLessAndEq, hlt a b, heq a b]

namespace Comparison

variable (c : Comparison)

private theorem holds_int32 (a b : Int32) : c.holds a b = c.holds a.toInt b.toInt := by
  have hcompare : compare a b = compare a.toInt b.toInt :=
    compare_toInt (fun _ _ => Int32.lt_iff_toInt_lt) (fun _ _ => Int32.toInt_inj.symm) a b
  rw [holds, hcompare, holds]

private theorem holds_int64 (a b : Int64) : c.holds a b = c.holds a.toInt b.toInt := by
  have hcompare : compare a b = compare a.toInt b.toInt :=
    compare_toInt (fun _ _ => Int64.lt_iff_toInt_lt) (fun _ _ => Int64.toInt_inj.symm) a b
  rw [holds, hcompare, holds]

end Comparison

/-- A text in which a turn is stored: a numeral of 64 bits between white space. -/
def Text.IsTurn (text : String) (turn : Int) : Prop :=
  Numeral.IsText (-0x8000000000000000) 0x7fffffffffffffff text turn

private theorem Text.isTurn_iff {text : String} {turn : Int64} :
    IsTurn text turn.toInt ↔ Numeral.int64 (trimChars text.toList) = .ok turn := by
  have hlo := Int64.le_toInt turn
  have hhi := Int64.toInt_lt turn
  rw [IsTurn, Numeral.isText_iff, Numeral.int64_eq_ok_iff]
  constructor
  · rintro ⟨hwrites, -⟩
    exact hwrites
  · intro hwrites
    exact ⟨hwrites, hlo, by omega⟩

private theorem Text.IsTurn.exists_read {text : String} {turn : Int} (h : IsTurn text turn) :
    ∃ stored : Int64, stored.toInt = turn ∧ Numeral.int64 (trimChars text.toList) = .ok stored := by
  have hlo : -0x8000000000000000 ≤ turn := h.2.1
  have hhi : turn ≤ 0x7fffffffffffffff := h.2.2
  have hturn : (Int64.ofInt turn).toInt = turn := Int64.toInt_ofInt_of_le hlo (by omega)
  refine ⟨Int64.ofInt turn, hturn, isTurn_iff.1 ?_⟩
  rw [hturn]
  exact h

private theorem Text.IsTurn.ne_empty {text : String} {turn : Int} (h : IsTurn text turn) : text ≠ "" := by
  rintro rfl
  obtain ⟨stored, -, hread⟩ := h.exists_read
  cases hread

/-- The texts from which no elapsed time is known at a turn, in a variable of a name, and what is reported of them:
nothing of an empty text, else one error. -/
inductive Text.Timeless (name : String) (now : Int) (text : String) : List Diagnostic → Prop
  | unset (empty : text = "") : Timeless name now text []
  | unreadable {fault : Numeral.Fault} (nonempty : text ≠ "") (none_stored : ∀ turn, ¬IsTurn text turn) :
      Timeless name now text [.badTurn text name fault]
  | outOfRange {turn : Int} (stored : IsTurn text turn) (exceeds : ¬Duration.Fits (now - turn)) :
      Timeless name now text [.turnOutOfRange text name]

private theorem Text.Timeless.severity {name text : String} {now : Int} {ds : List Diagnostic}
    (h : Timeless name now text ds) : ∀ d ∈ ds, d.severity = .error := by
  intro d hd
  cases h with
  | unset => cases hd
  | unreadable | outOfRange =>
    rw [List.mem_singleton.1 hd]
    rfl

namespace Reference

variable (ref : Reference) {text : String} {now : Int64}

private theorem elapsed_of_isTurn {turn : Int} (h : Text.IsTurn text turn) (hfits : Duration.Fits (now.toInt - turn)) :
    ref.elapsed now text = (some (Int64.ofInt (now.toInt - turn)), none) := by
  obtain ⟨stored, rfl, hread⟩ := h.exists_read
  simp only [elapsed, if_neg h.ne_empty, hread, Duration.int64?_of_fits hfits]

private theorem elapsed_of_timeless (h : text = "" ∨ (∀ turn, ¬Text.IsTurn text turn) ∨
      ∃ turn, Text.IsTurn text turn ∧ ¬Duration.Fits (now.toInt - turn)) :
    ∃ d, ref.elapsed now text = (none, d) ∧ Text.Timeless ref.name now.toInt text d.toList := by
  rcases h with rfl | hnone | ⟨turn, hturn, hexceeds⟩
  · exact ⟨none, rfl, .unset rfl⟩
  · by_cases hempty : text = ""
    · exact ⟨none, by rw [elapsed, if_pos hempty], .unset hempty⟩
    · cases hread : Numeral.int64 (Text.trimChars text.toList) with
      | ok stored => exact absurd (Text.isTurn_iff.2 hread) (hnone stored.toInt)
      | error fault =>
        refine ⟨some (.badTurn text ref.name fault), ?_, .unreadable hempty hnone⟩
        simp only [elapsed, if_neg hempty, hread]
  · obtain ⟨stored, rfl, hread⟩ := hturn.exists_read
    refine ⟨some (.turnOutOfRange text ref.name), ?_, .outOfRange hturn hexceeds⟩
    simp only [elapsed, if_neg hturn.ne_empty, hread, Duration.int64?_of_not_fits hexceeds]

end Reference

private theorem Evaluation.elapsed_eq {ctx : Context} {ref : Reference} {s : State} {e : Option Int64}
    {d : Option Diagnostic} (h : ref.elapsed s.world.calendar.turn (s.read ctx ref) = (e, d)) :
    Evaluation.elapsed ctx ref s = (e, s.reportAll d.toList) := by
  have hsettle : Evaluation.elapsed ctx ref s =
      settle (ref.elapsed s.world.calendar.turn (s.read ctx ref)) s := rfl
  rw [hsettle, h, settle_eq]

namespace Condition

variable {ms os cs : Json.Members} {slot : Slot} {n : Int32} {sign fullName : String}

/-- A condition that compares the time since the turn in a variable of the actor in a role with a literal duration,
and an operand that reads that time, with an integer as its default or none. -/
inductive ElapsedComparison (slot : Slot) (sign : String) (n : Int32) (fullName : String)
    (ms os : Json.Members) : Prop
  | named {key name type context : String} {literal : Json}
      (key_mem : (key, slot) ∈ [("u_compare_time_since_var", .primary), ("npc_compare_time_since_var", .secondary)])
      (single : Single ms key (.string name)) (type_eq : ms.stringOr "type" "" = .ok type)
      (context_eq : ms.stringOr "context" "" = .ok context) (sign_eq : ms.get? "op" = some (.string sign))
      (time_eq : ms.get? "time" = some literal) (literal_is : Kind.IsLiteral .duration literal ⟨n.toInt64⟩)
      (asks : Operand.Asks os slot "time_since_var") (read_name_eq : os.get? "var_name" = some (.string name))
      (read_type_eq : os.stringOr "type" "" = .ok type) (read_context_eq : os.stringOr "context" "" = .ok context)
      (read_default : ∀ json, os.get? "default" = some json → ∃ m, Kind.IsLiteral .integer json m)
      (fullName_eq : Reference.fullName type context name = fullName)

/-- The condition and the operand compile, and read one variable. -/
theorem ElapsedComparison.compiles (h : ElapsedComparison slot sign n fullName ms os) {c : Comparison}
    (hsign : Comparison.parse sign = .ok c) : ∃ default,
    load (.object ms) = .ok (.test (.compareElapsed ⟨Operand.scopeOf slot, fullName, none⟩ c
      (.single (.literal ⟨n.toInt64⟩)))) ∧
    Operand.load (.object os) "compare_int" = .ok (.elapsed ⟨Operand.scopeOf slot, fullName, default⟩) := by
  obtain @⟨key, name, type, context, literal, key_mem, single, type_eq, context_eq, sign_eq, time_eq, literal_is,
    asks, read_name_eq, read_type_eq, read_context_eq, read_default, rfl⟩ := h
  have hlisted : ∀ e ∈ [("u_compare_time_since_var", Slot.primary), ("npc_compare_time_since_var", .secondary)],
      Catalog.combinator? e.1 = none ∧ Catalog.arguments? e.1 = some (e.2, .compareElapsed) := by decide
  have hcomparison := Test.loadComparison_eq_ok sign_eq hsign
  have hname := Reference.loadName_eq_ok single.value_eq type_eq context_eq
  have htest : Test.load ms key slot .compareElapsed = .ok (.compareElapsed
      ⟨Operand.scopeOf slot, Reference.fullName type context name, none⟩ c (.single (.literal ⟨n.toInt64⟩))) := by
    refine Loaded.bind_eq_ok_iff.2 ⟨_, Test.loadReference_eq_ok_iff.2 ⟨_, hname, rfl⟩, ?_⟩
    refine Loaded.bind_eq_ok_iff.2 ⟨c, hcomparison, ?_⟩
    exact Loaded.bind_eq_ok_iff.2 ⟨_, Ranged.loadMember_of_isLiteral time_eq literal_is, rfl⟩
  have hvariable : ∃ default, Operand.loadVariable os slot =
      .ok ⟨Operand.scopeOf slot, Reference.fullName type context name, default⟩ := by
    have hname := Reference.loadName_eq_ok read_name_eq read_type_eq read_context_eq
    cases hdefault : os.get? "default" with
    | none =>
      refine ⟨none, Loaded.bind_eq_ok_iff.2 ⟨_, hname, ?_⟩⟩
      rw [hdefault]
      rfl
    | some json =>
      obtain ⟨m, hm⟩ := read_default json hdefault
      have hinteger : json.asInt32 "default" = .ok m := Json.asInt32_eq_ok_iff.2 hm
      refine ⟨some (Numeral.text m.toInt), Loaded.bind_eq_ok_iff.2 ⟨_, hname, ?_⟩⟩
      rw [hdefault]
      exact Loaded.bind_eq_ok_iff.2 ⟨m, hinteger, rfl⟩
  obtain ⟨default, hvariable⟩ := hvariable
  have hread : Operand.loadKeyword os slot "time_since_var" =
      .ok (some (.elapsed ⟨Operand.scopeOf slot, Reference.fullName type context name, default⟩)) :=
    Loaded.bind_eq_ok_iff.2 ⟨_, hvariable, rfl⟩
  exact ⟨default, single.load (hlisted _ key_mem) htest, asks.load hread⟩

section

variable {ctx : Context} {s s' : State} {ref ref' : Reference} {c : Comparison} {d : Duration}

private theorem evaluate_compareElapsed {e : Option Int64} (h : Evaluation.elapsed ctx ref s = (e, s')) :
    evaluate ctx (.test (.compareElapsed ref c (.single (.literal d)))) s =
      (e.any fun turns => c.holds turns.toInt d.turns.toInt, s') := by
  have hread : evaluate ctx (.test (.compareElapsed ref c (.single (.literal d)))) s =
      ((Evaluation.elapsed ctx ref s).1.any fun turns => c.holds turns d.turns,
        (Evaluation.elapsed ctx ref s).2) := rfl
  have hholds : (fun turns => c.holds turns d.turns) = fun turns => c.holds turns.toInt d.turns.toInt :=
    funext fun turns => c.holds_int64 turns d.turns
  rw [hread, h, hholds]

private theorem evaluate_elapsed {e : Option Int64} (h : Evaluation.elapsed ctx ref s = (e, s')) :
    Operand.evaluate ctx (.elapsed ref) s = (e.elim (-1) fun turns => Narrow.clamp32 turns.toInt, s') := by
  have hread : Operand.evaluate ctx (.elapsed ref) s =
      ((Evaluation.elapsed ctx ref s).1.elim (-1) fun turns => Narrow.clamp32 turns.toInt,
        (Evaluation.elapsed ctx ref s).2) := rfl
  rw [hread, h]

private theorem evaluate_compareIntegers {o : Operand} {m : Int32} (h : o.evaluate ctx s = (m, s')) :
    evaluate ctx (.test (.compareIntegers c o (.constant n))) s = (c.holds m.toInt n.toInt, s') := by
  have hread : evaluate ctx (.test (.compareIntegers c o (.constant n))) s =
      (c.holds (o.evaluate ctx s).1 n, (o.evaluate ctx s).2) := rfl
  rw [hread, h, Comparison.holds_int32]

end

/-- The time since a stored turn is compared by a condition of its own as it is by the comparison of the operand that
reads it with a constant, by each of the six signs, if the time has 32 bits; nothing is reported. A text that is
empty, in which no turn is stored, or from whose turn the time has not even 64 bits makes the condition false and the
operand -1. Both then report nothing of an empty text, and else the same error. -/
theorem elapsed_readers_agree (slot : Slot) (sign : String) (n : Int32) (fullName : String)
    (ms os cs : Json.Members) (hsign : sign ∈ signs) (helapsed : ElapsedComparison slot sign n fullName ms os)
    (hcompares : Compares cs os sign n) :
    ∃ c c' o order, load (.object ms) = .ok c ∧ load (.object cs) = .ok c' ∧
      Operand.load (.object os) "compare_int" = .ok o ∧ Comparison.parse sign = .ok order ∧
      ∀ ctx (s : State),
        let text := s.read ctx ⟨Operand.scopeOf slot, fullName, none⟩
        let now := s.world.calendar.turn.toInt
        (∀ turn, Text.IsTurn text turn → -0x80000000 ≤ now - turn → now - turn ≤ 0x7fffffff →
          c.evaluate ctx s = (order.holds (now - turn) n.toInt, s) ∧
          c'.evaluate ctx s = (order.holds (now - turn) n.toInt, s)) ∧
        (text = "" ∨ (∀ turn, ¬Text.IsTurn text turn) ∨
            (∃ turn, Text.IsTurn text turn ∧ ¬Duration.Fits (now - turn)) →
          ∃ ds, Text.Timeless fullName now text ds ∧ (∀ d ∈ ds, d.severity = .error) ∧
            c.evaluate ctx s = (false, s.reportAll ds) ∧ o.evaluate ctx s = (-1, s.reportAll ds)) := by
  obtain ⟨order, horder⟩ := exists_parse_of_mem_signs hsign
  obtain ⟨default, hload, hread⟩ := helapsed.compiles horder
  refine ⟨_, _, _, order, hload, hcompares.load horder hread, hread, horder, ?_⟩
  intro ctx s text now
  have hdefault : Evaluation.elapsed ctx ⟨Operand.scopeOf slot, fullName, default⟩ =
      Evaluation.elapsed ctx ⟨Operand.scopeOf slot, fullName, none⟩ := rfl
  refine ⟨?_, ?_⟩
  · intro turn hturn hlo hhi
    have hfits : Duration.Fits (now - turn) := by
      constructor <;> omega
    have hvalue : (Int64.ofInt (now - turn)).toInt = now - turn := Duration.toInt_of_fits hfits
    have hsettled : Evaluation.elapsed ctx ⟨Operand.scopeOf slot, fullName, none⟩ s =
        (some (Int64.ofInt (now - turn)), s) := by
      rw [Evaluation.elapsed_eq (Reference.elapsed_of_isTurn _ hturn hfits), Option.toList_none, State.reportAll_nil]
    have hclamped : (Narrow.clamp32 (now - turn)).toInt = now - turn := by
      rw [Narrow.toInt_clamp32]
      omega
    refine ⟨?_, ?_⟩
    · rw [evaluate_compareElapsed hsettled, Option.any_some, hvalue, Int32.toInt_toInt64]
    · rw [← hdefault] at hsettled
      rw [evaluate_compareIntegers (evaluate_elapsed hsettled), Option.elim_some, hvalue, hclamped]
  · intro hlost
    obtain ⟨d, helapsed, hds⟩ :=
      Reference.elapsed_of_timeless ⟨Operand.scopeOf slot, fullName, none⟩ hlost
    have hsettled := Evaluation.elapsed_eq helapsed
    refine ⟨d.toList, hds, hds.severity, ?_, ?_⟩
    · rw [evaluate_compareElapsed hsettled, Option.any_none]
    · rw [← hdefault] at hsettled
      rw [evaluate_elapsed hsettled, Option.elim_none]

/-- At turn 12 more than 3 turns have passed since turn 5, and none is known to have passed since "soon". -/
theorem elapsed_readers_agree_about_meeting :
    let guard (text : String) : Character :=
      { Character.ofName "Guard" with vars := Variables.none.set "npctalk_var_met" text }
    let met (text : String) : State :=
      ⟨{ World.empty.addCharacter (guard text) with calendar := ⟨12, 0⟩ }, .scripted [], [], []⟩
    let ctx : Context := ⟨none, some (.creature default), .missionGoal⟩
    let ms : Json.Members :=
      [("npc_compare_time_since_var", .string "met"), ("op", .string ">"), ("time", .int 3)]
    let os : Json.Members := [("npc_val", .string "time_since_var"), ("var_name", .string "met")]
    let cs : Json.Members :=
      [("compare_int", .array [.object os, .object [("const", .int 3)]]), ("op", .string ">")]
    ∃ c c' o, load (.object ms) = .ok c ∧ load (.object cs) = .ok c' ∧
      Operand.load (.object os) "compare_int" = .ok o ∧
      c.evaluate ctx (met "5") = (true, met "5") ∧ c'.evaluate ctx (met "5") = (true, met "5") ∧
      ∃ d, c.evaluate ctx (met "soon") = (false, (met "soon").reportAll [d]) ∧
        o.evaluate ctx (met "soon") = (-1, (met "soon").reportAll [d]) := by
  intro guard met ctx ms os cs
  have hsingle : Single ms "npc_compare_time_since_var" (.string "met") := ⟨by decide, rfl⟩
  have htime : Kind.IsLiteral .duration (.int 3) ⟨(3 : Int32).toInt64⟩ := ⟨.inr rfl, by decide⟩
  have helapsed : ElapsedComparison .secondary ">" 3 "npctalk_var_met" ms os :=
    .named (by decide) hsingle rfl rfl rfl rfl htime ⟨by decide, by decide, rfl⟩ rfl rfl rfl nofun (by decide)
  have hcompares : Compares cs os ">" 3 :=
    ⟨⟨_, ⟨_, rfl, 3, by decide, rfl⟩, by decide, rfl⟩, rfl⟩
  obtain ⟨c, c', o, order, hload, hload', hread, horder, hagree⟩ :=
    elapsed_readers_agree .secondary ">" 3 "npctalk_var_met" ms os cs (by decide) helapsed hcompares
  cases horder
  refine ⟨c, c', o, hload, hload', hread, ?_⟩
  have hfive : Text.IsTurn "5" 5 := (@Text.isTurn_iff "5" 5).2 rfl
  have hsoon : ∀ turn, ¬Text.IsTurn "soon" turn := by
    intro turn hturn
    obtain ⟨stored, -, hstored⟩ := hturn.exists_read
    cases hstored
  obtain ⟨hanswer, hanswer'⟩ := (hagree ctx (met "5")).1 5 hfive (by decide) (by decide)
  refine ⟨hanswer, hanswer', ?_⟩
  obtain ⟨ds, htimeless, -, hfalse, hminus⟩ := (hagree ctx (met "soon")).2 (.inr (.inl hsoon))
  cases htimeless with
  | unset hempty => exact absurd hempty (by decide)
  | unreadable => exact ⟨_, hfalse, hminus⟩
  | outOfRange hstored => exact absurd hstored (hsoon _)

end Condition

end Parley
