import Parley.Proofs.Evaluation.Resolution
import Parley.Proofs.Talk.Core
import Parley.Proofs.Talk.Independence
import Parley.Proofs.Time.Duration

/-!
Numbers that were printed. Main statement: the written form of every duration is read as that duration; the numeral
of an integer, or of the turns of a duration that is not negative, is the value of every variable that it is written
to and of every effect that reports it, whatever the default, and nothing is logged.
-/

set_option autoImplicit false
set_option relaxedAutoImplicit false

namespace Parley

namespace Duration

private theorem isAmount_of_writes {word : List Char} {n : Int} (h : Numeral.Writes word n) : IsAmount word := by
  have hletter : ∀ c : Char, c.isDigit = true → c.isAlpha = false := by
    intro c hc
    simp only [Char.isDigit, Bool.and_eq_true, decide_eq_true_eq, UInt32.le_iff_toNat_le] at hc
    have hlow : 48 ≤ c.val.toNat := hc.1
    have hhigh : c.val.toNat ≤ 57 := hc.2
    rw [← isLetter_eq_isAlpha, isLetter]
    simp only [Bool.or_eq_false_iff, Bool.and_eq_false_iff, decide_eq_false_iff_not, Char.le_def,
      UInt32.le_iff_toNat_le]
    change (¬97 ≤ c.val.toNat ∨ ¬c.val.toNat ≤ 122) ∧ (¬65 ≤ c.val.toNat ∨ ¬c.val.toNat ≤ 90)
    omega
  cases h with
  | plain nonempty all =>
    obtain ⟨first, rest, rfl⟩ := List.exists_cons_of_ne_nil nonempty
    exact ⟨first, rest, rfl, fun c hc => hletter c (all c (List.mem_cons_of_mem _ hc))⟩
  | plus nonempty all | minus nonempty all => exact ⟨_, _, rfl, fun c hc => hletter c (all c hc)⟩

private theorem words_text (d : Duration) : (d.text.toList.splitOnP Text.isBlank).filter (· ≠ []) =
    [Numeral.chars d.turns.toInt, "turns".toList] := by
  have hwrites := Numeral.writes_chars d.turns.toInt
  have hnumeral : ∀ c ∈ Numeral.chars d.turns.toInt, Text.isBlank c = false := fun c hc => hwrites.isBlank_of_mem hc
  have hunit : ("turns".toList).splitOnP Text.isBlank = ["turns".toList] := by decide
  have htext : d.text.toList = Numeral.chars d.turns.toInt ++ ' ' :: "turns".toList := by
    rw [text, String.toList_append, Numeral.text, String.toList_ofList]
    rfl
  have hparts : d.text.toList.splitOnP Text.isBlank = [Numeral.chars d.turns.toInt, "turns".toList] := by
    rw [htext, List.splitOnP_append_cons_of_forall_mem hnumeral ' ' (by decide), hunit]
  have hnonempty : ∀ word ∈ [Numeral.chars d.turns.toInt, "turns".toList], decide (word ≠ []) = true := by
    simp [Numeral.chars_ne_nil]
  rw [hparts, List.filter_eq_self.2 hnonempty]

private theorem parse_text (d : Duration) : parse d.text = .ok d := by
  have hwrites := Numeral.writes_chars d.turns.toInt
  have hfits := fits_toInt d.turns
  have hitems : Items [Numeral.chars d.turns.toInt, "turns".toList]
      [⟨Numeral.chars d.turns.toInt, some "turns".toList⟩] :=
    .spaced (isAmount_of_writes hwrites) (List.all_eq_true.1 (by decide)) .nil
  have hmeans : Item.Means ⟨Numeral.chars d.turns.toInt, some "turns".toList⟩ d.turns.toInt := by
    refine ⟨d.turns.toInt, 1, hwrites, hfits, ?_, (Int.mul_one _).symm⟩
    simp [Item.Length, unitLengths]
  have hsum : AddUp 0 [d.turns.toInt] := by
    rw [addUp_cons_iff, addUp_nil_iff, Int.zero_add]
    exact ⟨by decide, hfits, hfits⟩
  rw [← words_text] at hitems
  have hread := ((parse_reads_items d.text).2 _ hitems).1 d
  exact hread.2 ⟨List.cons_ne_nil _ _, _, .cons hmeans .nil, hsum, by simp⟩

end Duration

/-- The decimal text of a value; a duration is counted in turns. -/
def Measure.numeral : (m : Measure) → m.Value → String
  | .integer, n => Numeral.text n.toInt
  | .duration, d => Numeral.text d.turns.toInt

/-- Whether the decimal text of a value stands for it: that of a duration must not be negative. -/
def Measure.Storable : (m : Measure) → m.Value → Prop
  | .integer, _ => True
  | .duration, d => 0 ≤ d.turns.toInt

section

variable {m : Measure} {value : m.Value}

private theorem Measure.numeral_ne_empty : m.numeral value ≠ "" := by
  cases m with
  | integer => exact Numeral.text_ne_empty _
  | duration => exact Numeral.text_ne_empty _

private theorem Measure.read_numeral (h : m.Storable value) : (Kind.measure m).read (m.numeral value) = .ok value := by
  cases m with
  | integer => exact Kind.readInteger_text value
  | duration =>
    have hwrites : Numeral.Writes (Numeral.text value.turns.toInt).toList value.turns.toInt := by
      rw [Numeral.text, String.toList_ofList]
      exact Numeral.writes_chars value.turns.toInt
    have htrim := Kind.trimChars_of_writes hwrites
    refine Kind.readDuration_eq_ok_iff.2 ⟨?_, h⟩
    rw [Measure.numeral, htrim]
    exact hwrites

private theorem Measure.resolve_numeral (h : m.Storable value) (origin : Origin) (default : Option m.Value) :
    (Kind.measure m).resolve origin (m.numeral value) default = (value, none) := by
  rw [Kind.resolve.eq_def, if_neg numeral_ne_empty, read_numeral h]

end

private theorem Context.exists_cell? {ctx : Context} {w : World} {ref : Reference}
    (h : (ctx.store? w ref.scope).isSome = true) : ∃ cell, ctx.cell? w ref = some cell := by
  obtain ⟨store, hstore⟩ := Option.isSome_iff_exists.1 h
  refine ⟨(store, ref.name), ?_⟩
  rw [cell?, hstore]
  rfl

private theorem State.log_write {ctx : Context} {s : State} {ref : Reference}
    (h : (ctx.store? s.world ref.scope).isSome = true) (text : String) : (s.write ctx ref text).log = s.log := by
  obtain ⟨⟨store, name⟩, hcell⟩ := Context.exists_cell? h
  rw [write_of_cell hcell]
  cases store with
  | globals =>
    change (s.writeGlobal name text).log = s.log
    rcases s.writeGlobal_cases name text with ⟨-, hwritten⟩ | ⟨-, frame, rest, -, hwritten⟩
    · rw [hwritten]
    · rw [hwritten]
  | actor => rfl
  | faction => rfl

namespace Source

open Evaluation

variable {m : Measure} {value : m.Value} {ctx : Context} {s : State}

private theorem evaluate_variable_write (hvalue : m.Storable value) {ref : Reference}
    (hscope : (ctx.store? s.world ref.scope).isSome = true) (default : Option m.Value) :
    (Source.variable (k := .measure m) ref default).evaluate ctx (s.write ctx ref (m.numeral value)) =
      (value, s.write ctx ref (m.numeral value)) := by
  obtain ⟨cell, hcell⟩ := Context.exists_cell? hscope
  have hread : (s.write ctx ref (m.numeral value)).read ctx ref = m.numeral value := by
    rw [State.read_write_of_cell hcell, if_pos hcell]
  have hresolve := Measure.resolve_numeral hvalue (.variable ref.name) default
  change settle ((Kind.measure m).resolve (.variable ref.name)
    ((s.write ctx ref (m.numeral value)).read ctx ref) default) (s.write ctx ref (m.numeral value)) = _
  rw [hread, hresolve]
  rfl

private theorem evaluate_computed_numeral (hvalue : m.Storable value) {effect : Effect}
    (hresult : (effect.result ctx s).1 = m.numeral value) (default : Option m.Value) :
    (Source.computed (k := .measure m) effect default).evaluate ctx s = (value, (effect.result ctx s).2) := by
  have hresolve := Measure.resolve_numeral hvalue .computed default
  change settle ((Kind.measure m).resolve .computed (effect.result ctx s).1 default) (effect.result ctx s).2 = _
  rw [hresult, hresolve]
  rfl

private theorem result_setText_temp (text : String) :
    (Effect.setText .temp (.literal text)).result ctx s = (text, s) := by
  change (s.openFrame.write ctx .temp text).closeFrame = (text, s)
  rw [State.write_temp_of_cons text rfl]
  rfl

/-- Printed numbers read back. The written form of a duration is read as the duration. A number whose decimal text is
written to a variable, its scope resolving, is the value of that variable, and a number whose decimal text an effect
reports is the value of what the effect computes: whatever the default, and without a word in the log. -/
theorem printed_numbers_read_back :
    (∀ d : Duration, Duration.parse d.text = .ok d) ∧
    ∀ (m : Measure) (value : m.Value), m.Storable value → ∀ (ctx : Context) (s : State) (default : Option m.Value),
      (∀ ref : Reference, (ctx.store? s.world ref.scope).isSome = true →
        (s.write ctx ref (m.numeral value)).log = s.log ∧
        (Source.variable (k := .measure m) ref default).evaluate ctx (s.write ctx ref (m.numeral value)) =
          (value, s.write ctx ref (m.numeral value))) ∧
      (∀ effect : Effect, (effect.result ctx s).1 = m.numeral value →
        (Source.computed (k := .measure m) effect default).evaluate ctx s = (value, (effect.result ctx s).2)) ∧
      (Source.computed (k := .measure m) (.setText .temp (.literal (m.numeral value))) default).evaluate ctx s =
        (value, s) := by
  refine ⟨Duration.parse_text, ?_⟩
  intro m value hvalue ctx s default
  have hresult : (Effect.setText .temp (.literal (m.numeral value))).result ctx s = (m.numeral value, s) :=
    result_setText_temp _
  refine ⟨?_, ?_, ?_⟩
  · intro ref hscope
    exact ⟨State.log_write hscope _, evaluate_variable_write hvalue hscope default⟩
  · intro effect heffect
    exact evaluate_computed_numeral hvalue heffect default
  · rw [evaluate_computed_numeral hvalue (congrArg Prod.fst hresult), hresult]

/-- The longest duration in a global variable whose default is another, and the smallest integer computed. -/
theorem printed_numbers_read_back_of_ends :
    let longest : Duration := ⟨9223372036854775807⟩
    let smallest : Int32 := -2147483648
    let ctx : Context := ⟨none, none, .missionGoal⟩
    let s : State := ⟨.empty, .scripted [], [], []⟩
    let rest : Reference := ⟨.global, "npctalk_var_rest", none⟩
    ((Source.variable (k := .duration) rest (some .zero)).evaluate ctx (s.write ctx rest "9223372036854775807")).1 =
      longest ∧
    ((Source.computed (k := .integer) (.report (.operand (.constant smallest))) none).evaluate ctx s).1 =
      smallest := by
  intro longest smallest ctx s rest
  have hlongest : Measure.Storable .duration longest := by
    change 0 ≤ longest.turns.toInt
    decide
  have htext : Measure.numeral .duration longest = "9223372036854775807" := by cbv
  obtain ⟨hvariable, -, -⟩ := printed_numbers_read_back.2 .duration longest hlongest ctx s (some .zero)
  obtain ⟨-, hcomputed, -⟩ := printed_numbers_read_back.2 .integer smallest trivial ctx s none
  refine ⟨?_, ?_⟩
  · rw [← htext, (hvariable rest rfl).2]
  · rw [hcomputed (.report (.operand (.constant smallest))) rfl]

end Source

end Parley
