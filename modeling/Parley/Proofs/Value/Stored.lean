import Parley.Proofs.Text.Numeral

/-!
The texts that stored values are read from. Main statements: what is left of a text without the white space at its
ends is a numeral exactly if the text is a numeral between white space; a text is read as a value of a kind exactly
if it is a text of that value.
-/

set_option autoImplicit false
set_option relaxedAutoImplicit false

namespace Parley

namespace Text

variable {cs before body after : List Char}

private theorem dropWhile_isBlank_append (hbefore : ∀ c ∈ before, isBlank c = true) :
    (before ++ cs).dropWhile isBlank = cs.dropWhile isBlank := by
  induction before with
  | nil => rfl
  | cons c rest ih =>
    rw [List.forall_mem_cons] at hbefore
    rw [List.cons_append, List.dropWhile_cons_of_pos hbefore.1]
    exact ih hbefore.2

/-- What stands between white space is left, if it has none itself. -/
theorem trimChars_append (hbefore : ∀ c ∈ before, isBlank c = true) (hbody : ∀ c ∈ body, isBlank c = false)
    (hafter : ∀ c ∈ after, isBlank c = true) : trimChars (before ++ body ++ after) = body := by
  have hreversed : ∀ c ∈ after.reverse, isBlank c = true := fun c hc => hafter c (List.mem_reverse.1 hc)
  cases body with
  | nil =>
    have hall : (before ++ after).dropWhile isBlank = [] := by
      have hdrop : (before ++ after ++ []).dropWhile isBlank = [] :=
        dropWhile_isBlank_append (List.forall_mem_append.2 ⟨hbefore, hafter⟩)
      rwa [List.append_nil] at hdrop
    rw [List.append_nil, trimChars, hall]
    rfl
  | cons c rest =>
    have hfirst : isBlank c ≠ true := by
      rw [hbody c List.mem_cons_self]
      decide
    have hfront : (before ++ (c :: rest) ++ after).dropWhile isBlank = (c :: rest) ++ after := by
      rw [List.append_assoc, dropWhile_isBlank_append hbefore, List.cons_append, List.dropWhile_cons_of_neg hfirst]
    have hback := trimChars_of_not_blank hbody
    rw [trimChars, List.dropWhile_cons_of_neg hfirst] at hback
    rw [trimChars, hfront, List.reverse_append, dropWhile_isBlank_append hreversed]
    exact hback

private theorem exists_eq_append_trimChars (cs : List Char) :
    ∃ before after, cs = before ++ trimChars cs ++ after ∧ (∀ c ∈ before, isBlank c = true) ∧
      ∀ c ∈ after, isBlank c = true := by
  have hblank : ∀ ds : List Char, ∀ c ∈ ds.takeWhile isBlank, isBlank c = true :=
    fun ds => List.all_eq_true.1 List.all_takeWhile
  refine ⟨cs.takeWhile isBlank, ((cs.dropWhile isBlank).reverse.takeWhile isBlank).reverse, ?_, hblank cs, ?_⟩
  · have hback : trimChars cs ++ ((cs.dropWhile isBlank).reverse.takeWhile isBlank).reverse =
        cs.dropWhile isBlank := by
      rw [trimChars, ← List.reverse_append, List.takeWhile_append_dropWhile, List.reverse_reverse]
    rw [List.append_assoc, hback, List.takeWhile_append_dropWhile]
  · intro c hc
    exact hblank _ c (List.mem_reverse.1 hc)

end Text

namespace Numeral

/-- A text that is a numeral of an integer within some bounds, white space before and after it aside. -/
def IsText (lo hi : Int) (s : String) (n : Int) : Prop :=
  (∃ before body after, s.toList = before ++ body ++ after ∧ (∀ c ∈ before, Text.isBlank c = true) ∧
    (∀ c ∈ after, Text.isBlank c = true) ∧ Writes body n) ∧ lo ≤ n ∧ n ≤ hi

theorem isText_iff {lo hi n : Int} {s : String} :
    IsText lo hi s n ↔ Writes (Text.trimChars s.toList) n ∧ lo ≤ n ∧ n ≤ hi := by
  refine and_congr_left fun _ => ?_
  constructor
  · rintro ⟨before, body, after, htext, hbefore, hafter, hwrites⟩
    have hbody : ∀ c ∈ body, Text.isBlank c = false := fun c hc => hwrites.isBlank_of_mem hc
    rw [htext, Text.trimChars_append hbefore hbody hafter]
    exact hwrites
  · intro hwrites
    obtain ⟨before, after, htext, hbefore, hafter⟩ := Text.exists_eq_append_trimChars s.toList
    exact ⟨before, _, after, htext, hbefore, hafter, hwrites⟩

end Numeral

namespace Kind

variable {k : Kind} {s : String}

/-- The texts of a value: of a text itself, of an integer its numerals, of a duration the numerals of its turns,
which are not negative. -/
def IsText : (k : Kind) → String → k.Value → Prop
  | .text, s, value => s = value
  | .integer, s, n => Numeral.IsText (-0x80000000) 0x7fffffff s n.toInt
  | .duration, s, d => Numeral.IsText 0 0x7fffffffffffffff s d.turns.toInt

/-- A text reads as a duration exactly if it writes a number of turns that is not negative, white space at the ends
aside. -/
theorem readDuration_eq_ok_iff {d : Duration} :
    readDuration s = .ok d ↔ Numeral.Writes (Text.trimChars s.toList) d.turns.toInt ∧ 0 ≤ d.turns.toInt := by
  have hsign (turns : Int64) : turns < 0 ↔ turns.toInt < 0 := Int64.lt_iff_toInt_lt
  rw [← Numeral.int64_eq_ok_iff, readDuration]
  cases hturns : Numeral.int64 (Text.trimChars s.toList) with
  | error fault => exact iff_of_false nofun fun h => nomatch h.1
  | ok turns =>
    by_cases hneg : turns < 0
    · refine iff_of_false ?_ ?_
      · simp [hneg]
      · rintro ⟨⟨⟩, hpos⟩
        rw [hsign] at hneg
        omega
    · have hpos : 0 ≤ turns.toInt := by
        rw [hsign] at hneg
        omega
      simp only [hneg, if_false, Except.ok.injEq]
      constructor
      · rintro rfl
        exact ⟨rfl, hpos⟩
      · rintro ⟨rfl, -⟩
        rfl

theorem read_eq_ok_iff {value : k.Value} : k.read s = .ok value ↔ k.IsText s value := by
  match k, value with
  | .text, value =>
    change (Except.ok s : Except Fault String) = .ok value ↔ s = value
    rw [Except.ok.injEq]
  | .integer, n =>
    have hlo := Int32.le_toInt n
    have hhi := Int32.toInt_lt n
    have hbounds : -0x80000000 ≤ n.toInt ∧ n.toInt ≤ 0x7fffffff := by omega
    change readInteger s = .ok n ↔ Numeral.IsText _ _ s n.toInt
    rw [readInteger_eq_ok_iff, Numeral.isText_iff]
    exact ⟨fun h => ⟨h, hbounds⟩, fun h => h.1⟩
  | .duration, d =>
    have hhi := Int64.toInt_lt d.turns
    change readDuration s = .ok d ↔ Numeral.IsText _ _ s d.turns.toInt
    rw [readDuration_eq_ok_iff, Numeral.isText_iff]
    exact and_congr_right fun _ => ⟨fun h => ⟨h, by omega⟩, fun h => h.1⟩

theorem read_eq_error_iff : (∃ fault, k.read s = .error fault) ↔ ∀ value, ¬k.IsText s value := by
  constructor
  · rintro ⟨fault, h⟩ value htext
    rw [read_eq_ok_iff.2 htext] at h
    cases h
  · intro hnone
    cases h : k.read s with
    | error fault => exact ⟨fault, rfl⟩
    | ok value => exact absurd (read_eq_ok_iff.1 h) (hnone value)

end Kind

end Parley
