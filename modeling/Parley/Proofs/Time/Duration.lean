import Mathlib.Algebra.Ring.Int.Defs
import Mathlib.Data.List.Forall2
import Mathlib.Data.List.Infix
import Mathlib.Data.List.TakeWhile
import Parley.Proofs.Text.Numeral
import Parley.Time.Duration

/-!
The written form of durations. The words of a text are taken from left to right as items: an amount with its
unit in one word, an amount with the next word as its unit, or an amount alone, which is in turns. Main
statement: a text is read as the sum of its items, each product and each running sum being within 64 bits, and
otherwise the fault is that of the first item that does not fit.
-/

set_option autoImplicit false
set_option relaxedAutoImplicit false

namespace Parley

/-- The words are the parts between single blanks that are not empty. -/
theorem Text.words_eq_filter_splitOnP (cs : List Char) :
    words cs = (cs.splitOnP isBlank).filter (· ≠ []) := by
  have hspans : ∀ cs : List Char, ∃ later, cs.splitOnP isBlank = (spans cs).1 :: later ∧
      (spans cs).2 = later.filter (· ≠ []) := by
    intro cs
    induction cs with
    | nil => exact ⟨[], List.splitOnP_nil, rfl⟩
    | cons c rest ih =>
      obtain ⟨later, hsplit, hlater⟩ := ih
      rw [List.splitOnP_cons_eq_if_modifyHead, hsplit]
      by_cases hc : isBlank c = true
      · refine ⟨(spans rest).1 :: later, ?_, ?_⟩
        · simp [spans, hc]
        · by_cases hword : (spans rest).1 = []
          · simp [spans, hc, hword, hlater]
          · simp [spans, hc, hword, hlater]
      · exact ⟨later, by simp [spans, hc], by simp [spans, hc, hlater]⟩
  obtain ⟨later, hsplit, hlater⟩ := hspans cs
  rw [hsplit, words]
  by_cases hword : (spans cs).1 = []
  · simp [hword, hlater]
  · simp [hword, hlater]

namespace Duration

/-- An amount and its unit, if it has one, as they are written. -/
structure Item where
  amount : List Char
  unit : Option (List Char)

/-- A word without a letter past its first character. -/
def IsAmount (word : List Char) : Prop :=
  ∃ first rest, word = first :: rest ∧ ∀ c ∈ rest, c.isAlpha = false

/-- The items that words are, from left to right. -/
inductive Items : List (List Char) → List Item → Prop
  | nil : Items [] []
  /-- As in "30m": the unit starts at the first letter past the first character. -/
  | joined {word amount unit : List Char} {letter : Char} {words : List (List Char)} {items : List Item}
      (word_eq : word = amount ++ letter :: unit) (is_amount : IsAmount amount)
      (is_letter : letter.isAlpha = true) (tail : Items words items) :
      Items (word :: words) (⟨amount, some (letter :: unit)⟩ :: items)
  /-- As in "30 m": the next word has letters only. -/
  | spaced {word unit : List Char} {words : List (List Char)} {items : List Item}
      (is_amount : IsAmount word) (letters : ∀ c ∈ unit, c.isAlpha = true) (tail : Items words items) :
      Items (word :: unit :: words) (⟨word, some unit⟩ :: items)
  /-- As in "30": there is no next word, or it is no unit. (A word of letters only is no amount, so to take it as
  a unit loses no reading.) -/
  | alone {word : List Char} {words : List (List Char)} {items : List Item} (is_amount : IsAmount word)
      (no_unit : ∀ next, words.head? = some next → ∃ c ∈ next, c.isAlpha = false)
      (tail : Items words items) :
      Items (word :: words) (⟨word, none⟩ :: items)

/-- The names of units, and the turns in one of each. -/
def unitLengths : List (String × Int) :=
  [("t", 1), ("turn", 1), ("turns", 1), ("s", 1), ("second", 1), ("seconds", 1),
    ("m", 60), ("minute", 60), ("minutes", 60), ("h", 3600), ("hour", 3600), ("hours", 3600),
    ("d", 86400), ("day", 86400), ("days", 86400)]

def Fits (n : Int) : Prop :=
  -0x8000000000000000 ≤ n ∧ n < 0x8000000000000000

instance (n : Int) : Decidable (Fits n) :=
  inferInstanceAs (Decidable (_ ∧ _))

/-- The turns in the unit of an item, one if it has none. -/
def Item.Length (item : Item) (length : Int) : Prop :=
  match item.unit with
  | none => length = 1
  | some name => (String.ofList name, length) ∈ unitLengths

/-- The turns that an item stands for, an amount of its unit. -/
def Item.Means (item : Item) (turns : Int) : Prop :=
  ∃ n length, Numeral.Writes item.amount n ∧ Fits n ∧ item.Length length ∧ turns = n * length

/-- Turns that can be added to a total from left to right, each of them and each running sum being within
64 bits. -/
def AddUp (total : Int) (turns : List Int) : Prop :=
  (∀ n ∈ turns, Fits n) ∧ ∀ front, front <+: turns → Fits (total + front.sum)

instance (total : Int) (turns : List Int) : Decidable (AddUp total turns) :=
  decidable_of_iff ((∀ n ∈ turns, Fits n) ∧ ∀ front ∈ turns.inits, Fits (total + front.sum)) (by
    simp only [AddUp, List.mem_inits])

/-- What is wrong with an item that is to be added to a total: the amount is looked at first, then the unit,
then the range, for which the whole text is quoted. -/
inductive Item.Fails (item : Item) (whole : String) (total : Int) : Fault → Prop
  | amount (unreadable : ∀ n, Numeral.Writes item.amount n → ¬Fits n) :
      Item.Fails item whole total (.amount (String.ofList item.amount))
  | unit {n : Int} {name : List Char} (writes : Numeral.Writes item.amount n) (fits : Fits n)
      (unit_eq : item.unit = some name) (unknown : ∀ length, (String.ofList name, length) ∉ unitLengths) :
      Item.Fails item whole total (.unit (String.ofList name))
  | range {turns : Int} (means : item.Means turns) (exceeds : ¬(Fits turns ∧ Fits (total + turns))) :
      Item.Fails item whole total (.range whole)

theorem isLetter_eq_isAlpha (c : Char) : isLetter c = c.isAlpha := by
  have hlower : (decide ('a' ≤ c) && decide (c ≤ 'z')) = c.isLower := rfl
  have hupper : (decide ('A' ≤ c) && decide (c ≤ 'Z')) = c.isUpper := (Bool.decide_and ..).symm
  have halpha : c.isAlpha = (c.isUpper || c.isLower) := rfl
  rw [isLetter, hlower, hupper, halpha, Bool.or_comm]

private theorem splitWord_of_letter {amount unit : List Char} {letter : Char} (h : IsAmount amount)
    (hletter : letter.isAlpha = true) :
    splitWord (amount ++ letter :: unit) = (amount, letter :: unit) := by
  obtain ⟨first, rest, rfl, hrest⟩ := h
  have hfront : ∀ c ∈ rest, (!isLetter c) = true := by
    intro c hc
    rw [isLetter_eq_isAlpha, hrest c hc]
    rfl
  have hstop : (!isLetter letter) = false := by
    rw [isLetter_eq_isAlpha, hletter]
    rfl
  rw [List.cons_append, splitWord, List.takeWhile_append_of_pos hfront,
    List.dropWhile_append_of_pos hfront, List.takeWhile_cons, List.dropWhile_cons, hstop]
  simp

private theorem splitWord_of_isAmount {word : List Char} (h : IsAmount word) : splitWord word = (word, []) := by
  obtain ⟨first, rest, rfl, hrest⟩ := h
  have hall : ∀ c ∈ rest, (!isLetter c) = true := by
    intro c hc
    rw [isLetter_eq_isAlpha, hrest c hc]
    rfl
  rw [splitWord, List.takeWhile_eq_self_iff.2 hall, List.dropWhile_eq_nil_iff.2 hall]

/-- A word is an amount, or an amount and a unit. -/
theorem isAmount_or_splits {word : List Char} (h : word ≠ []) :
    IsAmount word ∨ ∃ amount letter unit, word = amount ++ letter :: unit ∧ IsAmount amount ∧
      letter.isAlpha = true := by
  obtain ⟨first, rest, rfl⟩ := List.exists_cons_of_ne_nil h
  have hfront : IsAmount (first :: rest.takeWhile (!Char.isAlpha ·)) := by
    refine ⟨first, _, rfl, ?_⟩
    intro c hc
    simpa using List.mem_takeWhile_imp hc
  have hsplit : rest.takeWhile (!Char.isAlpha ·) ++ rest.dropWhile (!Char.isAlpha ·) = rest :=
    List.takeWhile_append_dropWhile
  cases hdrop : rest.dropWhile (!Char.isAlpha ·) with
  | nil =>
    rw [hdrop, List.append_nil] at hsplit
    rw [hsplit] at hfront
    exact .inl hfront
  | cons letter unit =>
    have hletter : letter.isAlpha = true := by
      have hhead := List.head?_dropWhile_not (!Char.isAlpha ·) rest
      rw [hdrop] at hhead
      simpa using hhead
    refine .inr ⟨_, letter, unit, ?_, hfront, hletter⟩
    rw [List.cons_append, ← hdrop, hsplit]

private theorem exists_items {words : List (List Char)} (h : ∀ word ∈ words, word ≠ []) :
    (∃ items, Items words items) ∧ ∃ items, Items words.tail items := by
  induction words with
  | nil => exact ⟨⟨[], .nil⟩, [], .nil⟩
  | cons word rest ih =>
    rw [List.forall_mem_cons] at h
    obtain ⟨⟨items, hitems⟩, later, hlater⟩ := ih h.2
    refine ⟨?_, items, hitems⟩
    rcases isAmount_or_splits h.1 with hamount | ⟨amount, letter, unit, hword, hamount, hletter⟩
    · by_cases hunit : ∀ next, rest.head? = some next → ∃ c ∈ next, c.isAlpha = false
      · exact ⟨_, .alone hamount hunit hitems⟩
      · -- the next word is the unit, so the items go on after it
        push Not at hunit
        obtain ⟨unit, hhead, hunit⟩ := hunit
        obtain ⟨others, rfl⟩ := List.head?_eq_some_iff.1 hhead
        exact ⟨_, .spaced hamount (by simpa using hunit) hlater⟩
    · exact ⟨_, .joined hword hamount hletter hitems⟩

def addAll (whole : String) (total : Int64) (items : List Item) : Except Fault Int64 :=
  items.foldlM (fun total item => addItem whole total item.amount item.unit) total

private theorem addAll_cons {whole : String} {total : Int64} {item : Item} {items : List Item} :
    addAll whole total (item :: items) =
      addItem whole total item.amount item.unit >>= fun total => addAll whole total items :=
  List.foldlM_cons

section

variable {whole : String} {words : List (List Char)} {word amount unit : List Char} {total : Int64}

private theorem addItems_of_joined {letter : Char} (h : splitWord word = (amount, letter :: unit)) :
    addItems whole total (word :: words) =
      addItem whole total amount (some (letter :: unit)) >>= fun total => addItems whole total words := by
  cases words with
  | nil =>
    simp only [addItems, h]
    cases addItem whole total amount (some (letter :: unit)) <;> rfl
  | cons next rest =>
    simp only [addItems, h]
    cases addItem whole total amount (some (letter :: unit)) <;> rfl

private theorem addItems_of_spaced (h : splitWord word = (word, [])) (hunit : unit.all isLetter = true) :
    addItems whole total (word :: unit :: words) =
      addItem whole total word (some unit) >>= fun total => addItems whole total words := by
  simp only [addItems, h, hunit]
  cases addItem whole total word (some unit) <;> rfl

private theorem addItems_of_alone (h : splitWord word = (word, []))
    (hnext : ∀ next, words.head? = some next → next.all isLetter = false) :
    addItems whole total (word :: words) =
      addItem whole total word none >>= fun total => addItems whole total words := by
  cases words with
  | nil =>
    simp only [addItems, h]
    cases addItem whole total word none <;> rfl
  | cons next rest =>
    simp only [addItems, h, hnext next rfl]
    cases addItem whole total word none <;> rfl

/-- Words are added up as the items that they are. -/
theorem addItems_eq_addAll {items : List Item} (h : Items words items) :
    addItems whole total words = addAll whole total items := by
  induction h generalizing total with
  | nil => rfl
  | joined word_eq is_amount is_letter tail ih =>
    rw [word_eq, addItems_of_joined (splitWord_of_letter is_amount is_letter), addAll_cons]
    simp only [ih]
  | spaced is_amount letters tail ih =>
    rw [addItems_of_spaced (splitWord_of_isAmount is_amount), addAll_cons]
    · simp only [ih]
    · rw [List.all_eq_true]
      intro c hc
      rw [isLetter_eq_isAlpha, letters c hc]
  | alone is_amount no_unit tail ih =>
    rw [addItems_of_alone (splitWord_of_isAmount is_amount), addAll_cons]
    · simp only [ih]
    · intro next hnext
      obtain ⟨c, hc, hletter⟩ := no_unit next hnext
      rw [List.all_eq_false]
      exact ⟨c, hc, by rw [isLetter_eq_isAlpha, hletter]; decide⟩

end

private theorem exists_unit_iff {name : String} {length : Int} :
    (∃ u, Unit.ofName? name = some u ∧ u.turns = length) ↔ (name, length) ∈ unitLengths := by
  unfold Unit.ofName?
  split
  all_goals simp_all [unitLengths, Unit.turns, turnsPerMinute, turnsPerHour, turnsPerDay, eq_comm]

theorem toInt_of_fits {n : Int} (h : Fits n) : (Int64.ofInt n).toInt = n :=
  Int64.toInt_ofInt_of_le h.1 h.2

theorem fits_toInt (n : Int64) : Fits n.toInt :=
  ⟨n.le_toInt, n.toInt_lt⟩

theorem int64?_of_fits {n : Int} (h : Fits n) : Narrow.int64? n = some (Int64.ofInt n) :=
  if_pos h

theorem int64?_of_not_fits {n : Int} (h : ¬Fits n) : Narrow.int64? n = none :=
  if_neg h

private theorem int64?_bind_of_fits {turns : Int} (h : Fits turns) (total : Int) :
    ((Narrow.int64? turns).bind fun p => Narrow.int64? (total + p.toInt)) =
      Narrow.int64? (total + turns) := by
  rw [int64?_of_fits h, Option.bind_some, toInt_of_fits h]

section

variable {item : Item} {whole : String} {total : Int64}

def Item.unit? (item : Item) : Option Unit :=
  item.unit.elim (some .turn) fun name => Unit.ofName? (String.ofList name)

private theorem Item.exists_unit?_iff {length : Int} :
    (∃ u, item.unit? = some u ∧ u.turns = length) ↔ item.Length length := by
  obtain ⟨amount, _ | name⟩ := item
  · simp [unit?, Length, Unit.turns, eq_comm]
  · exact exists_unit_iff

private theorem addItem_of_unreadable (h : ∀ n, Numeral.Writes item.amount n → ¬Fits n) :
    addItem whole total item.amount item.unit = .error (.amount (String.ofList item.amount)) := by
  unfold addItem
  cases hamount : Numeral.int64 item.amount with
  | error _ => rfl
  | ok n => exact absurd (fits_toInt n) (h _ (Numeral.int64_eq_ok_iff.1 hamount))

private theorem addItem_of_writes {n : Int} (hwrites : Numeral.Writes item.amount n) (hfits : Fits n) :
    addItem whole total item.amount item.unit =
      match item.unit? with
      | none => .error (.unit (String.ofList (item.unit.getD [])))
      | some u =>
        match (Narrow.int64? (n * u.turns)).bind fun p => Narrow.int64? (total.toInt + p.toInt) with
        | none => .error (.range whole)
        | some sum => .ok sum := by
  have hamount : Numeral.int64 item.amount = .ok (Int64.ofInt n) := by
    rw [Numeral.int64_eq_ok_iff, toInt_of_fits hfits]
    exact hwrites
  unfold addItem
  rw [hamount]
  simp only [toInt_of_fits hfits]
  rfl

private theorem addItem_of_means {turns : Int} (h : item.Means turns) :
    addItem whole total item.amount item.unit =
      if Fits turns ∧ Fits (total.toInt + turns) then .ok (Int64.ofInt (total.toInt + turns))
      else .error (.range whole) := by
  obtain ⟨n, length, hwrites, hfits, hlength, rfl⟩ := h
  obtain ⟨u, hunit, rfl⟩ := Item.exists_unit?_iff.2 hlength
  rw [addItem_of_writes hwrites hfits, hunit]
  by_cases hproduct : Fits (n * u.turns)
  · simp only [int64?_bind_of_fits hproduct]
    by_cases hsum : Fits (total.toInt + n * u.turns)
    · simp only [int64?_of_fits hsum, hproduct, hsum, and_self, if_true]
    · simp only [int64?_of_not_fits hsum, hsum, and_false, if_false]
  · simp only [int64?_of_not_fits hproduct, Option.bind_none, hproduct, false_and, if_false]

private theorem addItem_of_fails {fault : Fault} (h : item.Fails whole total.toInt fault) :
    addItem whole total item.amount item.unit = .error fault := by
  cases h with
  | amount unreadable => exact addItem_of_unreadable unreadable
  | @unit n name writes fits unit_eq unknown =>
    have hnone : item.unit? = none := by
      cases hunit : item.unit? with
      | none => rfl
      | some u =>
        have hlength := Item.exists_unit?_iff.1 ⟨u, hunit, rfl⟩
        rw [Item.Length, unit_eq] at hlength
        exact absurd hlength (unknown _)
    rw [addItem_of_writes writes fits, hnone, unit_eq]
    rfl
  | range means exceeds => rw [addItem_of_means means, if_neg exceeds]

private theorem Item.means_or_fails (item : Item) (whole : String) (total : Int) :
    (∃ turns, item.Means turns) ∨ ∃ fault, item.Fails whole total fault := by
  by_cases hamount : ∃ n, Numeral.Writes item.amount n ∧ Fits n
  · obtain ⟨n, hwrites, hfits⟩ := hamount
    by_cases hlength : ∃ length, item.Length length
    · obtain ⟨length, hlength⟩ := hlength
      exact .inl ⟨n * length, n, length, hwrites, hfits, hlength, rfl⟩
    · obtain ⟨amount, _ | name⟩ := item
      · exact absurd ⟨1, rfl⟩ hlength
      · exact .inr ⟨_, .unit hwrites hfits rfl fun length hmem => hlength ⟨length, hmem⟩⟩
  · refine .inr ⟨_, .amount fun n hwrites hfits => hamount ⟨n, hwrites, hfits⟩⟩

private theorem addItem_eq_ok_iff {sum : Int64} : addItem whole total item.amount item.unit = .ok sum ↔
    ∃ turns, item.Means turns ∧ Fits turns ∧ sum.toInt = total.toInt + turns := by
  constructor
  · intro h
    rcases item.means_or_fails whole total.toInt with ⟨turns, hmeans⟩ | ⟨fault, hfails⟩
    · rw [addItem_of_means hmeans] at h
      split at h
      · rename_i hfits
        cases h
        exact ⟨turns, hmeans, hfits.1, toInt_of_fits hfits.2⟩
      · cases h
    · rw [addItem_of_fails hfails] at h
      cases h
  · rintro ⟨turns, hmeans, hfits, hsum⟩
    have hfits' : Fits (total.toInt + turns) := by
      rw [← hsum]
      exact fits_toInt sum
    rw [addItem_of_means hmeans, if_pos ⟨hfits, hfits'⟩, ← hsum, Int64.ofInt_toInt]

private theorem addItem_eq_error_iff {fault : Fault} :
    addItem whole total item.amount item.unit = .error fault ↔ item.Fails whole total.toInt fault := by
  constructor
  · intro h
    rcases item.means_or_fails whole total.toInt with ⟨turns, hmeans⟩ | ⟨other, hfails⟩
    · rw [addItem_of_means hmeans] at h
      split at h
      · cases h
      · rename_i hexceeds
        cases h
        exact .range hmeans hexceeds
    · rw [addItem_of_fails hfails] at h
      cases h
      exact hfails
  · exact addItem_of_fails

end

theorem addUp_nil_iff {total : Int} : AddUp total [] ↔ Fits total := by
  simp [AddUp]

private theorem AddUp.total {total : Int} {turns : List Int} (h : AddUp total turns) : Fits total := by
  simpa using h.2 [] List.nil_prefix

theorem addUp_cons_iff {total n : Int} {turns : List Int} :
    AddUp total (n :: turns) ↔ Fits total ∧ Fits n ∧ AddUp (total + n) turns := by
  unfold AddUp
  simp only [List.forall_mem_cons, List.prefix_cons_iff]
  constructor
  · rintro ⟨⟨hn, hturns⟩, hfront⟩
    refine ⟨?_, hn, hturns, ?_⟩
    · simpa using hfront [] (.inl rfl)
    · intro front hfront'
      have h := hfront (n :: front) (.inr ⟨front, rfl, hfront'⟩)
      rwa [List.sum_cons, ← Int.add_assoc] at h
  · rintro ⟨htotal, hn, hturns, hfront⟩
    refine ⟨⟨hn, hturns⟩, ?_⟩
    rintro _ (rfl | ⟨front, rfl, hfront'⟩)
    · simpa using htotal
    · rw [List.sum_cons, ← Int.add_assoc]
      exact hfront front hfront'

section

variable {item : Item} {items : List Item} {whole : String} {total : Int64}

/-- Items are added up to their sum, if they can be. -/
theorem addAll_eq_ok_iff {sum : Int64} : addAll whole total items = .ok sum ↔
    ∃ turns, List.Forall₂ Item.Means items turns ∧ AddUp total.toInt turns ∧
      sum.toInt = total.toInt + turns.sum := by
  induction items generalizing total with
  | nil =>
    constructor
    · intro h
      cases h
      exact ⟨[], .nil, addUp_nil_iff.2 (fits_toInt _), by simp⟩
    · rintro ⟨turns, hmeans, -, hsum⟩
      cases hmeans
      have heq : total = sum := by simpa [Int64.toInt_inj, eq_comm] using hsum
      rw [heq]
      rfl
  | cons item rest ih =>
    rw [addAll_cons]
    constructor
    · intro h
      cases hitem : addItem whole total item.amount item.unit with
      | error fault =>
        rw [hitem] at h
        cases h
      | ok next =>
        rw [hitem] at h
        obtain ⟨n, hn, hfits, hnext⟩ := addItem_eq_ok_iff.1 hitem
        obtain ⟨turns, hturns, hadd, hsum⟩ := ih.1 h
        rw [hnext] at hadd hsum
        refine ⟨n :: turns, .cons hn hturns, addUp_cons_iff.2 ⟨fits_toInt total, hfits, hadd⟩, ?_⟩
        rw [hsum, List.sum_cons, Int.add_assoc]
    · rintro ⟨_, hmeans, hadd, hsum⟩
      obtain ⟨n, turns, hn, hturns, rfl⟩ := List.forall₂_cons_left_iff.1 hmeans
      obtain ⟨-, hfits, hadd⟩ := addUp_cons_iff.1 hadd
      have hnext : (Int64.ofInt (total.toInt + n)).toInt = total.toInt + n := toInt_of_fits hadd.total
      have hitem : addItem whole total item.amount item.unit = .ok (Int64.ofInt (total.toInt + n)) :=
        addItem_eq_ok_iff.2 ⟨n, hn, hfits, hnext⟩
      rw [hitem]
      refine ih.2 ⟨turns, hturns, ?_, ?_⟩
      · rw [hnext]
        exact hadd
      · rw [hnext, hsum, List.sum_cons, Int.add_assoc]

/-- Items cannot be added up because of the first of them that cannot be added to the sum of those before. -/
theorem addAll_eq_error_iff {fault : Fault} : addAll whole total items = .error fault ↔
    ∃ before item after turns, items = before ++ item :: after ∧
      List.Forall₂ Item.Means before turns ∧ AddUp total.toInt turns ∧
      item.Fails whole (total.toInt + turns.sum) fault := by
  constructor
  · intro h
    induction items generalizing total with
    | nil => cases h
    | cons item rest ih =>
      rw [addAll_cons] at h
      cases hitem : addItem whole total item.amount item.unit with
      | error other =>
        rw [hitem] at h
        cases h
        refine ⟨[], item, rest, [], rfl, .nil, addUp_nil_iff.2 (fits_toInt total), ?_⟩
        rw [List.sum_nil, Int.add_zero]
        exact addItem_eq_error_iff.1 hitem
      | ok next =>
        rw [hitem] at h
        obtain ⟨n, hn, hfits, hnext⟩ := addItem_eq_ok_iff.1 hitem
        obtain ⟨before, failing, after, turns, rfl, hturns, hadd, hfails⟩ := ih h
        rw [hnext] at hadd hfails
        refine ⟨item :: before, failing, after, n :: turns, rfl, .cons hn hturns,
          addUp_cons_iff.2 ⟨fits_toInt total, hfits, hadd⟩, ?_⟩
        rw [List.sum_cons, ← Int.add_assoc]
        exact hfails
  · rintro ⟨before, failing, after, turns, rfl, hturns, hadd, hfails⟩
    have hsum : (Int64.ofInt (total.toInt + turns.sum)).toInt = total.toInt + turns.sum :=
      toInt_of_fits (hadd.2 turns (List.prefix_refl turns))
    have hbefore : addAll whole total before = .ok (Int64.ofInt (total.toInt + turns.sum)) :=
      addAll_eq_ok_iff.2 ⟨turns, hturns, hadd, hsum⟩
    rw [← hsum] at hfails
    have hfailing := addItem_of_fails hfails
    change List.foldlM _ _ _ = _ at hbefore
    rw [addAll, List.foldlM_append, hbefore]
    change addAll whole _ (failing :: after) = _
    rw [addAll_cons, hfailing]
    rfl

end

private theorem parse_of_items {s : String} {items : List Item} (h : Items (Text.words s.toList) items) :
    items = [] ∧ parse s = .error .empty ∨
      items ≠ [] ∧ parse s = (addAll (Text.trim s) 0 items).map Duration.mk := by
  rw [parse, ← addItems_eq_addAll h]
  generalize Text.words s.toList = words at h
  cases h with
  | nil => exact .inl ⟨rfl, rfl⟩
  | joined | spaced | alone => exact .inr ⟨nofun, rfl⟩

/-- The words of every text are items. It is read as a duration if there is an item and all of them stand for
turns that add up from nothing, and then as their sum. Otherwise the fault is that there is no item, or what is
wrong with the first item that cannot be added to the sum of those before it. -/
theorem parse_reads_items (s : String) :
    (∃ items, Items ((s.toList.splitOnP Text.isBlank).filter (· ≠ [])) items) ∧
    ∀ items, Items ((s.toList.splitOnP Text.isBlank).filter (· ≠ [])) items →
      (∀ d, parse s = .ok d ↔ items ≠ [] ∧
        ∃ turns, List.Forall₂ Item.Means items turns ∧ AddUp 0 turns ∧ d.turns.toInt = turns.sum) ∧
      ∀ fault, parse s = .error fault ↔ items = [] ∧ fault = .empty ∨
        ∃ before item after turns, items = before ++ item :: after ∧
          List.Forall₂ Item.Means before turns ∧ AddUp 0 turns ∧
          item.Fails (Text.trim s) turns.sum fault := by
  rw [← Text.words_eq_filter_splitOnP]
  refine ⟨(exists_items fun _ => Text.ne_nil_of_mem_words).1, ?_⟩
  intro items hitems
  rcases parse_of_items hitems with ⟨rfl, hparse⟩ | ⟨hne, hparse⟩
  · rw [hparse]
    simp [eq_comm]
  · rw [hparse]
    have hok := @addAll_eq_ok_iff items (Text.trim s) 0
    have herror := @addAll_eq_error_iff items (Text.trim s) 0
    simp only [Int64.toInt_zero, Int.zero_add] at hok herror
    refine ⟨?_, ?_⟩
    · rintro ⟨n⟩
      simp only [← hok, hne, ne_eq, not_false_eq_true, true_and]
      cases addAll (Text.trim s) 0 items <;> simp [Except.map]
    · intro fault
      simp only [← herror, hne, false_and, false_or]
      cases addAll (Text.trim s) 0 items <;> simp [Except.map]

example : parse " 9223372036854775807 1t x" = .error (.range "9223372036854775807 1t x") := rfl

/-- Amounts with a unit after them, beside them and without one are added up. Of two items that fail the first
is reported, though its words could be read as an amount alone and another item. -/
theorem parse_reads_items_of_hours :
    Items (("2 h 15m\u00a030".toList.splitOnP Text.isBlank).filter (· ≠ []))
        [⟨['2'], some ['h']⟩, ⟨['1', '5'], some ['m']⟩, ⟨['3', '0'], none⟩] ∧
      parse "2 h 15m\u00a030" = .ok ⟨8130⟩ ∧
      Items (("1d 5 weeks x".toList.splitOnP Text.isBlank).filter (· ≠ []))
        [⟨['1'], some ['d']⟩, ⟨['5'], some "weeks".toList⟩, ⟨['x'], none⟩] ∧
      parse "1d 5 weeks x" = .error (.unit "weeks") := by
  have hmeans {amount : List Char} {unit : Option (List Char)} (n length : Int)
      (hamount : Numeral.chars n = amount) (hfits : Fits n) (hlength : Item.Length ⟨amount, unit⟩ length) :
      Item.Means ⟨amount, unit⟩ (n * length) :=
    ⟨n, length, hamount ▸ Numeral.writes_chars n, hfits, hlength, rfl⟩
  have hours : Items (("2 h 15m\u00a030".toList.splitOnP Text.isBlank).filter (· ≠ []))
      [⟨['2'], some ['h']⟩, ⟨['1', '5'], some ['m']⟩, ⟨['3', '0'], none⟩] := by
    rw [show ("2 h 15m\u00a030".toList.splitOnP Text.isBlank).filter (· ≠ []) =
      [['2'], ['h'], ['1', '5'] ++ 'm' :: [], ['3', '0']] by decide]
    refine .spaced ⟨'2', [], rfl, nofun⟩ (List.forall_mem_singleton.2 rfl) ?_
    refine .joined rfl ⟨'1', ['5'], rfl, List.forall_mem_singleton.2 rfl⟩ (by decide) ?_
    exact .alone ⟨'3', ['0'], rfl, List.forall_mem_singleton.2 rfl⟩ nofun .nil
  have weeks : Items (("1d 5 weeks x".toList.splitOnP Text.isBlank).filter (· ≠ []))
      [⟨['1'], some ['d']⟩, ⟨['5'], some "weeks".toList⟩, ⟨['x'], none⟩] := by
    rw [show ("1d 5 weeks x".toList.splitOnP Text.isBlank).filter (· ≠ []) =
      [['1'] ++ 'd' :: [], ['5'], "weeks".toList, ['x']] by decide]
    refine .joined rfl ⟨'1', [], rfl, nofun⟩ (by decide) ?_
    refine .spaced ⟨'5', [], rfl, nofun⟩ (List.all_eq_true.1 (by decide)) ?_
    exact .alone ⟨'x', [], rfl, nofun⟩ nofun .nil
  refine ⟨hours, ?_, weeks, ?_⟩
  · have hturns : List.Forall₂ Item.Means
        [⟨['2'], some ['h']⟩, ⟨['1', '5'], some ['m']⟩, ⟨['3', '0'], none⟩] [7200, 900, 30] := by
      refine .cons (hmeans 2 3600 rfl (by decide) ?_) (.cons (hmeans 15 60 rfl (by decide) ?_)
        (.cons (hmeans 30 1 rfl (by decide) rfl) .nil))
      · simp [Item.Length, unitLengths]
      · simp [Item.Length, unitLengths]
    exact (((parse_reads_items _).2 _ hours).1 _).2 ⟨nofun, _, hturns, by decide, rfl⟩
  · have hturns : List.Forall₂ Item.Means [⟨['1'], some ['d']⟩] [86400] :=
      .cons (hmeans 1 86400 rfl (by decide) (by simp [Item.Length, unitLengths])) .nil
    refine (((parse_reads_items _).2 _ weeks).2 _).2
      (.inr ⟨_, _, _, _, rfl, hturns, by decide, ?_⟩)
    exact .unit (Numeral.writes_chars 5) (by decide) rfl (by simp [unitLengths])

end Duration

end Parley
