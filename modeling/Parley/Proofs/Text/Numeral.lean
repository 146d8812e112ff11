import Parley.Value.Kind

/-!
Decimal numerals are read as the integers that they write. Main statements: a text is read as an integer
exactly if it is a numeral of that integer, within the bounds of the width, and an integer stored as a text is
the one that is read from it.
-/

set_option autoImplicit false
set_option relaxedAutoImplicit false

namespace Parley

namespace Numeral

private theorem digit_bounds {c : Char} (h : c.isDigit = true) : 48 ≤ c.toNat ∧ c.toNat ≤ 57 := by
  simp only [Char.isDigit, Bool.and_eq_true, decide_eq_true_eq] at h
  obtain ⟨hlow, hhigh⟩ := h
  have hlow' := UInt32.le_iff_toNat_le.1 hlow
  have hhigh' := UInt32.le_iff_toNat_le.1 hhigh
  exact ⟨hlow', hhigh'⟩

private theorem digit?_of_isDigit {c : Char} (h : c.isDigit = true) :
    digit? c = some (c.toNat - '0'.toNat) := by
  obtain ⟨hlow, hhigh⟩ := digit_bounds h
  have hle : '0' ≤ c ∧ c ≤ '9' := by
    constructor
    · exact Char.le_def.2 (UInt32.le_iff_toNat_le.2 hlow)
    · exact Char.le_def.2 (UInt32.le_iff_toNat_le.2 hhigh)
  rw [digit?, if_pos hle]

private theorem digit?_eq_some_iff {c : Char} {d : Nat} :
    digit? c = some d ↔ c.isDigit = true ∧ c.toNat - '0'.toNat = d := by
  constructor
  · intro h
    unfold digit? at h
    split at h
    · rename_i hc
      cases h
      have hlow := UInt32.le_iff_toNat_le.1 (Char.le_def.1 hc.1)
      have hhigh := UInt32.le_iff_toNat_le.1 (Char.le_def.1 hc.2)
      refine ⟨?_, rfl⟩
      simp only [Char.isDigit, Bool.and_eq_true, decide_eq_true_eq]
      exact ⟨UInt32.le_iff_toNat_le.2 hlow, UInt32.le_iff_toNat_le.2 hhigh⟩
    · cases h
  · rintro ⟨hdigit, rfl⟩
    exact digit?_of_isDigit hdigit

private theorem le_ofDigitChars (cs : List Char) (n : Nat) : n ≤ Nat.ofDigitChars 10 cs n := by
  induction cs generalizing n with
  | nil => exact Nat.le_of_eq Nat.ofDigitChars_nil.symm
  | cons c rest ih =>
    rw [Nat.ofDigitChars_cons]
    have hrest := ih (10 * n + (c.toNat - '0'.toNat))
    omega

private theorem raise_of_le {hi : Int} {cs : List Char} (hdigits : ∀ c ∈ cs, c.isDigit = true) {n : Nat}
    (h : (Nat.ofDigitChars 10 cs n : Int) ≤ hi) :
    raise hi n cs = .ok (Nat.ofDigitChars 10 cs n : Int) := by
  induction cs generalizing n with
  | nil => rw [raise, Nat.ofDigitChars_nil]
  | cons c rest ih =>
    rw [List.forall_mem_cons] at hdigits
    rw [Nat.ofDigitChars_cons] at h ⊢
    have hnext : (n : Int) * 10 + (c.toNat - '0'.toNat : Nat) =
        (10 * n + (c.toNat - '0'.toNat) : Nat) := by omega
    have hle := le_ofDigitChars rest (10 * n + (c.toNat - '0'.toNat))
    rw [raise, digit?_of_isDigit hdigits.1]
    simp only [hnext]
    rw [if_pos (by omega)]
    exact ih hdigits.2 h

private theorem lower_of_le {lo : Int} {cs : List Char} (hdigits : ∀ c ∈ cs, c.isDigit = true) {n : Nat}
    (h : lo ≤ -(Nat.ofDigitChars 10 cs n : Int)) :
    lower lo (-n) cs = .ok (-(Nat.ofDigitChars 10 cs n : Int)) := by
  induction cs generalizing n with
  | nil => rw [lower, Nat.ofDigitChars_nil]
  | cons c rest ih =>
    rw [List.forall_mem_cons] at hdigits
    rw [Nat.ofDigitChars_cons] at h ⊢
    have hnext : -(n : Int) * 10 - (c.toNat - '0'.toNat : Nat) =
        -((10 * n + (c.toNat - '0'.toNat) : Nat) : Int) := by omega
    have hle := le_ofDigitChars rest (10 * n + (c.toNat - '0'.toNat))
    rw [lower, digit?_of_isDigit hdigits.1]
    simp only [hnext]
    rw [if_pos (by omega)]
    exact ih hdigits.2 h

/-- What is read upwards are digits whose value stays within the bound. -/
theorem eq_of_raise {hi m : Int} {cs : List Char} {n : Nat} (hn : (n : Int) ≤ hi)
    (h : raise hi n cs = .ok m) :
    (∀ c ∈ cs, c.isDigit = true) ∧ m = Nat.ofDigitChars 10 cs n ∧ m ≤ hi := by
  induction cs generalizing n with
  | nil =>
    rw [raise] at h
    cases h
    exact ⟨nofun, by rw [Nat.ofDigitChars_nil], hn⟩
  | cons c rest ih =>
    rw [raise] at h
    cases hdigit : digit? c with
    | none =>
      rw [hdigit] at h
      cases h
    | some d =>
      obtain ⟨hc, rfl⟩ := digit?_eq_some_iff.1 hdigit
      have hnext : (n : Int) * 10 + (c.toNat - '0'.toNat : Nat) =
          (10 * n + (c.toNat - '0'.toNat) : Nat) := by omega
      simp only [hdigit, hnext] at h
      split at h
      · rename_i hle
        obtain ⟨hrest, hm, hmle⟩ := ih hle h
        refine ⟨?_, ?_, hmle⟩
        · rw [List.forall_mem_cons]
          exact ⟨hc, hrest⟩
        · rw [hm, Nat.ofDigitChars_cons]
      · cases h

/-- What is read downwards are digits whose value stays within the bound. -/
theorem eq_of_lower {lo m : Int} {cs : List Char} {n : Nat} (hn : lo ≤ -(n : Int))
    (h : lower lo (-n) cs = .ok m) :
    (∀ c ∈ cs, c.isDigit = true) ∧ m = -(Nat.ofDigitChars 10 cs n : Int) ∧ lo ≤ m := by
  induction cs generalizing n with
  | nil =>
    rw [lower] at h
    cases h
    exact ⟨nofun, by rw [Nat.ofDigitChars_nil], hn⟩
  | cons c rest ih =>
    rw [lower] at h
    cases hdigit : digit? c with
    | none =>
      rw [hdigit] at h
      cases h
    | some d =>
      obtain ⟨hc, rfl⟩ := digit?_eq_some_iff.1 hdigit
      have hnext : -(n : Int) * 10 - (c.toNat - '0'.toNat : Nat) =
          -((10 * n + (c.toNat - '0'.toNat) : Nat) : Int) := by omega
      simp only [hdigit, hnext] at h
      split at h
      · rename_i hle
        obtain ⟨hrest, hm, hmle⟩ := ih hle h
        refine ⟨?_, ?_, hmle⟩
        · rw [List.forall_mem_cons]
          exact ⟨hc, hrest⟩
        · rw [hm, Nat.ofDigitChars_cons]
      · cases h

/-- The texts that write an integer in decimal: digits, with a sign in front or without one. -/
inductive Writes : List Char → Int → Prop
  | plain {digits : List Char} (nonempty : digits ≠ []) (all : ∀ c ∈ digits, c.isDigit = true) :
      Writes digits (Nat.ofDigitChars 10 digits 0)
  | plus {digits : List Char} (nonempty : digits ≠ []) (all : ∀ c ∈ digits, c.isDigit = true) :
      Writes ('+' :: digits) (Nat.ofDigitChars 10 digits 0)
  | minus {digits : List Char} (nonempty : digits ≠ []) (all : ∀ c ∈ digits, c.isDigit = true) :
      Writes ('-' :: digits) (-(Nat.ofDigitChars 10 digits 0 : Nat))

private theorem read_of_isDigit {lo hi : Int} {cs : List Char} (hne : cs ≠ [])
    (hdigits : ∀ c ∈ cs, c.isDigit = true) : read lo hi cs = raise hi 0 cs := by
  obtain ⟨c, rest, rfl⟩ := List.exists_cons_of_ne_nil hne
  have hc := hdigits c List.mem_cons_self
  have hplus : c ≠ '+' := by
    rintro rfl
    cases hc
  have hminus : c ≠ '-' := by
    rintro rfl
    cases hc
  unfold read
  split <;> simp_all

/-- A numeral within the bounds is read as the integer that it writes. -/
theorem read_of_writes {cs : List Char} {lo hi n : Int} (h : Writes cs n) (hlo : lo ≤ n) (hhi : n ≤ hi) :
    read lo hi cs = .ok n := by
  cases h with
  | plain nonempty all =>
    rw [read_of_isDigit nonempty all]
    exact raise_of_le all hhi
  | plus nonempty all =>
    obtain ⟨c, rest, rfl⟩ := List.exists_cons_of_ne_nil nonempty
    exact raise_of_le all hhi
  | minus nonempty all =>
    obtain ⟨c, rest, rfl⟩ := List.exists_cons_of_ne_nil nonempty
    exact lower_of_le all hlo

private theorem int32_of_writes {cs : List Char} {n : Int} (h : Writes cs n) (hlo : -0x80000000 ≤ n)
    (hhi : n ≤ 0x7fffffff) : int32 cs = .ok (Int32.ofInt n) := by
  rw [int32, read_of_writes h hlo hhi, Except.map]

theorem int64_of_writes {cs : List Char} {n : Int} (h : Writes cs n) (hlo : -0x8000000000000000 ≤ n)
    (hhi : n ≤ 0x7fffffffffffffff) : int64 cs = .ok (Int64.ofInt n) := by
  rw [int64, read_of_writes h hlo hhi, Except.map]

/-- A text is read as an integer exactly if it writes one within the bounds. -/
theorem read_eq_ok_iff {lo hi n : Int} {cs : List Char} (hlo : lo ≤ 0) (hhi : 0 ≤ hi) :
    read lo hi cs = .ok n ↔ Writes cs n ∧ lo ≤ n ∧ n ≤ hi := by
  constructor
  · intro h
    unfold read at h
    split at h
    · cases h
    · cases h
    · cases h
    · rename_i digits hplus
      have hne : digits ≠ [] := by rintro rfl; exact hplus rfl
      obtain ⟨hall, rfl, hle⟩ := eq_of_raise (n := 0) hhi h
      exact ⟨.plus hne hall, by omega, hle⟩
    · rename_i digits hminus
      have hne : digits ≠ [] := by rintro rfl; exact hminus rfl
      obtain ⟨hall, rfl, hle⟩ := eq_of_lower (n := 0) (by omega) h
      exact ⟨.minus hne hall, hle, by omega⟩
    · rename_i hempty _ _ _ _
      obtain ⟨hall, rfl, hle⟩ := eq_of_raise (n := 0) hhi h
      exact ⟨.plain hempty hall, by omega, hle⟩
  · rintro ⟨h, hlo, hhi⟩
    exact read_of_writes h hlo hhi

private theorem int32_eq_ok_iff {cs : List Char} {n : Int32} : int32 cs = .ok n ↔ Writes cs n.toInt := by
  have hlo := Int32.le_toInt n
  have hhi := Int32.toInt_lt n
  constructor
  · intro h
    unfold int32 at h
    cases hread : read (-0x80000000) 0x7fffffff cs with
    | error fault =>
      rw [hread] at h
      cases h
    | ok m =>
      rw [hread] at h
      cases h
      obtain ⟨hwrites, hlow, hhigh⟩ := (read_eq_ok_iff (by decide) (by decide)).1 hread
      rwa [Int32.toInt_ofInt_of_le hlow (by omega)]
  · intro h
    rw [int32_of_writes h (by omega) (by omega), Int32.ofInt_toInt]

theorem int64_eq_ok_iff {cs : List Char} {n : Int64} : int64 cs = .ok n ↔ Writes cs n.toInt := by
  have hlo := Int64.le_toInt n
  have hhi := Int64.toInt_lt n
  constructor
  · intro h
    unfold int64 at h
    cases hread : read (-0x8000000000000000) 0x7fffffffffffffff cs with
    | error fault =>
      rw [hread] at h
      cases h
    | ok m =>
      rw [hread] at h
      cases h
      obtain ⟨hwrites, hlow, hhigh⟩ := (read_eq_ok_iff (by decide) (by decide)).1 hread
      rwa [Int64.toInt_ofInt_of_le hlow (by omega)]
  · intro h
    rw [int64_of_writes h (by omega) (by omega), Int64.ofInt_toInt]

theorem Writes.isBlank_of_mem {cs : List Char} {n : Int} (h : Writes cs n) {c : Char} (hc : c ∈ cs) :
    Text.isBlank c = false := by
  have hdigit : ∀ c : Char, c.isDigit = true → Text.isBlank c = false := by
    intro c hc
    obtain ⟨hlow, hhigh⟩ := digit_bounds hc
    simp only [Text.isBlank, Text.blankRanges, List.any_cons, List.any_nil, Bool.or_eq_false_iff,
      Bool.and_eq_false_iff, decide_eq_false_iff_not, and_true]
    omega
  cases h with
  | plain nonempty all => exact hdigit c (all c hc)
  | plus nonempty all =>
    rcases List.mem_cons.1 hc with rfl | hc
    · decide
    · exact hdigit c (all c hc)
  | minus nonempty all =>
    rcases List.mem_cons.1 hc with rfl | hc
    · decide
    · exact hdigit c (all c hc)

theorem writes_chars (n : Int) : Writes (chars n) n := by
  have hvalue (k : Nat) : Nat.ofDigitChars 10 (Nat.toDigits 10 k) 0 = k := Nat.ofDigitChars_ten_toDigits
  have all (k : Nat) : ∀ c ∈ Nat.toDigits 10 k, c.isDigit = true :=
    fun _ hc => Nat.isDigit_of_mem_toDigits (by decide) (by decide) hc
  cases n with
  | ofNat k =>
    have h := Writes.plain Nat.toDigits_ne_nil (all k)
    rw [hvalue] at h
    exact h
  | negSucc k =>
    have h := Writes.minus Nat.toDigits_ne_nil (all (k + 1))
    rw [hvalue] at h
    exact h

theorem text_ne_empty (n : Int) : text n ≠ "" := by
  intro h
  have hchars := congrArg String.toList h
  rw [text, String.toList_ofList] at hchars
  exact chars_ne_nil n hchars

end Numeral

theorem Text.trimChars_of_not_blank {cs : List Char} (h : ∀ c ∈ cs, isBlank c = false) :
    trimChars cs = cs := by
  have hdrop : ∀ ds : List Char, (∀ c ∈ ds, isBlank c = false) → ds.dropWhile isBlank = ds := by
    intro ds hds
    cases ds with
    | nil => rfl
    | cons c rest => rw [List.dropWhile_cons_of_neg (by rw [hds c List.mem_cons_self]; decide)]
  rw [trimChars, hdrop cs h, hdrop cs.reverse, List.reverse_reverse]
  intro c hc
  exact h c (List.mem_reverse.1 hc)

namespace Kind

theorem trimChars_of_writes {s : String} {n : Int} (h : Numeral.Writes s.toList n) :
    Text.trimChars s.toList = s.toList :=
  Text.trimChars_of_not_blank fun _ hc => h.isBlank_of_mem hc

theorem readInteger_of_writes {s : String} {n : Int} (h : Numeral.Writes s.toList n)
    (hlo : -0x80000000 ≤ n) (hhi : n ≤ 0x7fffffff) : readInteger s = .ok (Int32.ofInt n) := by
  rw [readInteger, trimChars_of_writes h, Numeral.int32_of_writes h hlo hhi]
  rfl

theorem readInteger_eq_ok_iff {s : String} {n : Int32} :
    readInteger s = .ok n ↔ Numeral.Writes (Text.trimChars s.toList) n.toInt := by
  rw [← Numeral.int32_eq_ok_iff, readInteger]
  cases Numeral.int32 (Text.trimChars s.toList) with
  | error fault => exact iff_of_false nofun nofun
  | ok m =>
    constructor
    · intro h
      cases h
      rfl
    · intro h
      cases h
      rfl

theorem readInteger_text (n : Int32) : readInteger (Numeral.text n.toInt) = .ok n := by
  have hlo := Int32.le_toInt n
  have hhi := Int32.toInt_lt n
  have hwrites : Numeral.Writes (Numeral.text n.toInt).toList n.toInt := by
    rw [Numeral.text, String.toList_ofList]
    exact Numeral.writes_chars n.toInt
  rw [readInteger_of_writes hwrites (by omega) (by omega), Int32.ofInt_toInt]

end Kind

end Parley
