import Mathlib.Tactic.Ring
import Parley.Uuid

/-!
The written form of identifiers: its digits, the groups that hyphens separate, and what reading makes of
them. Main statement: an identifier is read back from its text.
-/

set_option autoImplicit false
set_option relaxedAutoImplicit false

namespace Parley.Uuid

private theorem length_hexDigits (count n : Nat) : (hexDigits count n).length = count := by
  induction count generalizing n with
  | zero => rfl
  | succ count ih => rw [hexDigits, List.length_append, ih, List.length_singleton]

private theorem hexValue?_digitChar {d : Nat} (h : d < 16) : hexValue? (Nat.digitChar d) = some d := by
  have all : ∀ d < 16, hexValue? (Nat.digitChar d) = some d := by decide
  exact all d h

private theorem hexNumber?_append (total : Nat) (cs ds : List Char) :
    hexNumber? total (cs ++ ds) = (hexNumber? total cs).bind fun n => hexNumber? n ds := by
  induction cs generalizing total with
  | nil => rfl
  | cons c rest ih =>
    rw [List.cons_append, hexNumber?, hexNumber?]
    cases hexValue? c with
    | none => rfl
    | some d => exact ih (total * 16 + d)

private theorem hexNumber?_hexDigits (total count n : Nat) :
    hexNumber? total (hexDigits count n) = some (total * 16 ^ count + n % 16 ^ count) := by
  induction count generalizing n with
  | zero => simp [hexDigits, hexNumber?, Nat.mod_one]
  | succ count ih =>
    have hdigit : hexValue? (Nat.digitChar (n % 16)) = some (n % 16) :=
      hexValue?_digitChar (Nat.mod_lt n (by decide))
    rw [hexDigits, hexNumber?_append, ih]
    simp only [Option.bind_some, hexNumber?, hdigit]
    rw [Nat.pow_succ', Nat.mod_mul]
    congr 1
    ring

private theorem head_hexDigits (count n : Nat) :
    ∃ c rest, hexDigits (count + 1) n = c :: rest ∧ c.toLower ≠ 'u' ∧ c ≠ '\x7b' := by
  induction count generalizing n with
  | zero =>
    have plain : ∀ d < 16, (Nat.digitChar d).toLower ≠ 'u' ∧ Nat.digitChar d ≠ '\x7b' := by decide
    exact ⟨_, [], rfl, plain (n % 16) (Nat.mod_lt n (by decide))⟩
  | succ count ih =>
    obtain ⟨c, rest, hdigits, hplain⟩ := ih (n / 16)
    exact ⟨c, rest ++ [Nat.digitChar (n % 16)], by rw [hexDigits, hdigits]; rfl, hplain⟩

private theorem length_group (n : Nat) (ns : List Nat) (cs : List Char) :
    (group (n :: ns) cs).length = cs.length + ns.length := by
  induction ns generalizing n cs with
  | nil => rfl
  | cons m ns ih =>
    rw [group, List.length_append, List.length_cons, ih, List.length_take, List.length_drop,
      List.length_cons]
    · omega
    · nofun

private theorem ungroup?_group {n : Nat} {ns : List Nat} {cs : List Char} (h : cs.length = (n :: ns).sum) :
    ungroup? (n :: ns) (group (n :: ns) cs) = some cs := by
  induction ns generalizing n cs with
  | nil =>
    have hlength : cs.length = n := by simpa using h
    simp only [group, ungroup?, hlength, if_true]
  | cons m ns ih =>
    rw [List.sum_cons] at h
    have htake : (cs.take n).length = n := by
      rw [List.length_take]
      omega
    have hrest : (cs.drop n).length = (m :: ns).sum := by
      rw [List.length_drop]
      omega
    have hgroup : group (n :: m :: ns) cs = cs.take n ++ '-' :: group (m :: ns) (cs.drop n) := rfl
    have hdrop : (group (n :: m :: ns) cs).drop n = '-' :: group (m :: ns) (cs.drop n) := by
      rw [hgroup, List.drop_left' htake]
    have hhead : (group (n :: m :: ns) cs).take n = cs.take n := by
      rw [hgroup, List.take_left' htake]
    simp only [ungroup?, hdrop, hhead, ih hrest, Option.map_some, List.take_append_drop]

private theorem group_cons {n : Nat} (ns : List Nat) (c : Char) (cs : List Char) (h : 0 < n) :
    ∃ rest, group (n :: ns) (c :: cs) = c :: rest := by
  obtain ⟨k, rfl⟩ : ∃ k, n = k + 1 := ⟨n - 1, by omega⟩
  cases ns with
  | nil => exact ⟨cs, rfl⟩
  | cons m ns => exact ⟨_, rfl⟩

private theorem unwrap_of_plain {c : Char} (rest : List Char) (hletter : c.toLower ≠ 'u')
    (hbrace : c ≠ '\x7b') : unwrap (c :: rest) = c :: rest := by
  have hname : ((c :: rest).take resourceName.length).map Char.toLower ≠ resourceName := by
    intro heq
    exact hletter (List.cons.inj heq).1
  rw [unwrap, if_neg hname]
  intro others heq
  exact hbrace (List.cons.inj heq).1

/-- An identifier is read back from its text. -/
theorem read?_text (u : Uuid) : read? u.text = some u := by
  have hlength : (hexDigits 32 u.bits.toNat).length = groupLengths.sum := length_hexDigits 32 _
  have hungroup : ungroup? groupLengths (group groupLengths (hexDigits 32 u.bits.toNat)) =
      some (hexDigits 32 u.bits.toNat) := ungroup?_group hlength
  have hunwrap : unwrap (group groupLengths (hexDigits 32 u.bits.toNat)) =
      group groupLengths (hexDigits 32 u.bits.toNat) := by
    obtain ⟨c, rest, hdigits, hletter, hbrace⟩ := head_hexDigits 31 u.bits.toNat
    obtain ⟨others, hgroup⟩ := group_cons [4, 4, 4, 12] c rest (n := 8) (by decide)
    rw [hdigits, show group groupLengths (c :: rest) = c :: others from hgroup]
    exact unwrap_of_plain others hletter hbrace
  have hlong : (group groupLengths (hexDigits 32 u.bits.toNat)).length ≠ 32 := by
    have hgroup := length_group 8 [4, 4, 4, 12] (hexDigits 32 u.bits.toNat)
    rw [length_hexDigits] at hgroup
    rw [groupLengths, hgroup]
    decide
  have hvalue : 0 * 16 ^ 32 + u.bits.toNat % 16 ^ 32 = u.bits.toNat := by
    have := u.bits.isLt
    omega
  rw [read?, text, String.toList_ofList, if_neg hlong, hunwrap, hungroup]
  simp only [Option.bind_eq_bind, Option.bind_some, hexNumber?_hexDigits, hvalue]
  rw [ofNat, BitVec.ofNat_toNat, BitVec.setWidth_eq]
  rfl

end Parley.Uuid
