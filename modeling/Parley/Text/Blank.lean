/-!
White space in text: the Unicode property White_Space, trimming by it and splitting into words.
-/

set_option autoImplicit false
set_option relaxedAutoImplicit false

namespace Parley.Text

def blankRanges : List (Nat × Nat) :=
  [(0x09, 0x0d), (0x20, 0x20), (0x85, 0x85), (0xa0, 0xa0), (0x1680, 0x1680), (0x2000, 0x200a),
    (0x2028, 0x2029), (0x202f, 0x202f), (0x205f, 0x205f), (0x3000, 0x3000)]

def isBlank (c : Char) : Bool :=
  blankRanges.any fun r => r.1 ≤ c.toNat && c.toNat ≤ r.2

def trimChars (cs : List Char) : List Char :=
  ((cs.dropWhile isBlank).reverse.dropWhile isBlank).reverse

def trim (s : String) : String :=
  String.ofList (trimChars s.toList)

/-- The word that starts at the front, empty if a blank stands there, and the words after it. -/
def spans : List Char → List Char × List (List Char)
  | [] => ([], [])
  | c :: rest =>
    let (word, later) := spans rest
    if isBlank c then ([], if word.isEmpty then later else word :: later)
    else (c :: word, later)

/-- The maximal runs of characters that are not white space, in order. -/
def words (cs : List Char) : List (List Char) :=
  let (word, later) := spans cs
  if word.isEmpty then later else word :: later

/-- No word is empty. -/
theorem ne_nil_of_mem_words {cs w : List Char} (h : w ∈ words cs) : w ≠ [] := by
  have later : ∀ cs : List Char, ∀ w ∈ (spans cs).2, w ≠ [] := by
    intro cs
    induction cs with
    | nil => simp [spans]
    | cons c rest ih =>
      intro w hw
      simp only [spans] at hw
      split at hw
      · split at hw
        · exact ih w hw
        · rcases List.mem_cons.1 hw with rfl | hw
          · simp_all
          · exact ih w hw
      · exact ih w hw
  simp only [words] at h
  split at h
  · exact later cs w h
  · rcases List.mem_cons.1 h with rfl | h
    · simp_all
    · exact later cs w h

end Parley.Text
