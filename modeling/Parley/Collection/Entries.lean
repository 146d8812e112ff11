/-!
Association lists kept in increasing order of their keys: lookup, insertion and erasure. Main
statements: what a lookup finds after each operation, and that a sorted list is determined by its
lookups.
-/

set_option autoImplicit false
set_option relaxedAutoImplicit false

namespace Parley.Entries

variable {κ ν μ : Type}

def find? [DecidableEq κ] (k : κ) : List (κ × ν) → Option ν
  | [] => none
  | (k', v) :: rest => if k' = k then some v else find? k rest

/-- Puts a value under a key, before the first larger key, in place of an equal one. -/
def insert [Ord κ] (k : κ) (v : ν) : List (κ × ν) → List (κ × ν)
  | [] => [(k, v)]
  | (k', v') :: rest =>
    match compare k k' with
    | .lt => (k, v) :: (k', v') :: rest
    | .eq => (k, v) :: rest
    | .gt => (k', v') :: insert k v rest

def erase [DecidableEq κ] (k : κ) (es : List (κ × ν)) : List (κ × ν) :=
  es.filter fun e => e.1 ≠ k

def modify [DecidableEq κ] (k : κ) (f : ν → ν) (es : List (κ × ν)) : List (κ × ν) :=
  es.map fun e => if e.1 = k then (e.1, f e.2) else e

def Sorted [Ord κ] (es : List (κ × ν)) : Prop :=
  es.Pairwise fun a b => compare a.1 b.1 = .lt

/-- The entries of a list, each inserted after the ones before it, so that a later one wins. -/
def ofList [Ord κ] (es : List (κ × ν)) : List (κ × ν) :=
  es.foldl (fun acc e => insert e.1 e.2 acc) []

theorem mem_of_find? [DecidableEq κ] {k : κ} {v : ν} {es : List (κ × ν)}
    (h : find? k es = some v) : (k, v) ∈ es := by
  induction es with
  | nil => simp [find?] at h
  | cons e rest ih =>
    obtain ⟨k', v'⟩ := e
    simp only [find?] at h
    split at h
    · simp_all
    · exact List.mem_cons_of_mem _ (ih h)

theorem find?_eq_none_iff [DecidableEq κ] {k : κ} {es : List (κ × ν)} :
    find? k es = none ↔ k ∉ es.map Prod.fst := by
  induction es with
  | nil => simp [find?]
  | cons e rest ih =>
    obtain ⟨k', v'⟩ := e
    simp only [find?, List.map_cons, List.mem_cons, not_or]
    split
    · simp_all
    · rename_i hne
      rw [ih]
      exact ⟨fun h => ⟨fun he => hne he.symm, h⟩, fun h => h.2⟩

theorem find?_insert [Ord κ] [Std.LawfulEqOrd κ] [DecidableEq κ] (k k' : κ) (v : ν) (es : List (κ × ν)) :
    find? k (insert k' v es) = if k' = k then some v else find? k es := by
  induction es with
  | nil => rfl
  | cons e rest ih =>
    obtain ⟨k₀, v₀⟩ := e
    simp only [insert]
    split
    · rfl
    · rename_i h
      cases Std.LawfulEqOrd.eq_of_compare h
      simp only [find?]
      split <;> rfl
    · rename_i h
      have hne : k' ≠ k₀ := by
        rintro rfl
        simp at h
      simp only [find?, ih]
      split
      · rename_i h₀
        cases h₀
        rw [if_neg hne]
      · rfl

theorem find?_erase [DecidableEq κ] (k k' : κ) (es : List (κ × ν)) :
    find? k (erase k' es) = if k' = k then none else find? k es := by
  induction es with
  | nil => simp [erase, find?]
  | cons e rest ih =>
    obtain ⟨k₀, v₀⟩ := e
    unfold erase at ih ⊢
    simp only [List.filter_cons, find?]
    by_cases h₀ : k₀ = k'
    · subst h₀
      simp only [ne_eq, not_true_eq_false, decide_false, Bool.false_eq_true, if_false, ih]
      split <;> rfl
    · simp only [ne_eq, h₀, not_false_eq_true, decide_true, if_true, find?, ih]
      by_cases hk : k' = k
      · subst hk
        simp [h₀]
      · simp [hk]

theorem find?_modify [DecidableEq κ] (k k' : κ) (f : ν → ν) (es : List (κ × ν)) :
    find? k (modify k' f es) = if k' = k then (find? k es).map f else find? k es := by
  induction es with
  | nil => simp [modify, find?]
  | cons e rest ih =>
    obtain ⟨k₀, v₀⟩ := e
    unfold modify at ih ⊢
    simp only [List.map_cons]
    by_cases h₀ : k₀ = k'
    · subst h₀
      simp only [if_true, find?, ih]
      split <;> simp
    · simp only [h₀, if_false, find?, ih]
      by_cases hk : k' = k
      · subst hk
        simp [h₀]
      · simp [hk]

theorem keys_modify [DecidableEq κ] (k : κ) (f : ν → ν) (es : List (κ × ν)) :
    (modify k f es).map Prod.fst = es.map Prod.fst := by
  simp only [modify, List.map_map]
  refine List.map_congr_left fun e _ => ?_
  simp only [Function.comp]
  split <;> rfl

private theorem mem_insert [Ord κ] {k : κ} {v : ν} {e : κ × ν} {es : List (κ × ν)} (h : e ∈ insert k v es) :
    e = (k, v) ∨ e ∈ es := by
  induction es with
  | nil => simpa [insert] using h
  | cons x rest ih =>
    obtain ⟨k₀, v₀⟩ := x
    simp only [insert] at h
    split at h
    · simpa using h
    · rcases List.mem_cons.1 h with h | h
      · exact .inl h
      · exact .inr (List.mem_cons_of_mem _ h)
    · rcases List.mem_cons.1 h with h | h
      · exact .inr (h ▸ List.mem_cons_self)
      · exact (ih h).imp_right (List.mem_cons_of_mem _)

theorem Sorted.insert [Ord κ] [Std.TransOrd κ] [Std.LawfulEqOrd κ] {es : List (κ × ν)}
    (h : Sorted es) (k : κ) (v : ν) :
    Sorted (Entries.insert k v es) := by
  induction es with
  | nil => simp [Entries.insert, Sorted]
  | cons x rest ih =>
    obtain ⟨k₀, v₀⟩ := x
    obtain ⟨hlt, hrest⟩ := List.pairwise_cons.1 h
    simp only [Entries.insert]
    split
    · rename_i hc
      refine List.pairwise_cons.2 ⟨fun e he => ?_, h⟩
      rcases List.mem_cons.1 he with rfl | he
      · exact hc
      · exact Std.TransCmp.lt_trans hc (hlt e he)
    · rename_i hc
      cases Std.LawfulEqOrd.eq_of_compare hc
      exact List.pairwise_cons.2 ⟨hlt, hrest⟩
    · rename_i hc
      refine List.pairwise_cons.2 ⟨fun e he => ?_, ih hrest⟩
      rcases mem_insert he with rfl | he
      · exact Std.OrientedCmp.lt_of_gt hc
      · exact hlt e he

theorem Sorted.erase [Ord κ] [DecidableEq κ] {es : List (κ × ν)} (h : Sorted es) (k : κ) :
    Sorted (Entries.erase k es) :=
  h.filter _

theorem Sorted.modify [Ord κ] [DecidableEq κ] {es : List (κ × ν)} (h : Sorted es) (k : κ) (f : ν → ν) :
    Sorted (Entries.modify k f es) := by
  unfold Sorted Entries.modify
  rw [List.pairwise_map]
  refine h.imp fun {a b} hab => ?_
  split <;> split <;> exact hab

theorem sorted_ofList [Ord κ] [Std.TransOrd κ] [Std.LawfulEqOrd κ] (es : List (κ × ν)) : Sorted (ofList es) := by
  have go : ∀ (es acc : List (κ × ν)), Sorted acc →
      Sorted (es.foldl (fun acc e => insert e.1 e.2 acc) acc) := by
    intro es
    induction es with
    | nil => exact fun _ h => h
    | cons e rest ih => exact fun acc h => ih _ (h.insert e.1 e.2)
  exact go es [] List.Pairwise.nil

private theorem find?_eq_none_of_lt [Ord κ] [Std.LawfulEqOrd κ] [DecidableEq κ] {k : κ} {es : List (κ × ν)}
    (h : ∀ e ∈ es, compare k e.1 = .lt) : find? k es = none := by
  rw [find?_eq_none_iff]
  intro hk
  obtain ⟨e, he, rfl⟩ := List.mem_map.1 hk
  have := h e he
  simp at this

/-- A sorted list is determined by its lookups. -/
theorem Sorted.ext [Ord κ] [Std.TransOrd κ] [Std.LawfulEqOrd κ] [DecidableEq κ]
    {es fs : List (κ × ν)} (he : Sorted es) (hf : Sorted fs)
    (h : ∀ k, find? k es = find? k fs) : es = fs := by
  induction es generalizing fs with
  | nil =>
    cases fs with
    | nil => rfl
    | cons f rest =>
      have := h f.1
      simp [find?] at this
  | cons e rest ih =>
    cases fs with
    | nil =>
      have := h e.1
      simp [find?] at this
    | cons f others =>
      obtain ⟨helt, hes⟩ := List.pairwise_cons.1 he
      obtain ⟨hflt, hfs⟩ := List.pairwise_cons.1 hf
      obtain ⟨k, v⟩ := e
      obtain ⟨k', v'⟩ := f
      have hk : k = k' := by
        have h₁ := h k
        have h₂ := h k'
        simp only [find?, if_true] at h₁ h₂
        by_cases hkk : k = k'
        · exact hkk
        · rw [if_neg (Ne.symm hkk)] at h₁
          rw [if_neg hkk] at h₂
          have m₁ := hflt _ (mem_of_find? h₁.symm)
          have m₂ := helt _ (mem_of_find? h₂)
          have := Std.TransCmp.lt_trans m₁ m₂
          simp at this
      subst hk
      have hv : v = v' := by simpa [find?] using h k
      subst hv
      congr 1
      refine ih hes hfs fun q => ?_
      have hq := h q
      simp only [find?] at hq
      by_cases hkq : k = q
      · subst hkq
        rw [find?_eq_none_of_lt helt, find?_eq_none_of_lt hflt]
      · simpa [hkq] using hq

section Lookup

variable [DecidableEq κ]

theorem find?_map {f : κ → κ} (hf : ∀ {a b}, f a = f b → a = b) (g : κ → ν → μ) (k : κ)
    (es : List (κ × ν)) :
    find? (f k) (es.map fun e => (f e.1, g e.1 e.2)) = (find? k es).map (g k) := by
  induction es with
  | nil => rfl
  | cons e rest ih =>
    obtain ⟨k', v⟩ := e
    simp only [List.map_cons, find?, ih]
    by_cases h : k' = k
    · subst h
      simp only [if_true, Option.map_some]
    · rw [if_neg h, if_neg fun he => h (hf he)]

theorem find?_of_mem {k : κ} {v : ν} {es : List (κ × ν)} (hdistinct : (es.map Prod.fst).Nodup)
    (h : (k, v) ∈ es) : find? k es = some v := by
  induction es with
  | nil => cases h
  | cons e rest ih =>
    obtain ⟨k', v'⟩ := e
    obtain ⟨hfresh, hrest⟩ := List.nodup_cons.1 hdistinct
    rw [find?]
    rcases List.mem_cons.1 h with heq | hmem
    · cases heq
      rw [if_pos rfl]
    · have hne : k' ≠ k := by
        rintro rfl
        exact hfresh (List.mem_map.2 ⟨_, hmem, rfl⟩)
      rw [if_neg hne, ih hrest hmem]

theorem find?_eq_of_perm {es fs : List (κ × ν)} (h : es.Perm fs) (hdistinct : (es.map Prod.fst).Nodup)
    (k : κ) : find? k es = find? k fs := by
  cases hfind : find? k es with
  | some v =>
    have hdistinct' := (h.map Prod.fst).nodup_iff.1 hdistinct
    rw [find?_of_mem hdistinct' (h.mem_iff.1 (mem_of_find? hfind))]
  | none =>
    rw [find?_eq_none_iff] at hfind
    rw [eq_comm, find?_eq_none_iff, ← (h.map Prod.fst).mem_iff]
    exact hfind

end Lookup

variable [Ord κ]

theorem Sorted.nodup [Std.ReflOrd κ] {es : List (κ × ν)} (h : Sorted es) : (es.map Prod.fst).Nodup := by
  refine List.pairwise_map.2 (h.imp fun hlt heq => ?_)
  rw [heq, Std.ReflOrd.compare_self] at hlt
  cases hlt

variable [Std.LawfulEqOrd κ]

private theorem insert_perm {k : κ} {es : List (κ × ν)} (h : k ∉ es.map Prod.fst) (v : ν) :
    (insert k v es).Perm ((k, v) :: es) := by
  induction es with
  | nil => exact .refl _
  | cons e rest ih =>
    obtain ⟨k', v'⟩ := e
    rw [List.map_cons, List.mem_cons, not_or] at h
    rw [insert]
    split
    · exact .refl _
    · rename_i heq
      exact absurd (Std.LawfulEqOrd.eq_of_compare heq) h.1
    · exact ((ih h.2).cons _).trans (.swap _ _ _)

theorem ofList_perm {es : List (κ × ν)} (h : (es.map Prod.fst).Nodup) : (ofList es).Perm es := by
  have go (es acc : List (κ × ν)) (h : ((acc ++ es).map Prod.fst).Nodup) :
      (es.foldl (fun acc e => insert e.1 e.2 acc) acc).Perm (acc ++ es) := by
    induction es generalizing acc with
    | nil =>
      rw [List.append_nil]
      exact .refl _
    | cons e rest ih =>
      have hmiddle : (acc ++ e :: rest).Perm (e :: (acc ++ rest)) := List.perm_middle
      obtain ⟨hfresh, -⟩ := List.nodup_cons.1 ((hmiddle.map Prod.fst).nodup_iff.1 h)
      have hinsert : (insert e.1 e.2 acc).Perm (e :: acc) := by
        refine insert_perm (fun hmem => hfresh ?_) e.2
        rw [List.map_append]
        exact List.mem_append_left _ hmem
      have hnext : (insert e.1 e.2 acc ++ rest).Perm (acc ++ e :: rest) :=
        (hinsert.append_right rest).trans hmiddle.symm
      exact (ih _ (((hnext.map Prod.fst).nodup_iff).2 h)).trans hnext
  exact go es [] h

end Parley.Entries
