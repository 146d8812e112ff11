import Parley.Proofs.Condition.Keys

/-!
The spellings of keys: one for the primary actor, one for the secondary. Main statement: where a key exists in
both spellings, they ask the same of the one actor and of the other.
-/

set_option autoImplicit false
set_option relaxedAutoImplicit false

namespace Parley

private theorem Slot.other_other (slot : Slot) : slot.other.other = slot := by
  cases slot <;> rfl

namespace Catalog

/-- What a key that combines no conditions asks for: something about its arguments, or a fact. -/
def asked? (key : String) : Option (Slot × (Fact ⊕ Arguments)) :=
  match arguments? key, fact? key with
  | some (slot, arguments), _ => some (slot, .inr arguments)
  | none, some (slot, q) => some (slot, .inl q)
  | none, none => none

theorem arguments?_of_asked? {key : String} {slot : Slot} {arguments : Arguments}
    (h : asked? key = some (slot, .inr arguments)) : arguments? key = some (slot, arguments) := by
  unfold asked? at h
  split at h <;> cases h
  assumption

theorem fact?_of_asked? {key : String} {slot : Slot} {q : Fact} (h : asked? key = some (slot, .inl q)) :
    arguments? key = none ∧ fact? key = some (slot, q) := by
  unfold asked? at h
  split at h <;> cases h
  exact ⟨by assumption, by assumption⟩

theorem takesArguments_of_asked? {key : String} {slot : Slot} {arguments : Arguments}
    (h : asked? key = some (slot, .inr arguments)) : takesArguments key = true := by
  rw [takesArguments, arguments?_of_asked? h]
  rfl

theorem isSimple_of_asked? {key : String} {slot : Slot} {q : Fact} (h : asked? key = some (slot, .inl q)) :
    isSimple key = true := by
  rw [isSimple, (fact?_of_asked? h).2]
  rfl

private theorem asked?_of_arguments? {key : String} {slot : Slot} {arguments : Arguments}
    (h : arguments? key = some (slot, arguments)) : asked? key = some (slot, .inr arguments) := by
  rw [asked?, h]

private theorem asked?_of_fact? {key : String} {slot : Slot} {q : Fact} (h : fact? key = some (slot, q)) :
    asked? key = some (slot, .inl q) := by
  have hsimple : isSimple key = true := by
    rw [isSimple, h]
    rfl
  have harguments := (Bool.or_eq_false_iff.1 (takesArguments_of_isSimple hsimple)).1
  rw [Option.isSome_eq_false_iff, Option.isNone_iff_eq_none] at harguments
  rw [asked?, harguments, h]

private theorem isKey_eq (key : String) :
    isKey key = ((asked? key).isSome || (combinator? key).isSome) := by
  unfold isKey takesArguments isSimple asked?
  cases arguments? key <;> cases fact? key <;> rfl

def respellPrimary? (key : String) : Option String :=
  match key.toList with
  | 'u' :: '_' :: stem => some (String.ofList ('n' :: 'p' :: 'c' :: '_' :: stem))
  | _ => none

def respellSecondary? (key : String) : Option String :=
  match key.toList with
  | 'n' :: 'p' :: 'c' :: '_' :: stem => some (String.ofList ('u' :: '_' :: stem))
  | _ => none

def respell? (key : String) : Option String :=
  (respellPrimary? key).or (respellSecondary? key)

private theorem respellPrimary?_eq_some_iff {key other : String} :
    respellPrimary? key = some other ↔
      ∃ stem, key = String.ofList ('u' :: '_' :: stem) ∧
        other = String.ofList ('n' :: 'p' :: 'c' :: '_' :: stem) := by
  unfold respellPrimary?
  constructor
  · intro h
    split at h <;> cases h
    rename_i stem hkey
    exact ⟨stem, by rw [← hkey, String.ofList_toList], rfl⟩
  · rintro ⟨stem, rfl, rfl⟩
    rw [String.toList_ofList]
    rfl

private theorem respellSecondary?_eq_some_iff {key other : String} :
    respellSecondary? key = some other ↔
      ∃ stem, key = String.ofList ('n' :: 'p' :: 'c' :: '_' :: stem) ∧
        other = String.ofList ('u' :: '_' :: stem) := by
  unfold respellSecondary?
  constructor
  · intro h
    split at h <;> cases h
    rename_i stem hkey
    exact ⟨stem, by rw [← hkey, String.ofList_toList], rfl⟩
  · rintro ⟨stem, rfl, rfl⟩
    rw [String.toList_ofList]
    rfl

private theorem respellSecondary?_iff {key other : String} :
    respellSecondary? key = some other ↔ respellPrimary? other = some key := by
  rw [respellSecondary?_eq_some_iff, respellPrimary?_eq_some_iff]
  exact exists_congr fun stem => and_comm

private theorem respellPrimary?_of_respellSecondary? {key other : String} (h : respellSecondary? key = some other) :
    respellPrimary? key = none := by
  obtain ⟨stem, rfl, -⟩ := respellSecondary?_eq_some_iff.1 h
  rw [respellPrimary?, String.toList_ofList]
  rfl

private theorem respell?_eq_some_iff {key other : String} :
    respell? key = some other ↔
      respellPrimary? key = some other ∨ respellPrimary? other = some key := by
  rw [respell?, Option.or_eq_some_iff, respellSecondary?_iff]
  refine or_congr_right (and_iff_right_of_imp fun hother => ?_)
  exact respellPrimary?_of_respellSecondary? (respellSecondary?_iff.2 hother)

private theorem respell?_symm {key other : String} (h : respell? key = some other) :
    respell? other = some key :=
  respell?_eq_some_iff.2 (respell?_eq_some_iff.1 h).symm

/-- Whether an entry of a table is mirrored in the other spelling of its key, if that is a key. -/
def mirrors {α : Type} [DecidableEq α] (lookup : String → Option (Slot × α)) (e : String × Slot × α) : Bool :=
  match respellPrimary? e.1 with
  | none => true
  | some other =>
    match lookup other with
    | some entry => entry == (e.2.1.other, e.2.2)
    | none => !isKey other

private theorem lookup_of_mirrors {α : Type} [DecidableEq α] {lookup : String → Option (Slot × α)} {key other : String}
    {slot : Slot} {a : α} (h : mirrors lookup (key, slot, a) = true)
    (hspelled : respellPrimary? key = some other) (hother : isKey other = true) :
    lookup other = some (slot.other, a) := by
  simp only [mirrors, hspelled] at h
  split at h
  · rename_i entry hentry
    rw [hentry, eq_of_beq h]
  · rw [hother] at h
    cases h

-- the kernel compares every key for the primary actor, spelled for the other one, with the tables
set_option maxRecDepth 10000 in
private theorem simple_mirrors : simple.all (mirrors fact?) = true := by
  decide +kernel

set_option maxRecDepth 10000 in
private theorem parameterized_mirrors : parameterized.all (mirrors arguments?) = true := by
  decide +kernel

private theorem asked?_of_respellPrimary? {key other : String} {slot : Slot} {asked : Fact ⊕ Arguments}
    (hspelled : respellPrimary? key = some other) (hother : isKey other = true)
    (h : asked? key = some (slot, asked)) : asked? other = some (slot.other, asked) := by
  cases asked with
  | inl q =>
    have hmem := Entries.mem_of_find? (fact?_of_asked? h).2
    exact asked?_of_fact? (lookup_of_mirrors (List.all_eq_true.1 simple_mirrors _ hmem) hspelled hother)
  | inr arguments =>
    have hmem := Entries.mem_of_find? (arguments?_of_asked? h)
    exact asked?_of_arguments?
      (lookup_of_mirrors (List.all_eq_true.1 parameterized_mirrors _ hmem) hspelled hother)

private theorem respell?_of_combinator? {key : String} (h : (combinator? key).isSome = true) :
    respell? key = none := by
  obtain ⟨combinator, hcombinator⟩ := Option.isSome_iff_exists.1 h
  rw [← Named.name_of_ofName? hcombinator]
  cases combinator <;> decide

def twin? (key : String) : Option String :=
  (respell? key).filter fun other => isKey key && isKey other

theorem twin?_eq_some_iff {key other : String} :
    twin? key = some other ↔ respell? key = some other ∧ isKey key = true ∧ isKey other = true := by
  rw [twin?, Option.filter_eq_some_iff, Bool.and_eq_true]

theorem twin?_symm {key other : String} (h : twin? key = some other) : twin? other = some key := by
  obtain ⟨hspelled, hkey, hother⟩ := twin?_eq_some_iff.1 h
  exact twin?_eq_some_iff.2 ⟨respell?_symm hspelled, hother, hkey⟩

theorem combinator?_of_twin? {key other : String} (h : twin? key = some other) : combinator? key = none := by
  rw [← Option.not_isSome_iff_eq_none]
  intro hcombinator
  have hspelled := (twin?_eq_some_iff.1 h).1
  rw [respell?_of_combinator? hcombinator] at hspelled
  cases hspelled

theorem exists_asked_of_twin? {key other : String} (h : twin? key = some other) :
    ∃ slot asked, asked? key = some (slot, asked) := by
  have hkey := (twin?_eq_some_iff.1 h).2.1
  rw [isKey_eq, combinator?_of_twin? h, Option.isSome_none, Bool.or_false] at hkey
  obtain ⟨⟨slot, asked⟩, hasked⟩ := Option.isSome_iff_exists.1 hkey
  exact ⟨slot, asked, hasked⟩

theorem asked?_of_twin? {key other : String} {slot : Slot} {asked : Fact ⊕ Arguments}
    (h : twin? key = some other) (hasked : asked? key = some (slot, asked)) :
    asked? other = some (slot.other, asked) := by
  obtain ⟨hspelled, hkey, hother⟩ := twin?_eq_some_iff.1 h
  rcases respell?_eq_some_iff.1 hspelled with hprimary | hprimary
  · exact asked?_of_respellPrimary? hprimary hother hasked
  · -- the table says so of the other spelling, whose entry is mirrored in the one of the key
    obtain ⟨slot', asked', hasked'⟩ := exists_asked_of_twin? (twin?_symm h)
    have hback := asked?_of_respellPrimary? hprimary hkey hasked'
    rw [hasked, Option.some.injEq, Prod.mk.injEq] at hback
    obtain ⟨rfl, rfl⟩ := hback
    rw [Slot.other_other]
    exact hasked'

/-- The other spelling of a key that exists in both, and any other text itself. -/
def counterpart (key : String) : String :=
  (twin? key).getD key

theorem counterpart_of_twin? {key other : String} (h : twin? key = some other) : counterpart key = other := by
  rw [counterpart, h, Option.getD_some]

theorem counterpart_of_not_twin? {key : String} (h : twin? key = none) : counterpart key = key := by
  rw [counterpart, h, Option.getD_none]

private theorem counterpart_counterpart (key : String) : counterpart (counterpart key) = key := by
  cases h : twin? key with
  | none => rw [counterpart_of_not_twin? h, counterpart_of_not_twin? h]
  | some other => rw [counterpart_of_twin? h, counterpart_of_twin? (twin?_symm h)]

theorem counterpart_injective {key key' : String} (h : counterpart key = counterpart key') : key = key' := by
  rw [← counterpart_counterpart key, h, counterpart_counterpart]

theorem isKey_counterpart (key : String) : isKey (counterpart key) = isKey key := by
  cases h : twin? key with
  | none => rw [counterpart_of_not_twin? h]
  | some other =>
    obtain ⟨-, hkey, hother⟩ := twin?_eq_some_iff.1 h
    rw [counterpart_of_twin? h, hkey, hother]

theorem counterpart_of_not_isKey {key : String} (h : isKey key = false) : counterpart key = key := by
  refine counterpart_of_not_twin? (Option.eq_none_iff_forall_ne_some.2 fun other hother => ?_)
  have hkey := (twin?_eq_some_iff.1 hother).2.1
  rw [h] at hkey
  cases hkey

theorem counterpart_of_combinator? {key : String} (h : (combinator? key).isSome = true) :
    counterpart key = key := by
  refine counterpart_of_not_twin? (Option.eq_none_iff_forall_ne_some.2 fun other hother => ?_)
  rw [combinator?_of_twin? hother] at h
  cases h

end Catalog

end Parley
