import Parley.Proofs.Text.Numeral
import Parley.Proofs.Value.WellFormed

/-!
Arithmetic as content writes it. Main statement: an array is accepted exactly if it has one of six shapes, and
what it is compiled to follows the shape.
-/

set_option autoImplicit false
set_option relaxedAutoImplicit false

namespace Parley

namespace Effect

variable {json : Json} {items : List Json} {effect : Effect}

def signs : List (String × Operator) :=
  [("+", .add), ("-", .subtract), ("*", .multiply), ("/", .divide), ("%", .modulo)]

/-- The variables that arithmetic can write: the first member for a scope holds the name, and the default, if there
is one, is the text or the number of an integer of 32 bits. -/
inductive IsTarget : Json → Reference → Prop
  | object {ms : Json.Members} {scope : Scope} {name : String} {default : Option String}
      (scope_eq : ["u_val", "npc_val", "global_val", "faction_val", "party_val"].find? ms.has =
        some scope.member)
      (name_eq : ms.get? scope.member = some (.string name))
      (default_written : Reference.DefaultWritten ms default)
      (default_integer : ∀ text, default = some text →
        ∃ n : Int32, Numeral.Writes (Text.trimChars text.toList) n.toInt) :
      IsTarget (.object ms) ⟨scope, "npctalk_var_" ++ name, default⟩

/-- The shapes of arithmetic, and what each is compiled to. -/
inductive Shape : List Json → Effect → Prop
  | alone {a : Json} {v : Operand} (a_eq : Operand.load a "arithmetic" = .ok v) :
      Shape [a] (.report (.operand v))
  | binary {a b : Json} {l r : Operand} {sign : String} {op : Operator}
      (a_eq : Operand.load a "arithmetic" = .ok l) (sign_mem : (sign, op) ∈ signs)
      (b_eq : Operand.load b "arithmetic" = .ok r) :
      Shape [a, .string sign, b] (.report (.binary op l r))
  | assign {target a : Json} {ref : Reference} {v : Operand} (target_is : IsTarget target ref)
      (a_eq : Operand.load a "arithmetic" = .ok v) :
      Shape [target, .string "=", a] (.assign ref (.operand v))
  | assignBinary {target a b : Json} {ref : Reference} {l r : Operand} {sign : String} {op : Operator}
      (target_is : IsTarget target ref) (a_eq : Operand.load a "arithmetic" = .ok l)
      (sign_mem : (sign, op) ∈ signs) (b_eq : Operand.load b "arithmetic" = .ok r) :
      Shape [target, .string "=", a, .string sign, b] (.assign ref (.binary op l r))
  | increment {target : Json} {ref : Reference} (target_is : IsTarget target ref) :
      Shape [target, .string "++"] (.assign ref (.binary .add (.variable ref) (.constant 1)))
  | decrement {target : Json} {ref : Reference} (target_is : IsTarget target ref) :
      Shape [target, .string "--"] (.assign ref (.binary .add (.variable ref) (.constant (-1))))

private theorem isAssign_eq_true_iff : isAssign json = true ↔ json = .string "=" := by
  constructor
  · intro h
    unfold isAssign at h
    split at h
    · rfl
    · cases h
  · rintro rfl
    rfl

theorem isAssign_string_eq_false {sign : String} (h : sign ≠ "=") : isAssign (.string sign) = false := by
  rw [Bool.eq_false_iff, ne_eq, isAssign_eq_true_iff, Json.string.injEq]
  exact h

theorem loadOperator_eq_ok_iff {op : Operator} :
    loadOperator json = .ok op ↔ ∃ sign, json = .string sign ∧ (sign, op) ∈ signs := by
  have hparse : ∀ sign, Operator.parse sign = .ok op ↔ (sign, op) ∈ signs := by
    intro sign
    unfold Operator.parse
    split <;> simp_all [signs, eq_comm]
  cases json with
  | string sign =>
    rw [loadOperator, hparse]
    simp
  | null | bool _ | number _ | array _ | object _ => simp [loadOperator]

theorem ne_assign_of_mem_signs {sign : String} {op : Operator} (h : (sign, op) ∈ signs) : sign ≠ "=" := by
  rintro rfl
  simp [signs] at h

private theorem loadStep_eq_ok_iff {delta : Int32} :
    loadStep json = .ok delta ↔ json = .string "++" ∧ delta = 1 ∨ json = .string "--" ∧ delta = -1 := by
  unfold loadStep
  split <;> simp_all [eq_comm]

/-- A target is a reference that is written as an object and whose default reads as an integer. -/
theorem loadTarget_eq_ok_iff_load {ref : Reference} : loadTarget json = .ok ref ↔
    ∃ ms, json = .object ms ∧ Reference.load ms false = .ok ref ∧ ref.DefaultsToInteger := by
  constructor
  · intro h
    obtain ⟨ms, hobject, h⟩ := Loaded.bind_eq_ok_iff.1 h
    obtain ⟨loaded, hload, h⟩ := Loaded.bind_eq_ok_iff.1 h
    refine ⟨ms, Json.asObject_eq_ok_iff.1 hobject, ?_⟩
    split at h
    · rename_i hnone
      cases h
      refine ⟨hload, ?_⟩
      intro text htext
      rw [hnone] at htext
      cases htext
    · rename_i default hsome
      split at h
      · rename_i n hread
        cases h
        refine ⟨hload, ?_⟩
        intro text htext
        rw [hsome] at htext
        cases htext
        exact ⟨n, hread⟩
      · cases h
  · rintro ⟨ms, rfl, hload, hinteger⟩
    refine Loaded.bind_eq_ok_iff.2 ⟨ms, rfl, Loaded.bind_eq_ok_iff.2 ⟨ref, hload, ?_⟩⟩
    cases hdefault : ref.default with
    | none => rfl
    | some default =>
      obtain ⟨n, hread⟩ := hinteger default hdefault
      simp only [hread]
      rfl

theorem loadTarget_eq_ok_iff {ref : Reference} : loadTarget json = .ok ref ↔ IsTarget json ref := by
  rw [loadTarget_eq_ok_iff_load]
  constructor
  · rintro ⟨ms, rfl, hload, hinteger⟩
    obtain ⟨name, hscope, hget, hname, hdefault, -⟩ := Reference.load_eq_ok_iff.1 hload
    obtain ⟨scope, _, default⟩ := ref
    obtain rfl := hname
    refine .object (Scope.find?_eq_some_iff.1 hscope) hget hdefault ?_
    intro text htext
    obtain ⟨n, hread⟩ := hinteger text htext
    exact ⟨n, Kind.readInteger_eq_ok_iff.1 hread⟩
  · rintro ⟨scope_eq, name_eq, default_written, default_integer⟩
    refine ⟨_, rfl, Reference.load_eq_ok_iff.2 ⟨_, Scope.find?_eq_some_iff.2 scope_eq, name_eq, rfl,
      default_written, nofun⟩, ?_⟩
    intro text htext
    obtain ⟨n, hn⟩ := default_integer text htext
    exact ⟨n, Kind.readInteger_eq_ok_iff.2 hn⟩

theorem shape_of_arithmetic (h : arithmetic items = .ok effect) : Shape items effect := by
  rw [arithmetic.eq_def] at h
  split at h
  · obtain ⟨v, ha, rfl⟩ := Loaded.map_eq_ok_iff.1 h
    exact .alone ha
  · split at h
    · cases h
    · split at h
      · cases h
      · rename_i htarget
        obtain ⟨delta, hdelta, rfl⟩ := Loaded.map_eq_ok_iff.1 h
        rcases loadStep_eq_ok_iff.1 hdelta with ⟨rfl, rfl⟩ | ⟨rfl, rfl⟩
        · exact .increment (loadTarget_eq_ok_iff.1 htarget)
        · exact .decrement (loadTarget_eq_ok_iff.1 htarget)
  · split at h
    · rename_i hassign
      obtain rfl := isAssign_eq_true_iff.1 hassign
      split at h
      · cases h
      · rename_i htarget
        obtain ⟨v, ha, rfl⟩ := Loaded.map_eq_ok_iff.1 h
        exact .assign (loadTarget_eq_ok_iff.1 htarget) ha
    · split at h
      · cases h
      · rename_i hop
        obtain ⟨sign, rfl, hsign⟩ := loadOperator_eq_ok_iff.1 hop
        split at h
        · cases h
        · rename_i ha
          obtain ⟨r, hb, rfl⟩ := Loaded.map_eq_ok_iff.1 h
          exact .binary ha hsign hb
  · split at h
    · rename_i hassign
      obtain rfl := isAssign_eq_true_iff.1 hassign
      split at h
      · cases h
      · rename_i hop
        obtain ⟨sign, rfl, hsign⟩ := loadOperator_eq_ok_iff.1 hop
        split at h
        · cases h
        · rename_i htarget
          split at h
          · cases h
          · rename_i ha
            obtain ⟨r, hb, rfl⟩ := Loaded.map_eq_ok_iff.1 h
            exact .assignBinary (loadTarget_eq_ok_iff.1 htarget) ha hsign hb
    · cases h
  · cases h

theorem arithmetic_of_shape (h : Shape items effect) : arithmetic items = .ok effect := by
  rw [arithmetic.eq_def]
  cases h with
  | alone a_eq => simp only [a_eq, Except.map]
  | binary a_eq sign_mem b_eq =>
    have hassign := isAssign_string_eq_false (ne_assign_of_mem_signs sign_mem)
    have hop := loadOperator_eq_ok_iff.2 ⟨_, rfl, sign_mem⟩
    simp only [hassign, hop, a_eq, b_eq, Except.map]
    rfl
  | assign target_is a_eq =>
    simp only [loadTarget_eq_ok_iff.2 target_is, a_eq, Except.map]
    rfl
  | assignBinary target_is a_eq sign_mem b_eq =>
    have hop := loadOperator_eq_ok_iff.2 ⟨_, rfl, sign_mem⟩
    simp only [loadTarget_eq_ok_iff.2 target_is, hop, a_eq, b_eq, Except.map]
    rfl
  | increment target_is =>
    simp only [loadTarget_eq_ok_iff.2 target_is]
    rfl
  | decrement target_is =>
    simp only [loadTarget_eq_ok_iff.2 target_is]
    rfl

theorem arithmetic_eq_ok_iff : arithmetic items = .ok effect ↔ Shape items effect :=
  ⟨shape_of_arithmetic, arithmetic_of_shape⟩

end Effect

end Parley
