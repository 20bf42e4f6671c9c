import MessageExpr.Expr.Operation
import MessageExpr.Proofs.Value.FloatOrder

/-!
# Equality of values

Which of the two values decides how they are compared depends on their types, but not on which of
them comes first. So equality is symmetric, and a value that is looked for in a list may stand on
either side. Every value is equal to itself, unless a double that is no number is found in it.

## Main definitions

* `Value.HoldsNaN` — a double that is no number is found in a value at some depth

## Main results

* `Value.equals_comm`, `Value.equals_self_iff` — equality is symmetric, and where it is reflexive
* `Value.equality_from_either_side` — both of them, with equality up to case and membership
-/

namespace MessageExpr.Value

variable {v w : Value}

/-- A double that is no number is found in a value at some depth. -/
inductive HoldsNaN : Value → Prop where
  | float {x} : x.isNaN = true → HoldsNaN (float x)
  | list {items item} : item ∈ items → HoldsNaN item → HoldsNaN (list items)

/-! ## Symmetry -/

private theorem sameNumber_comm (v w : Value) : sameNumber v w = sameNumber w v := by
  rw [sameNumber, sameNumber]
  cases v.toFloat? with
  | none => cases w.toFloat? <;> rfl
  | some x =>
    cases w.toFloat? with
    | none => rfl
    | some y => exact float_beq_comm x y

/-- Unless both are lists, two values are compared in the same way from either side: by the null,
the truth value or the number among them, in this order, and else by their texts. -/
theorem equals_comm_of_single (single : ∀ items others, v = list items → w ≠ list others) :
    v.equals w = w.equals v := by
  cases v with
  | null => cases w <;> simp only [equals]
  | boolean b =>
    cases w with
    | boolean b' =>
      simp only [equals]
      exact BEq.comm
    | _ => simp only [equals]
  | integer n =>
    cases w with
    | integer m =>
      simp only [equals]
      exact BEq.comm
    | null | boolean => simp only [equals]
    | float | string | list =>
      simp only [equals]
      exact sameNumber_comm _ _
  | float x =>
    cases w with
    | null | boolean => simp only [equals]
    | integer | float | string | list =>
      simp only [equals]
      exact sameNumber_comm _ _
  | string s =>
    cases w with
    | null | boolean => simp only [equals]
    | integer | float =>
      simp only [equals]
      exact sameNumber_comm _ _
    | string | list =>
      simp only [equals]
      exact BEq.comm
  | list items =>
    cases w with
    | null | boolean => simp only [equals]
    | integer | float =>
      simp only [equals]
      exact sameNumber_comm _ _
    | string =>
      simp only [equals]
      exact BEq.comm
    | list others => exact absurd rfl (single items others rfl)

mutual

/-- Equality is symmetric. -/
theorem equals_comm (v w : Value) : v.equals w = w.equals v := by
  match v, w with
  | list items, list others =>
    simp only [equals]
    exact equalsAll_comm items others
  | list _, null | list _, boolean _ | list _, integer _ | list _, float _ | list _, string _ =>
    exact equals_comm_of_single nofun
  | null, _ | boolean _, _ | integer _, _ | float _, _ | string _, _ =>
    exact equals_comm_of_single nofun

/-- Equality of lists is symmetric, item by item. -/
theorem equalsAll_comm (items others : List Value) :
    equalsAll items others = equalsAll others items := by
  match items, others with
  | [], [] | [], _ :: _ | _ :: _, [] => rfl
  | item :: rest, other :: others =>
    rw [equalsAll, equalsAll, equals_comm item other, equalsAll_comm rest others]

end

private theorem equalsIgnoringCase_comm (v w : Value) :
    v.equalsIgnoringCase w = w.equalsIgnoringCase v := by
  rw [equalsIgnoringCase, equalsIgnoringCase, equals_comm v w, Bool.and_comm (!v.isNull),
    BEq.comm (a := lowercased v.text)]

/-- What a list holds are the values that are in it. -/
theorem holds_list_eq_isIn (items : List Value) (w : Value) :
    (list items).holds false w = w.isIn (list items) := by
  have turned : (fun item => equals item w) = equals w := funext fun item => equals_comm item w
  cases w with
  | null => rfl
  | _ => exact congrArg items.any turned

/-! ## Reflexivity -/

private theorem holdsNaN_list_iff {items : List Value} :
    (list items).HoldsNaN ↔ ∃ item ∈ items, item.HoldsNaN := by
  constructor
  · rintro (_ | ⟨mem, inner⟩)
    exact ⟨_, mem, inner⟩
  · rintro ⟨item, mem, inner⟩
    exact .list mem inner

private theorem holdsNaN_float_iff {x : Float} : (float x).HoldsNaN ↔ x.isNaN = true := by
  constructor
  · rintro ⟨notNumber⟩
    exact notNumber
  · exact .float

mutual

/-- A value is equal to itself unless it holds a double that is no number. -/
theorem equals_self_iff (v : Value) : v.equals v = true ↔ ¬v.HoldsNaN := by
  match v with
  | null => exact iff_of_true rfl nofun
  | boolean b => exact iff_of_true (by simp only [equals, toBool?, BEq.rfl]) nofun
  | integer n => exact iff_of_true (by simp only [equals, BEq.rfl]) nofun
  | string s => exact iff_of_true (by simp only [equals, BEq.rfl]) nofun
  | float x =>
    have same : (float x).equals (float x) = !x.isNaN := by
      simp only [equals, sameNumber, toFloat?, float_beq_self]
    rw [same, holdsNaN_float_iff, Bool.not_eq_true, Bool.not_eq_true']
  | list items =>
    simp only [equals]
    rw [equalsAll_self_iff items, holdsNaN_list_iff]
    simp only [not_exists, not_and]

theorem equalsAll_self_iff (items : List Value) :
    equalsAll items items = true ↔ ∀ item ∈ items, ¬item.HoldsNaN := by
  match items with
  | [] => simp [equalsAll]
  | item :: rest =>
    rw [equalsAll, Bool.and_eq_true, equals_self_iff item, equalsAll_self_iff rest,
      List.forall_mem_cons]

end

/-- Equality, equality up to case and membership in a list do not depend on the side that a value
stands on, and a value is equal to itself exactly if no double in it is no number. -/
theorem equality_from_either_side [PatternLibrary] (v w : Value) (items : List Value)
    (known known' : Option PatternLibrary.Compiled) :
    v.equals w = w.equals v ∧
      (v.equals v = true ↔ ¬v.HoldsNaN) ∧
      BinaryOperator.equalIgnoringCase.apply known v w =
        BinaryOperator.equalIgnoringCase.apply known' w v ∧
      BinaryOperator.contains.apply known (list items) w =
        BinaryOperator.isIn.apply known' w (list items) :=
  ⟨equals_comm v w, equals_self_iff v, congrArg Except.ok (equalsIgnoringCase_comm v w),
    congrArg Except.ok (holds_list_eq_isIn items w)⟩

end MessageExpr.Value
