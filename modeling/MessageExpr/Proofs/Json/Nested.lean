import MessageExpr.Proofs.Json.Scalar

/-!
# Reading JSON text as it is written

Written JSON text is read as one value wherever a separator follows it. There is one rule for each
kind of value: those of arrays and objects read the texts of their items between commas. A number
alone has no end of its own, and this is why the separator matters.

## Main definitions

* `RawJson.IsReadAs` — text that is read as a value up to a separator

## Main results

* `RawJson.isReadAs_string`, `RawJson.isReadAs_integer` and the others — one rule for each kind of
  value
* `RawJson.read?_of_isReadAs` — text that is read as a value up to a separator is read as a whole
* `Json.toList_text_array`, `Json.toList_text_object` — the text of arrays and objects is of this
  form
-/

namespace MessageExpr

namespace RawJson

variable {c : Char} {t rest : List Char} {raw : RawJson}

/-! ## Text up to a separator -/

/-- Text that is read as a value wherever a separator follows it. -/
structure IsReadAs (t : List Char) (raw : RawJson) : Prop where
  /-- It is not empty and starts neither with white space nor with the end of an array. -/
  first : ∃ c ∈ t.head?, isBlank c = false ∧ c ≠ ']'
  read : ∀ bound rest, t.length ≤ bound → IsBoundary rest →
    value? bound (t ++ rest) = some (raw, rest)

theorem skipBlank_cons (printed : isBlank c = false) (rest : List Char) :
    skipBlank (c :: rest) = c :: rest := by
  rw [skipBlank, List.dropWhile_cons, printed]
  rfl

theorem read?_of_isReadAs (read : IsReadAs t raw) : read? t = some raw := by
  have whole := read.read (t.length + 1) [] (Nat.le_succ _) isBoundary_nil
  rw [List.append_nil] at whole
  rw [read?, whole]
  rfl

/-- Text is read as a value when the rule for its first character says so for every bound but
zero. -/
theorem isReadAs_of_cons (printed : isBlank c = false) (close : c ≠ ']')
    (read : ∀ bound rest, t.length ≤ bound → IsBoundary rest →
      value? (bound + 1) (c :: (t ++ rest)) = some (raw, rest)) : IsReadAs (c :: t) raw := by
  refine ⟨⟨c, rfl, printed, close⟩, fun bound rest enough boundary => ?_⟩
  cases bound with
  -- The first character is too much for a bound of zero.
  | zero => exact absurd enough (Nat.not_succ_le_zero _)
  | succ bound => exact read bound rest (Nat.le_of_succ_le_succ enough) boundary

/-! ## Values without parts -/

theorem isReadAs_null : IsReadAs "null".toList null :=
  isReadAs_of_cons rfl (by decide) fun _ _ _ _ => rfl

theorem isReadAs_boolean (b : Bool) :
    IsReadAs (if b then "true" else "false").toList (boolean b) := by
  cases b
  · exact isReadAs_of_cons rfl (by decide) fun _ _ _ _ => rfl
  · exact isReadAs_of_cons rfl (by decide) fun _ _ _ _ => rfl

private theorem toList_stringText (s : String) :
    (Json.stringText s).toList = '"' :: (s.toList.flatMap Json.charText ++ ['"']) :=
  String.toList_ofList

theorem isReadAs_string (s : String) : IsReadAs (Json.stringText s).toList (string (points s)) := by
  rw [toList_stringText]
  refine isReadAs_of_cons rfl (by decide) fun bound rest _ _ => ?_
  have units := units?_flatMap s.toList rest
  have rule : value? (bound + 1) ('"' :: (s.toList.flatMap Json.charText ++ '"' :: rest)) =
      (units? (s.toList.flatMap Json.charText ++ '"' :: rest)).map
        fun read => (string (joinPairs read.1), read.2) := rfl
  rw [List.append_assoc, List.singleton_append, rule, units]
  exact congrArg (fun units => some (string units, rest)) (joinPairs_points s)

/-- What a number starts with is no other character. -/
theorem ne_of_number {d : Char} (number : c.isDigit = true ∨ c = '-') (digit : d.isDigit = false)
    (minus : d ≠ '-') : c ≠ d := by
  rintro rfl
  rcases number with number | number
  · rw [number] at digit
    cases digit
  · exact minus number

private theorem isBlank_of_number (number : c.isDigit = true ∨ c = '-') : isBlank c = false := by
  have other {d : Char} := ne_of_number (d := d) number
  simp only [isBlank, Bool.or_eq_false_iff, beq_eq_false_iff_ne]
  exact ⟨⟨⟨other rfl (by decide), other rfl (by decide)⟩, other rfl (by decide)⟩,
    other rfl (by decide)⟩

private theorem value?_number (number : c.isDigit = true ∨ c = '-') (bound : Nat)
    (rest : List Char) :
    value? (bound + 1) (c :: rest) =
      (number? (c :: rest)).map fun (n, after) => (.number n, after) := by
  have other {d : Char} := ne_of_number (d := d) number
  rw [value?.eq_def]
  simp only [skipBlank_cons (isBlank_of_number number)]
  split
  · exact absurd (List.cons.inj ‹_›).1 (other rfl (by decide))
  · exact absurd (List.cons.inj ‹_›).1 (other rfl (by decide))
  · exact absurd (List.cons.inj ‹_›).1 (other rfl (by decide))
  · exact absurd (List.cons.inj ‹_›).1 (other rfl (by decide))
  · exact absurd (List.cons.inj ‹_›).1 (other rfl (by decide))
  · exact absurd (List.cons.inj ‹_›).1 (other rfl (by decide))
  · rfl

theorem isReadAs_integer (n : Int) : IsReadAs (Decimal.integerText n) (number (.ofInt n)) := by
  cases text : Decimal.integerText n with
  | nil =>
    cases n with
    | ofNat n => exact absurd text (Decimal.natural_ne_nil n)
    | negSucc n => cases text
  | cons c t =>
    have number := Decimal.isDigit_or_minus_of_mem (text ▸ List.mem_cons_self : c ∈ _)
    refine isReadAs_of_cons (isBlank_of_number number) (ne_of_number number rfl (by decide))
      fun bound rest _ boundary => ?_
    -- Only here the separator is needed: the digits have no end of their own.
    rw [value?_number number, ← List.cons_append, ← text, number?_integerText n boundary]
    rfl

/-! ## Values with parts -/

private theorem value?_array (first : ∃ c ∈ t.head?, isBlank c = false ∧ c ≠ ']') (bound : Nat) :
    value? (bound + 1) ('[' :: t) =
      (items? bound t).map fun (items, after) => (array items, after) := by
  obtain ⟨c, first, printed, close⟩ := first
  obtain ⟨rest, rfl⟩ := List.head?_eq_some_iff.mp first
  rw [value?.eq_def]
  simp only [skipBlank_cons (c := '[') rfl, skipBlank_cons printed]
  split
  · exact absurd (List.cons.inj ‹_›).1 close
  · rfl

private theorem items?_last {bound : Nat} (read : value? bound t = some (raw, ']' :: rest)) :
    items? (bound + 1) t = some ([raw], rest) := by
  rw [items?, read]
  rfl

private theorem items?_more {bound : Nat} {raws : List RawJson} {after : List Char}
    (read : value? bound t = some (raw, ',' :: rest))
    (tail : items? bound rest = some (raws, after)) :
    items? (bound + 1) t = some (raw :: raws, after) := by
  have rule : items? (bound + 1) t = (items? bound rest).bind
      fun (raws, after) => some (raw :: raws, after) := by
    rw [items?, read]
    rfl
  rw [rule, tail]
  rfl

private theorem fields?_last {bound : Nat} {units : List Nat} {t' : List Char}
    (name : units? t = some (units, ':' :: t'))
    (read : value? bound t' = some (raw, '\x7d' :: rest)) :
    fields? (bound + 1) ('"' :: t) = some ([(joinPairs units, raw)], rest) := by
  simp only [fields?, skipBlank_cons (c := '"') rfl, name, Option.bind_eq_bind, Option.bind_some,
    skipBlank_cons (c := ':') rfl, read]
  rfl

private theorem fields?_more {bound : Nat} {units : List Nat} {t' : List Char}
    {fields : List (List Nat × RawJson)} {after : List Char}
    (name : units? t = some (units, ':' :: t')) (read : value? bound t' = some (raw, ',' :: rest))
    (tail : fields? bound rest = some (fields, after)) :
    fields? (bound + 1) ('"' :: t) = some ((joinPairs units, raw) :: fields, after) := by
  simp only [fields?, skipBlank_cons (c := '"') rfl, name, Option.bind_eq_bind, Option.bind_some,
    skipBlank_cons (c := ':') rfl, read, skipBlank_cons (c := ',') rfl, tail]
  rfl

variable {α : Type} {text : α → List Char} {value : α → RawJson} {name : α → String}

theorem intercalate_map_cons (text : α → List Char) (x y : α) (others : List α) :
    [','].intercalate ((x :: y :: others).map text) =
      text x ++ ',' :: [','].intercalate ((y :: others).map text) := by
  rw [List.map_cons, List.map_cons, List.intercalate_cons_cons, List.append_assoc]
  rfl

/-- Texts between commas start with the first of them. -/
theorem exists_intercalate_eq_append (text : α → List Char) (x : α) (others : List α) :
    ∃ more, [','].intercalate ((x :: others).map text) = text x ++ more := by
  cases others with
  | nil => exact ⟨[], by rw [List.map_singleton, List.intercalate_singleton, List.append_nil]⟩
  | cons y others => exact ⟨_, intercalate_map_cons text x y others⟩

/-- Items between commas are read one after the other. -/
theorem items?_intercalate {x : α} {others : List α}
    (items : ∀ y ∈ x :: others, IsReadAs (text y) (value y)) {bound : Nat}
    (enough : ([','].intercalate ((x :: others).map text)).length < bound) (rest : List Char) :
    items? bound ([','].intercalate ((x :: others).map text) ++ ']' :: rest) =
      some ((x :: others).map value, rest) := by
  obtain ⟨bound, rfl⟩ := Nat.exists_eq_add_one_of_ne_zero (Nat.ne_zero_of_lt enough)
  have here := items x List.mem_cons_self
  induction others generalizing x bound with
  | nil =>
    rw [List.map_singleton, List.intercalate_singleton] at enough ⊢
    have boundary := isBoundary_cons (c := ']') (by simp) rest
    exact items?_last (here.read bound _ (Nat.lt_succ_iff.mp enough) boundary)
  | cons y others ih =>
    rw [intercalate_map_cons] at enough ⊢
    rw [List.length_append, List.length_cons] at enough
    rw [List.append_assoc, List.cons_append]
    -- Every item takes one off the bound, and its comma alone makes the text as much shorter.
    obtain ⟨bound, rfl⟩ : ∃ b, bound = b + 1 := ⟨bound - 1, by omega⟩
    refine items?_more (here.read _ _ (by omega) (isBoundary_cons (by simp) _)) ?_
    exact ih (fun z mem => items z (List.mem_cons_of_mem x mem)) bound (by omega)
      (items y (List.mem_cons_of_mem x List.mem_cons_self))

/-- An array is read item by item. -/
theorem isReadAs_array {items : List α} (reads : ∀ x ∈ items, IsReadAs (text x) (value x)) :
    IsReadAs ('[' :: ([','].intercalate (items.map text) ++ [']'])) (array (items.map value)) := by
  refine isReadAs_of_cons rfl (by decide) fun bound rest enough boundary => ?_
  rw [List.append_assoc, List.singleton_append]
  rw [List.length_append, List.length_singleton] at enough
  cases items with
  | nil => rfl
  | cons x others =>
    obtain ⟨c, first, printed⟩ := (reads x List.mem_cons_self).first
    have first' : c ∈ ([','].intercalate ((x :: others).map text) ++ ']' :: rest).head? := by
      obtain ⟨tail, start⟩ := List.head?_eq_some_iff.mp first
      obtain ⟨more, joined⟩ := exists_intercalate_eq_append text x others
      rw [joined, start]
      rfl
    rw [value?_array ⟨c, first', printed⟩, items?_intercalate reads enough]
    rfl

/-- The text of a field of an object. -/
def fieldText (name : String) (t : List Char) : List Char :=
  (Json.stringText name).toList ++ ':' :: t

private theorem fieldText_append (name : String) (t rest : List Char) : fieldText name t ++ rest =
    '"' :: (name.toList.flatMap Json.charText ++ '"' :: ':' :: (t ++ rest)) := by
  rw [fieldText, toList_stringText]
  simp

private theorem length_lt_length_fieldText (name : String) (t : List Char) :
    t.length < (fieldText name t).length := by
  rw [fieldText, List.length_append, List.length_cons]
  omega

/-- Fields between commas are read one after the other. -/
theorem fields?_intercalate {x : α} {others : List α}
    (fields : ∀ y ∈ x :: others, IsReadAs (text y) (value y)) {bound : Nat}
    (enough : ([','].intercalate
      ((x :: others).map fun y => fieldText (name y) (text y))).length < bound) (rest : List Char) :
    fields? bound ([','].intercalate ((x :: others).map fun y => fieldText (name y) (text y)) ++
        '\x7d' :: rest) =
      some ((x :: others).map fun y => (points (name y), value y), rest) := by
  obtain ⟨bound, rfl⟩ := Nat.exists_eq_add_one_of_ne_zero (Nat.ne_zero_of_lt enough)
  have here := fields x List.mem_cons_self
  have inner := length_lt_length_fieldText (name x) (text x)
  induction others generalizing x bound with
  | nil =>
    rw [List.map_singleton, List.intercalate_singleton] at enough ⊢
    have last := fields?_last (units?_flatMap (name x).toList _)
      (here.read bound _ (by omega) (isBoundary_cons (c := '\x7d') (by simp) rest))
    rw [fieldText_append, last]
    exact congrArg (fun units => some ([(units, value x)], rest)) (joinPairs_points (name x))
  | cons y others ih =>
    rw [intercalate_map_cons] at enough ⊢
    rw [List.length_append, List.length_cons] at enough
    obtain ⟨bound, rfl⟩ : ∃ b, bound = b + 1 := ⟨bound - 1, by omega⟩
    have tail := ih (fun z mem => fields z (List.mem_cons_of_mem x mem)) bound (by omega)
      (fields y (List.mem_cons_of_mem x List.mem_cons_self)) (length_lt_length_fieldText _ _)
    have more := fields?_more (units?_flatMap (name x).toList _)
      (here.read (bound + 1) _ (by omega) (isBoundary_cons (c := ',') (by simp) _)) tail
    rw [List.append_assoc, List.cons_append, fieldText_append, more]
    exact congrArg (fun units => some ((units, value x) :: _, rest)) (joinPairs_points (name x))

private theorem value?_object (bound : Nat) (rest : List Char) :
    value? (bound + 1) ('\x7b' :: '"' :: rest) =
      (fields? bound ('"' :: rest)).map fun (fields, after) => (object fields, after) := rfl

/-- An object is read field by field. -/
theorem isReadAs_object {fields : List α} (reads : ∀ x ∈ fields, IsReadAs (text x) (value x)) :
    IsReadAs ('\x7b' :: ([','].intercalate (fields.map fun x => fieldText (name x) (text x)) ++
      ['\x7d'])) (object (fields.map fun x => (points (name x), value x))) := by
  refine isReadAs_of_cons rfl (by decide) fun bound rest enough boundary => ?_
  rw [List.append_assoc, List.singleton_append]
  rw [List.length_append, List.length_singleton] at enough
  cases fields with
  | nil => rfl
  | cons x others =>
    have read := @fields?_intercalate α text value name x others reads bound enough rest
    obtain ⟨more, joined⟩ :=
      exists_intercalate_eq_append (fun y => fieldText (name y) (text y)) x others
    rw [joined, List.append_assoc, fieldText_append] at read ⊢
    rw [value?_object, read]
    rfl

/-! ## What the parts denote -/

variable {depth : Nat} {json : α → Json}

theorem checkItems?_map {items : List α}
    (checks : ∀ x ∈ items, check? depth (value x) = some (json x)) :
    checkItems? depth (items.map value) = some (items.map json) := by
  induction items with
  | nil => rfl
  | cons x rest ih =>
    rw [List.map_cons, checkItems?, checks x List.mem_cons_self,
      ih fun y mem => checks y (List.mem_cons_of_mem x mem)]
    rfl

theorem checkFields?_map {fields : List α}
    (checks : ∀ x ∈ fields, check? depth (value x) = some (json x)) :
    checkFields? depth (fields.map fun x => (points (name x), value x)) =
      some (fields.map fun x => (name x, json x)) := by
  induction fields with
  | nil => rfl
  | cons x rest ih =>
    rw [List.map_cons, checkFields?, text?_points, checks x List.mem_cons_self,
      ih fun y mem => checks y (List.mem_cons_of_mem x mem)]
    rfl

end RawJson

namespace Json

open RawJson (fieldText)

private theorem texts_eq_map (items : List Json) : texts items = items.map text := by
  induction items with
  | nil => rfl
  | cons item rest ih => rw [texts, ih, List.map_cons]

private theorem fieldTexts_eq_map (fields : List (String × Json)) :
    fieldTexts fields = fields.map fun field => stringText field.1 ++ ":" ++ field.2.text := by
  induction fields with
  | nil => rfl
  | cons field rest ih => rw [fieldTexts, ih, List.map_cons]

theorem toList_text_array (items : List Json) : (array items).text.toList =
    '[' :: ([','].intercalate (items.map fun item => item.text.toList) ++ [']']) := by
  rw [text, texts_eq_map, String.toList_append, String.toList_append, String.toList_intercalate,
    List.map_map]
  rfl

theorem toList_text_object (fields : List (String × Json)) : (object fields).text.toList =
    '\x7b' :: ([','].intercalate (fields.map fun field => fieldText field.1 field.2.text.toList) ++
      ['\x7d']) := by
  have field (field : String × Json) :
      (stringText field.1 ++ ":" ++ field.2.text).toList =
        fieldText field.1 field.2.text.toList := by
    rw [String.toList_append, String.toList_append, List.append_assoc]
    rfl
  rw [text, fieldTexts_eq_map, String.toList_append, String.toList_append,
    String.toList_intercalate, List.map_map]
  simp only [Function.comp_def, field]
  rfl

end Json

end MessageExpr
