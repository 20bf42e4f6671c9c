import MessageExpr.Expr.Operation
import MessageExpr.Pattern.Read
import MessageExpr.Proofs.Text.Trim

/-!
# Lists written as texts

A text with commas in it is a list to `in`: its items are the parts between the commas without the
white space around them. So a list of strings may as well be written as a text, with any white space
around the commas, as long as none of the strings has a comma in it or white space at an end, and
there is one at all: a text always has a part.

## Main definitions

* `ListItem` — a string as it may stand between commas
* `listText` — the text with items between commas

## Main results

* `Value.isIn_string` — a text is the list of its parts
* `Value.commaParts_intercalate` — the parts of a text are what was put between its commas
* `BinaryOperator.apply_isIn_listText` — a list and its text have the same values in them
-/

namespace MessageExpr

open Unicode (isBlank)

/-- A string as it may stand between commas, with white space around it. -/
structure ListItem where
  before : List Char
  item : String
  after : List Char
  before_blank : before.all isBlank = true
  after_blank : after.all isBlank = true
  no_comma : ',' ∉ item.toList
  head_printed : item.toList.head?.any isBlank = false
  last_printed : item.toList.getLast?.any isBlank = false

namespace ListItem

/-- An item with the white space around it. -/
def text (i : ListItem) : String := String.ofList (i.before ++ (i.item.toList ++ i.after))

private theorem toList_text (i : ListItem) :
    i.text.toList = i.before ++ (i.item.toList ++ i.after) :=
  String.toList_ofList

private theorem no_comma_text (i : ListItem) : ',' ∉ i.text.toList := by
  have printed : isBlank ',' = false := by decide
  have absent {t : List Char} (blank : t.all isBlank = true) : ',' ∉ t := fun mem => by
    rw [List.all_eq_true.mp blank ',' mem] at printed
    cases printed
  rw [toList_text, List.mem_append, List.mem_append]
  rintro (before | item | after)
  · exact absent i.before_blank before
  · exact i.no_comma item
  · exact absent i.after_blank after

private theorem trimmed_text (i : ListItem) : trimmed i.text = i.item := by
  have whole : Text.trim i.text.toList = i.item.toList := by
    rw [toList_text, Text.trim, Text.strip_padded (List.all_eq_true.mp i.before_blank)
      (List.all_eq_true.mp i.after_blank)]
    exact Text.strip_eq_self ((Option.any_eq_false _ _).mp i.head_printed)
      ((Option.any_eq_false _ _).mp i.last_printed)
  rw [trimmed, whole, String.ofList_toList]

end ListItem

/-- The text with items between commas. -/
def listText (items : List ListItem) : String := String.intercalate "," (items.map ListItem.text)

namespace Value

/-- A text is the list of its parts. -/
theorem isIn_string (v : Value) (s : String) :
    v.isIn (string s) = v.isIn (list ((commaParts s).map string)) := by
  simp only [isIn, text, shown, List.any_map, Function.comp_def]

/-- What is in a list of strings is equal to one of them. -/
theorem isIn_strings (v : Value) (strings : List String) :
    v.isIn (list (strings.map string)) = strings.any fun s => v.equals (string s) := by
  rw [isIn]
  split_ifs with none
  · -- Nothing is in a list if there is no value, and no string is equal to it.
    cases v <;> cases none
    simp [equals]
  · simp only [List.any_map, Function.comp_def]

/-- The parts of a text are what was put between its commas, without the white space around it. -/
theorem commaParts_intercalate {parts : List String} (nonempty : parts ≠ [])
    (comma : ∀ part ∈ parts, ',' ∉ part.toList) :
    commaParts (String.intercalate "," parts) = parts.map trimmed := by
  have cut : (String.intercalate "," parts).toList.splitOn ',' = parts.map String.toList := by
    rw [String.toList_intercalate]
    refine List.splitOn_intercalate ',' ?_ (by simpa using nonempty)
    intro part mem
    obtain ⟨s, given, rfl⟩ := List.mem_map.mp mem
    exact comma s given
  rw [commaParts, cut, List.map_map]
  rfl

private theorem commaParts_listText {items : List ListItem} (nonempty : items ≠ []) :
    commaParts (listText items) = items.map ListItem.item := by
  rw [listText, commaParts_intercalate (by simpa using nonempty), List.map_map]
  · exact List.map_congr_left fun i _ => i.trimmed_text
  · intro part mem
    obtain ⟨i, -, rfl⟩ := List.mem_map.mp mem
    exact i.no_comma_text

end Value

namespace BinaryOperator

/-- A list of strings and a text with them between commas have the same values in them: those that
are equal to one of the strings. -/
theorem apply_isIn_listText [PatternLibrary] (known : Option PatternLibrary.Compiled)
    (left : Value) (items : List ListItem)
    (nonempty : items ≠ []) :
    ∃ found : Bool, (found = true ↔ ∃ i ∈ items, left.equals (.string i.item) = true) ∧
      apply .isIn known left (.string (listText items)) = .ok found ∧
      apply .isIn known left (.list (items.map fun i => .string i.item)) = .ok found ∧
      apply .notIn known left (.string (listText items)) = .ok !found ∧
      apply .notIn known left (.list (items.map fun i => .string i.item)) = .ok !found := by
  have strings : items.map (fun i => Value.string i.item) =
      (items.map ListItem.item).map .string := by
    rw [List.map_map]
    rfl
  have same : left.isIn (.string (listText items)) =
      left.isIn (.list (items.map fun i => .string i.item)) := by
    rw [Value.isIn_string, Value.commaParts_listText nonempty, strings]
  have found : left.isIn (.list (items.map fun i => .string i.item)) = true ↔
      ∃ i ∈ items, left.equals (.string i.item) = true := by
    rw [strings, Value.isIn_strings, List.any_map, List.any_eq_true]
    rfl
  refine ⟨left.isIn (.list (items.map fun i => .string i.item)), found, ?_, rfl, ?_, rfl⟩
  · rw [apply, same]
  · rw [apply, same]

/-- Three items with white space at the commas between them. -/
def spacedItems : List ListItem :=
  [⟨[], "gold", [], rfl, rfl, by decide, by decide, by decide⟩,
   ⟨[], "", ['\t'], rfl, by decide, by decide, rfl, rfl⟩,
   ⟨[' '], "7", [], by decide, rfl, by decide, by decide, by decide⟩]

theorem apply_isIn_listText_spacedItems :
    spacedItems ≠ [] ∧ listText spacedItems = "gold,\t, 7" ∧
      apply .isIn none (.string "7") (.string (listText spacedItems)) = .ok true ∧
      apply .isIn none (.string "7") (.list (spacedItems.map fun i => .string i.item)) =
        .ok true ∧
      apply .notIn none (.string "7") (.string (listText spacedItems)) = .ok false ∧
      apply .notIn none (.string "7") (.list (spacedItems.map fun i => .string i.item)) =
        .ok false := by
  have nonempty : spacedItems ≠ [] := List.cons_ne_nil _ _
  have last : ∃ i ∈ spacedItems, Value.equals (.string "7") (.string i.item) = true :=
    ⟨_, .tail _ (.tail _ (.head _)), by decide +kernel⟩
  obtain ⟨found, iff, inText, inList, notInText, notInList⟩ :=
    apply_isIn_listText none (.string "7") spacedItems nonempty
  obtain rfl : found = true := iff.mpr last
  exact ⟨nonempty, rfl, inText, inList, notInText, notInList⟩

end BinaryOperator

end MessageExpr
