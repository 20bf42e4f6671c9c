/-!
# Tables

A table gives values to names. Its entries stand in the order of the names, each name once, so
that tables with the same contents are the same.

## Main definitions

* `Table` — the entries of a table
* `Table.insert`, `Table.get?` — sets and looks up the value of a name
* `Table.ofEntries` — the table of a list of entries, where later ones win
-/

namespace MessageExpr

/-- The entries of a table, in the order of their names. -/
abbrev Table (α : Type) := List (String × α)

namespace Table

variable {α : Type}

/-- Sets the value of a name. -/
def insert (name : String) (value : α) : Table α → Table α
  | [] => [(name, value)]
  | (key, old) :: rest =>
    if name < key then (name, value) :: (key, old) :: rest
    else if name = key then (name, value) :: rest
    else (key, old) :: insert name value rest

/-- The value of a name. -/
def get? (name : String) (table : Table α) : Option α := table.lookup name

/-- The table of a list of entries. The last entry of a name gives its value. -/
def ofEntries (entries : List (String × α)) : Table α :=
  entries.foldl (fun table entry => insert entry.1 entry.2 table) []

/-! ## Looking up what was set -/

@[simp] theorem get?_nil (name : String) : get? name ([] : Table α) = none := rfl

theorem get?_insert_self (name : String) (value : α) (table : Table α) :
    get? name (insert name value table) = some value := by
  induction table with
  | nil => simp [insert, get?]
  | cons entry rest ih =>
    obtain ⟨key, old⟩ := entry
    unfold insert
    split
    · simp [get?]
    · split
      · simp [get?]
      · rename_i h
        have hb : (name == key) = false := by simpa using h
        simpa [get?, List.lookup_cons, hb] using ih

theorem get?_insert_of_ne {name other : String} (h : other ≠ name) (value : α)
    (table : Table α) : get? other (insert name value table) = get? other table := by
  have hb : (other == name) = false := by simpa using h
  induction table with
  | nil => simp [insert, get?, List.lookup_cons, hb]
  | cons entry rest ih =>
    obtain ⟨key, old⟩ := entry
    unfold insert
    split
    · simp [get?, List.lookup_cons, hb]
    · split
      · rename_i he
        subst he
        simp [get?, List.lookup_cons, hb]
      · simp only [get?, List.lookup_cons]
        split
        · rfl
        · exact ih

end Table

end MessageExpr
