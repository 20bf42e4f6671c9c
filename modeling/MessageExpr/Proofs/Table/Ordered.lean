import Mathlib.Data.List.Induction
import Mathlib.Data.String.Basic
import Mathlib.Tactic.SplitIfs
import MessageExpr.Table

/-!
# Tables in order

The names of a table stand in strict order, whatever entries were set in it one after the other. So
a table is the same in whatever order its entries are set again, and what was written of it in any
order gives it back.

## Main definitions

* `Table.IsOrdered` — entries in the strict order of their names

## Main results

* `Table.isOrdered_insert`, `Table.isOrdered_ofEntries` — tables are in order
* `Table.ofEntries_eq_of_perm` — the entries of a table give it back in any order
-/

namespace MessageExpr.Table

variable {α : Type} {table : Table α} {name : String} {value : α} {entries : List (String × α)}

/-- Entries in the strict order of their names. -/
def IsOrdered (table : Table α) : Prop := table.Pairwise fun entry other => entry.1 < other.1

theorem IsOrdered.nodup_names (ordered : table.IsOrdered) : (table.map (·.1)).Nodup :=
  List.pairwise_map.mpr (ordered.imp fun less => ne_of_lt less)

theorem IsOrdered.map {β : Type} (ordered : table.IsOrdered) (f : String → α → β) :
    IsOrdered (table.map fun entry => (entry.1, f entry.1 entry.2)) :=
  List.pairwise_map.mpr ordered

/-- What stands in a table after a name was set: the new entry and what was there before. -/
theorem mem_of_mem_insert {entry : String × α} (mem : entry ∈ insert name value table) :
    entry = (name, value) ∨ entry ∈ table := by
  induction table with
  | nil => exact .inl (List.mem_singleton.mp mem)
  | cons first rest ih =>
    obtain ⟨key, old⟩ := first
    rw [insert] at mem
    split_ifs at mem with below same
    · exact List.mem_cons.mp mem
    · exact (List.mem_cons.mp mem).imp_right (List.mem_cons_of_mem _)
    · rcases List.mem_cons.mp mem with rfl | mem
      · exact .inr List.mem_cons_self
      · exact (ih mem).imp_right (List.mem_cons_of_mem _)

theorem isOrdered_insert (ordered : table.IsOrdered) : (insert name value table).IsOrdered := by
  induction table with
  | nil => exact List.pairwise_singleton _ _
  | cons first rest ih =>
    obtain ⟨key, old⟩ := first
    obtain ⟨least, ordered'⟩ := List.pairwise_cons.mp ordered
    rw [insert]
    split_ifs with below same
    · refine List.pairwise_cons.mpr ⟨fun entry mem => ?_, ordered⟩
      rcases List.mem_cons.mp mem with rfl | mem
      · exact below
      · exact below.trans (least entry mem)
    · subst same
      exact List.pairwise_cons.mpr ⟨least, ordered'⟩
    -- The new name goes further down, where it is still greater than the first one.
    · refine List.pairwise_cons.mpr ⟨fun entry mem => ?_, ih ordered'⟩
      rcases mem_of_mem_insert mem with rfl | mem
      · exact lt_of_le_of_ne (not_lt.mp below) (Ne.symm same)
      · exact least entry mem

theorem ofEntries_concat (entries : List (String × α)) (entry : String × α) :
    ofEntries (entries ++ [entry]) = insert entry.1 entry.2 (ofEntries entries) := by
  rw [ofEntries, List.foldl_append]
  rfl

theorem isOrdered_ofEntries (entries : List (String × α)) : (ofEntries entries).IsOrdered :=
  List.foldlRecOn entries _ List.Pairwise.nil fun _ ordered _ _ => isOrdered_insert ordered

/-- Setting a new name adds an entry. -/
theorem insert_perm (fresh : name ∉ table.map (·.1)) :
    (insert name value table).Perm ((name, value) :: table) := by
  induction table with
  | nil => exact .refl _
  | cons first rest ih =>
    obtain ⟨key, old⟩ := first
    rw [List.map_cons, List.mem_cons, not_or] at fresh
    rw [insert, if_neg fresh.1]
    split_ifs
    · exact .refl _
    · exact ((ih fresh.2).cons _).trans (List.Perm.swap _ _ _)

/-- Without a name twice, a table has the entries that it was made of. -/
theorem ofEntries_perm (nodup : (entries.map (·.1)).Nodup) : (ofEntries entries).Perm entries := by
  induction entries using List.reverseRecOn with
  | nil => exact .refl _
  | append_singleton entries entry ih =>
    rw [List.map_append, List.map_singleton, List.nodup_append] at nodup
    have same := ih nodup.1
    have fresh : entry.1 ∉ (ofEntries entries).map (·.1) := fun mem =>
      nodup.2.2 _ ((same.map _).mem_iff.mp mem) _ List.mem_cons_self rfl
    rw [ofEntries_concat]
    exact ((insert_perm fresh).trans (same.cons _)).trans (List.perm_append_singleton _ _).symm

/-- The entries of a table give it back in any order. -/
theorem ofEntries_eq_of_perm (ordered : table.IsOrdered) (perm : entries.Perm table) :
    ofEntries entries = table := by
  have nodup : (entries.map (·.1)).Nodup := (perm.map _).nodup_iff.mpr ordered.nodup_names
  exact ((ofEntries_perm nodup).trans perm).eq_of_pairwise
    (fun _ _ _ _ below above => absurd above below.asymm) (isOrdered_ofEntries entries) ordered

end MessageExpr.Table
