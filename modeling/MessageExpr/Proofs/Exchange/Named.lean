import Mathlib.Data.Finset.Card
import MessageExpr.Proofs.Exchange.Built

/-!
# The names of headers

Names that differ only in the case of ASCII letters belong to one header. Whatever headers are set
one after the other, each of them is there once and has the value that was given last. Its name is
the one that was given with this value: the name that was given first is forgotten, so it is the
name of the header only where it was given last again.

## Main definitions

* `Headers.isAlike` — names that belong to one header
* `Headers.lastPair?` — the last name and value that were given for a header
* `Headers.firstSpelling?`, `Headers.lastSpelling?` — the names that were given for a header

## Main results

* `Headers.mem_table_ofEntries` — headers have the names and values that were given last
* `Headers.size_ofEntries` — there are as many headers as names in small letters
* `Headers.spelled_first_iff` — when the first names are kept
* `Headers.ofEntries_spec` — what headers have
-/

namespace MessageExpr

/-! ## Entries of a table -/

namespace Table

variable {α : Type} {table : Table α} {name other : String} {value : α}

private theorem get?_eq_some_iff (nodup : (table.map (·.1)).Nodup) :
    get? name table = some value ↔ (name, value) ∈ table := by
  induction table with
  | nil => simp
  | cons entry rest ih =>
    obtain ⟨key, old⟩ := entry
    obtain ⟨fresh, nodup⟩ := List.nodup_cons.mp nodup
    rw [get?, List.lookup_cons, List.mem_cons, Prod.mk.injEq]
    by_cases same : name = key
    · subst same
      have absent : (name, value) ∉ rest := fun mem => fresh (List.mem_map.mpr ⟨_, mem, rfl⟩)
      simp [absent, eq_comm]
    · rw [beq_false_of_ne same]
      simp only [same, false_and, false_or]
      exact ih nodup

private theorem mem_names_insert :
    other ∈ (insert name value table).map (·.1) ↔ other = name ∨ other ∈ table.map (·.1) := by
  induction table with
  | nil => simp [insert]
  | cons entry rest ih =>
    obtain ⟨key, old⟩ := entry
    rw [insert]
    split_ifs with below same
    · simp
    · simp [same]
    · rw [List.map_cons, List.mem_cons, ih, List.map_cons, List.mem_cons, or_left_comm]

private theorem mem_names_ofEntries {entries : List (String × α)} :
    name ∈ (ofEntries entries).map (·.1) ↔ name ∈ entries.map (·.1) := by
  induction entries using List.reverseRecOn with
  | nil => exact .rfl
  | append_singleton entries entry ih =>
    rw [ofEntries_concat, mem_names_insert, ih, List.map_append, List.mem_append, or_comm,
      List.map_singleton, List.mem_singleton]

end Table

namespace Headers

variable {given : List (String × Value)} {name other : String} {value : Value}

/-! ## Names of one header -/

/-- Whether two names belong to one header: they differ at most in the case of ASCII letters. -/
def isAlike (name other : String) : Bool := Text.sameIgnoringCase other.toList name.toList

theorem isAlike_iff : isAlike name other = true ↔ key other = key name := (key_eq_iff _ _).symm

theorem isAlike_self (name : String) : isAlike name name = true := isAlike_iff.mpr rfl

private theorem isAlike_eq_beq (name other : String) :
    isAlike name other = (key other == key name) := by
  rw [Bool.eq_iff_iff, isAlike_iff, beq_iff_eq]

/-- Names of one header are alike to the same names. -/
theorem isAlike_congr (alike : isAlike name other = true) : isAlike other = isAlike name := by
  funext third
  rw [isAlike_eq_beq, isAlike_eq_beq, isAlike_iff.mp alike]

/-- The last name and value that were given for the header of a name. -/
def lastPair? (name : String) (given : List (String × Value)) : Option (String × Value) :=
  given.reverse.find? fun entry => isAlike name entry.1

/-- The name that was given last for the header of a name. -/
def lastSpelling? (name : String) (given : List (String × Value)) : Option String :=
  (lastPair? name given).map (·.1)

/-- The name that was given first for the header of a name. -/
def firstSpelling? (name : String) (given : List (String × Value)) : Option String :=
  (given.find? fun entry => isAlike name entry.1).map (·.1)

private theorem lastGiven?_isAlike (name : String) (given : List (String × Value)) :
    lastGiven? (isAlike name) given = (lastPair? name given).map (·.2) := rfl

private theorem isAlike_of_lastPair? {entry : String × Value}
    (last : lastPair? name given = some entry) :
    isAlike name entry.1 = true := by
  have found := List.find?_some last
  exact found

private theorem lastPair?_congr (alike : isAlike name other = true) :
    lastPair? other given = lastPair? name given := by
  rw [lastPair?, isAlike_congr alike, lastPair?]

private theorem firstSpelling?_congr (alike : isAlike name other = true) :
    firstSpelling? other given = firstSpelling? name given := by
  rw [firstSpelling?, isAlike_congr alike, firstSpelling?]

/-! ## What headers have -/

/-- Under its key a header is stored with the name and value that were given last. -/
theorem get?_entries_ofEntries (name : String) (given : List (String × Value)) :
    (ofEntries given).entries.get? (key name) = lastPair? name given := by
  rw [entries_ofEntries, Table.get?_ofEntries, lastGiven?, lastPair?, ← List.map_reverse,
    List.find?_map, Option.map_map]
  simp only [isAlike_eq_beq]
  exact Option.map_id'

/-- Headers have the names and values that were given last, each name in its own spelling. -/
theorem mem_table_ofEntries : (name, value) ∈ (ofEntries given).table ↔
    lastPair? name given = some (name, value) := by
  have tidy := isTidy_ofEntries given
  rw [tidy.table_perm.mem_iff, ← get?_entries_ofEntries,
    Table.get?_eq_some_iff tidy.ordered.nodup_names, List.mem_map]
  constructor
  · rintro ⟨⟨stored, entry⟩, mem, rfl⟩
    obtain rfl : stored = key name := tidy.keyed _ mem
    exact mem
  · exact fun mem => ⟨_, mem, rfl⟩

/-- What was given for a header is there under one of its names. -/
theorem exists_mem_table {entry : String × Value} (mem : entry ∈ given) :
    ∃ found ∈ (ofEntries given).table, isAlike entry.1 found.1 = true := by
  have some : (lastPair? entry.1 given).isSome = true :=
    List.find?_isSome.mpr ⟨entry, List.mem_reverse.mpr mem, isAlike_self entry.1⟩
  obtain ⟨found, last⟩ := Option.isSome_iff_exists.mp some
  have alike := isAlike_of_lastPair? last
  exact ⟨found, mem_table_ofEntries.mpr ((lastPair?_congr alike).trans last), alike⟩

/-- No two names in a table of headers belong to one header. -/
theorem nodup_keys_table (given : List (String × Value)) :
    ((ofEntries given).table.map fun entry => key entry.1).Nodup := by
  have tidy := isTidy_ofEntries given
  have keys : ((ofEntries given).entries.map (·.2)).map (fun entry => key entry.1) =
      (ofEntries given).entries.map (·.1) := by
    rw [List.map_map]
    exact (List.map_congr_left tidy.keyed).symm
  rw [(tidy.table_perm.map _).nodup_iff, keys]
  exact tidy.ordered.nodup_names

/-- There are as many headers as names in small letters. -/
theorem size_ofEntries (given : List (String × Value)) :
    (ofEntries given).size = (given.map fun entry => key entry.1).toFinset.card := by
  have names : ((ofEntries given).entries.map (·.1)).toFinset =
      (given.map fun entry => key entry.1).toFinset := by
    ext name
    rw [List.mem_toFinset, List.mem_toFinset, entries_ofEntries, Table.mem_names_ofEntries,
      List.map_map]
    rfl
  rw [← names, List.toFinset_card_of_nodup (isTidy_ofEntries given).ordered.nodup_names,
    List.length_map, size]

/-! ## The first spelling -/

private theorem lastPair?_eq_some_iff : lastPair? name given = some (other, value) ↔
    lastSpelling? name given = some other ∧ lastGiven? (isAlike name) given = some value := by
  rw [lastSpelling?, lastGiven?_isAlike]
  cases lastPair? name given with
  | none => simp
  | some entry => simp [Prod.ext_iff]

/-- Headers are spelled as they were first exactly when each of them is spelled at last as it was
at first. -/
theorem spelled_first_iff :
    (∀ name value, (name, value) ∈ (ofEntries given).table ↔
        firstSpelling? name given = some name ∧ lastGiven? (isAlike name) given = some value) ↔
      ∀ name, firstSpelling? name given = lastSpelling? name given := by
  simp only [mem_table_ofEntries, lastPair?_eq_some_iff]
  constructor
  · intro spelled name
    cases last : lastPair? name given with
    | none =>
      -- Nothing was given for the header at all.
      have absent : ∀ entry ∈ given, ¬isAlike name entry.1 = true := by
        simpa [lastPair?] using last
      rw [lastSpelling?, last, firstSpelling?, List.find?_eq_none.mpr absent]
    | some entry =>
      obtain ⟨other, value⟩ := entry
      have alike := isAlike_of_lastPair? last
      rw [← lastPair?_congr alike] at last
      have both := lastPair?_eq_some_iff.mp last
      rw [← firstSpelling?_congr alike, ((spelled other value).mp both).1, lastSpelling?,
        ← lastPair?_congr alike, last, Option.map_some]
  · intro kept name value
    rw [kept]

/-- Headers that were set one after the other. The value of a name is the last one that was given
for its header, in whatever case; there are as many headers as names that differ in more than the
case; and as a table they have one entry for each header, under the name that was given last and
with the last value. So they are spelled as they were first exactly when each header is spelled at
last as it was at first. -/
theorem ofEntries_spec (given : List (String × Value)) :
    (∀ name, (ofEntries given).get? name = lastGiven? (isAlike name) given) ∧
    (ofEntries given).size = (given.map fun entry => key entry.1).toFinset.card ∧
    ((ofEntries given).table.map fun entry => key entry.1).Nodup ∧
    (∀ entry ∈ given, ∃ found ∈ (ofEntries given).table, isAlike entry.1 found.1 = true) ∧
    (∀ name value, (name, value) ∈ (ofEntries given).table ↔
      lastSpelling? name given = some name ∧ lastGiven? (isAlike name) given = some value) ∧
    ((∀ name value, (name, value) ∈ (ofEntries given).table ↔
        firstSpelling? name given = some name ∧ lastGiven? (isAlike name) given = some value) ↔
      ∀ name, firstSpelling? name given = lastSpelling? name given) :=
  ⟨fun name => get?_ofEntries name given, size_ofEntries given, nodup_keys_table given,
    fun _ => exists_mem_table, fun _ _ => mem_table_ofEntries.trans lastPair?_eq_some_iff,
    spelled_first_iff⟩

/-- A header that is set again in capitals is in capitals from then on. -/
theorem table_setAgain :
    firstSpelling? "type" [("Type", .integer 1), ("TYPE", .integer 2)] = some "Type" ∧
      (ofEntries [("Type", .integer 1), ("TYPE", .integer 2)]).table = [("TYPE", .integer 2)] :=
  ⟨by decide +kernel, rfl⟩

end Headers

end MessageExpr
