import Mathlib.Data.List.Nodup
import MessageExpr.Proofs.Exchange.Given

/-!
# How exchanges are built

An exchange starts with a body or is read from JSON text, and identifiers, headers and properties
are set in it one after the other. All along, headers and properties stand in the order of their
keys, and the key of each header is its own name in small ASCII letters. Conversely every exchange
like this can be built.

## Main definitions

* `Exchange.Built` — the exchanges that can be built
* `Headers.IsTidy`, `Exchange.IsTidy` — what stays true of them on the way

## Main results

* `Headers.ofEntries_eq_of_perm` — headers are the same in whatever order they are set again
* `Exchange.built_iff_isTidy` — the tidy exchanges are those that can be built
-/

namespace MessageExpr

open Table (IsOrdered)

namespace Headers

variable {headers : Headers} {entries : List (String × Value)}

/-! ## Headers -/

/-- Headers in the order of their keys, where each key belongs to the name that stands with it. -/
structure IsTidy (headers : Headers) : Prop where
  ordered : headers.entries.IsOrdered
  keyed : ∀ entry ∈ headers.entries, entry.1 = key entry.2.1

private theorem isTidy_empty : empty.IsTidy := ⟨List.Pairwise.nil, by rintro entry ⟨⟩⟩

theorem IsTidy.insert (tidy : headers.IsTidy) (name : String) (value : Value) :
    (headers.insert name value).IsTidy := by
  refine ⟨Table.isOrdered_insert tidy.ordered, fun entry mem => ?_⟩
  rcases Table.mem_of_mem_insert mem with rfl | mem
  · rfl
  · exact tidy.keyed entry mem

theorem isTidy_ofEntries (entries : List (String × Value)) : (ofEntries entries).IsTidy :=
  List.foldlRecOn entries _ isTidy_empty fun _ tidy entry _ => tidy.insert entry.1 entry.2

/-- Headers are set like the entries of a table under their keys. -/
theorem entries_ofEntries (entries : List (String × Value)) : (ofEntries entries).entries =
    Table.ofEntries (entries.map fun entry => (key entry.1, entry)) := by
  induction entries using List.reverseRecOn with
  | nil => rfl
  | append_singleton entries entry ih =>
    rw [ofEntries_concat, List.map_append, List.map_singleton, Table.ofEntries_concat, ← ih]
    rfl

/-- No two names of headers are the same, so that none is lost in a table of them. -/
theorem IsTidy.table_perm (tidy : headers.IsTidy) :
    headers.table.Perm (headers.entries.map (·.2)) := by
  -- Two entries with one name would have one key.
  refine Table.ofEntries_perm (List.Nodup.of_map key ?_)
  rw [List.map_map, List.map_map]
  have keys := tidy.ordered.nodup_names
  rwa [List.map_congr_left tidy.keyed] at keys

/-- The names and values of headers give the headers back in any order. -/
theorem ofEntries_eq_of_perm (tidy : headers.IsTidy) (perm : entries.Perm headers.table) :
    ofEntries entries = headers := by
  have keyed : (headers.entries.map (·.2)).map (fun entry => (key entry.1, entry)) =
      headers.entries := by
    have same : ∀ entry ∈ headers.entries, (key entry.2.1, entry.2) = entry :=
      fun entry mem => Prod.ext (tidy.keyed entry mem).symm rfl
    rw [List.map_map]
    exact (List.map_congr_left same).trans (List.map_id _)
  have perm' := (perm.trans tidy.table_perm).map fun entry => (key entry.1, entry)
  rw [keyed] at perm'
  have same := entries_ofEntries entries
  rw [Table.ofEntries_eq_of_perm tidy.ordered perm'] at same
  exact congrArg Headers.mk same

end Headers

namespace Exchange

variable {exchange other : Exchange} {text : String} {depth : Nat} {raw : RawJson}

/-! ## Exchanges -/

/-- The exchanges that are built step by step. An exchange whose text names a header several times
is built by setting the header again, whichever of its values is taken last. -/
inductive Built : Exchange → Prop where
  | ofBody (body : Value) : Built (ofBody body)
  | read {text : String} {exchange : Exchange} (given : read? text = some exchange) : Built exchange
  | withExchangeId {exchange : Exchange} (built : Built exchange) (id : String) :
    Built (exchange.withExchangeId id)
  | withMessageId {exchange : Exchange} (built : Built exchange) (id : String) :
    Built (exchange.withMessageId id)
  | withHeader {exchange : Exchange} (built : Built exchange) (name : String) (value : Value) :
    Built (exchange.withHeader name value)
  | withProperty {exchange : Exchange} (built : Built exchange) (name : String) (value : Value) :
    Built (exchange.withProperty name value)

/-- An exchange whose headers are tidy and whose properties are in order. -/
structure IsTidy (exchange : Exchange) : Prop where
  headers : exchange.headers.IsTidy
  properties : exchange.properties.IsOrdered

private theorem isTidy_ofBody (body : Value) : (ofBody body).IsTidy :=
  ⟨Headers.isTidy_empty, List.Pairwise.nil⟩

/-- A field that is read leaves an exchange tidy. -/
theorem IsTidy.setField? {field : Field} (tidy : exchange.IsTidy)
    (set : setField? depth exchange field raw = some other) : other.IsTidy := by
  cases field with
  | exchangeId =>
    obtain ⟨id, -, rfl⟩ := Option.map_eq_some_iff.mp set
    exact ⟨tidy.headers, tidy.properties⟩
  | messageId =>
    obtain ⟨id, -, rfl⟩ := Option.map_eq_some_iff.mp set
    exact ⟨tidy.headers, tidy.properties⟩
  | body =>
    obtain ⟨body, -, rfl⟩ := Option.map_eq_some_iff.mp set
    exact ⟨tidy.headers, tidy.properties⟩
  | headers =>
    obtain ⟨entries, -, rfl⟩ := Option.map_eq_some_iff.mp set
    exact ⟨Headers.isTidy_ofEntries entries, tidy.properties⟩
  | properties =>
    obtain ⟨entries, -, rfl⟩ := Option.map_eq_some_iff.mp set
    exact ⟨tidy.headers, Table.isOrdered_ofEntries entries⟩

theorem IsTidy.setFields? {seen : List Field} {fields : List (List Nat × RawJson)}
    (tidy : exchange.IsTidy) (set : setFields? depth exchange seen fields = some other) :
    other.IsTidy := by
  induction fields generalizing exchange seen with
  | nil =>
    cases set
    exact tidy
  | cons first rest ih =>
    obtain ⟨units, raw⟩ := first
    simp only [Exchange.setFields?, Option.bind_eq_bind, Option.bind_eq_some_iff] at set
    obtain ⟨name, -, set⟩ := set
    split at set
    · exact ih tidy set
    · split_ifs at set
      obtain ⟨next, step, set⟩ := Option.bind_eq_some_iff.mp set
      exact ih (tidy.setField? step) set

theorem IsTidy.setItems? {fields : List Field} {items : List RawJson} (tidy : exchange.IsTidy)
    (set : setItems? depth exchange fields items = some other) : other.IsTidy := by
  induction items generalizing exchange fields with
  | nil =>
    rw [Exchange.setItems?] at set
    cases set
    exact tidy
  | cons item items ih =>
    cases fields with
    | nil => cases set
    | cons field fields =>
      obtain ⟨next, step, set⟩ := Option.bind_eq_some_iff.mp set
      exact ih (tidy.setField? step) set

private theorem isTidy_of_read? (given : read? text = some exchange) : exchange.IsTidy := by
  obtain ⟨raw, -, given⟩ := Option.bind_eq_some_iff.mp given
  cases raw with
  | object fields => exact (isTidy_ofBody .null).setFields? given
  | array items => exact (isTidy_ofBody .null).setItems? given
  | null => cases given
  | boolean b => cases given
  | number n => cases given
  | string points => cases given

/-- Whatever is built is tidy. -/
theorem Built.isTidy (built : exchange.Built) : exchange.IsTidy := by
  induction built with
  | ofBody body => exact isTidy_ofBody body
  | read given => exact isTidy_of_read? given
  | withExchangeId built id ih => exact ⟨ih.headers, ih.properties⟩
  | withMessageId built id ih => exact ⟨ih.headers, ih.properties⟩
  | withHeader built name value ih => exact ⟨ih.headers.insert name value, ih.properties⟩
  | withProperty built name value ih => exact ⟨ih.headers, Table.isOrdered_insert ih.properties⟩

private theorem built_ofEntries (exchangeId messageId : String) (body : Value)
    (headers properties : List (String × Value)) :
    Built ⟨exchangeId, messageId, body, .ofEntries headers, .ofEntries properties⟩ := by
  -- From the last entry to the first, so that each one is a step that sets it.
  induction headers using List.reverseRecOn with
  | nil =>
    induction properties using List.reverseRecOn with
    | nil => exact ((Built.ofBody body).withExchangeId exchangeId).withMessageId messageId
    | append_singleton properties entry ih =>
      rw [Table.ofEntries_concat]
      exact ih.withProperty entry.1 entry.2
  | append_singleton headers entry ih =>
    rw [Headers.ofEntries_concat]
    exact ih.withHeader entry.1 entry.2

/-- The tidy exchanges are those that can be built. -/
theorem built_iff_isTidy : exchange.Built ↔ exchange.IsTidy := by
  refine ⟨Built.isTidy, fun tidy => ?_⟩
  have built := built_ofEntries exchange.exchangeId exchange.messageId exchange.body
    exchange.headers.table exchange.properties
  rwa [Headers.ofEntries_eq_of_perm tidy.headers (.refl _),
    Table.ofEntries_eq_of_perm tidy.properties (.refl _)] at built

end Exchange

end MessageExpr
