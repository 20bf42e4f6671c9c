import MessageExpr.Proofs.Exchange.Named
import MessageExpr.Proofs.Exchange.Stored

/-!
# Headers in any order

Headers that are read come from a map of names, whose entries may be gone through in any order. They
are set one after the other in this order, and of names that differ only in the case of ASCII
letters the one that comes last is kept with its value. So the order does not matter exactly when
there are no such names.

## Main definitions

* `Headers.LooksLike` — headers that nobody can tell apart
* `Exchange.headersIn` — the map of headers in the text of an exchange
* `Exchange.ReadsAs` — the exchanges that a text may be read as, with the headers in any order

## Main results

* `Headers.looksLike_iff` — when the order of a map does not matter
* `Exchange.readsAs_of_read?` — reading takes one of the orders
* `Exchange.readsAs_json_of_built` — what was built is read back in all of them
* `Exchange.arranged_iff` — when all orders give the same headers, and the same exchange
-/

namespace MessageExpr

/-- Without a name twice, the order in which a table is set does not matter. -/
theorem Table.ofEntries_eq_of_nodup {α : Type} {entries order : List (String × α)}
    (nodup : (entries.map (·.1)).Nodup) (perm : order.Perm entries) :
    ofEntries order = ofEntries entries :=
  ofEntries_eq_of_perm (isOrdered_ofEntries entries) (perm.trans (ofEntries_perm nodup).symm)

namespace Headers

variable {entries order order' rest : List (String × Value)} {entry other : String × Value}

/-- Headers that nobody can tell apart: not by the value of a name, nor by their number, nor by
what is written of them. -/
structure LooksLike (headers other : Headers) : Prop where
  get? : ∀ name, headers.get? name = other.get? name
  size : headers.size = other.size
  json : Exchange.tableJson headers.table = Exchange.tableJson other.table

theorem LooksLike.refl (headers : Headers) : headers.LooksLike headers :=
  ⟨fun _ => rfl, rfl, rfl⟩

theorem LooksLike.names {headers other : Headers} (alike : headers.LooksLike other) :
    headers.table.map (·.1) = other.table.map (·.1) := by
  have json := alike.json
  simp only [Exchange.tableJson, Json.object.injEq] at json
  have names := congrArg (List.map (·.1)) json
  rwa [List.map_map, List.map_map] at names

/-! ## Maps without names of one header -/

private theorem eq_of_entries {headers other : Headers} (same : headers.entries = other.entries) :
    headers = other :=
  congrArg mk same

/-- Names of different headers may be set in any order. -/
theorem ofEntries_eq_of_nodup (distinct : (entries.map fun entry => key entry.1).Nodup)
    (perm : order.Perm entries) : ofEntries order = ofEntries entries := by
  have nodup : ((entries.map fun entry => (key entry.1, entry)).map (·.1)).Nodup := by
    rwa [List.map_map]
  refine eq_of_entries ?_
  rw [entries_ofEntries, entries_ofEntries]
  exact Table.ofEntries_eq_of_nodup nodup (perm.map _)

/-! ## Names of one header -/

/-- What is set last is there under its own name. -/
theorem mem_names_table_concat (entries : List (String × Value)) (entry : String × Value) :
    entry.1 ∈ (ofEntries (entries ++ [entry])).table.map (·.1) := by
  have last : lastPair? entry.1 (entries ++ [entry]) = some entry := by
    rw [lastPair?, List.reverse_concat, List.find?_cons, isAlike_self]
  exact List.mem_map.mpr ⟨entry, mem_table_ofEntries.mpr last, rfl⟩

/-- What is set last is found in every spelling of its name. -/
theorem get?_concat (entries : List (String × Value)) {name : String}
    (alike : Text.sameIgnoringCase entry.1.toList name.toList = true) :
    (ofEntries (entries ++ [entry])).get? name = some entry.2 := by
  rw [get?_ofEntries, lastGiven?, List.reverse_concat, List.find?_cons, alike]
  rfl

/-- Of two names of one header, only the one that is set last is there. -/
theorem eq_of_looksLike_swap (alike : key entry.1 = key other.1)
    (same : (ofEntries (rest ++ [entry, other])).LooksLike (ofEntries (rest ++ [other, entry]))) :
    entry.1 = other.1 := by
  have first := mem_names_table_concat (rest ++ [other]) entry
  have second := mem_names_table_concat (rest ++ [entry]) other
  rw [List.append_assoc, List.singleton_append] at first second
  rw [← same.names] at first
  obtain ⟨found, mem, name⟩ := List.mem_map.mp first
  obtain ⟨found', mem', name'⟩ := List.mem_map.mp second
  have one := List.inj_on_of_nodup_map (nodup_keys_table _) mem mem' (by rw [name, name', alike])
  rw [← name, ← name', one]

/-- The order of a map does not matter exactly when no two of its names belong to one header. -/
theorem looksLike_iff (names : (entries.map (·.1)).Nodup) :
    (∀ order order', order.Perm entries → order'.Perm entries →
        (ofEntries order).LooksLike (ofEntries order')) ↔
      (entries.map fun entry => key entry.1).Nodup := by
  constructor
  · intro same
    rw [List.nodup_iff_pairwise_ne, List.pairwise_map, List.pairwise_iff_forall_sublist]
    intro entry other both alike
    obtain ⟨rest, perm⟩ := both.exists_perm_append
    have perm : (rest ++ [entry, other]).Perm entries := (perm.trans List.perm_append_comm).symm
    have swapped : (rest ++ [other, entry]).Perm entries :=
      ((List.Perm.swap entry other []).append_left rest).trans perm
    have one := eq_of_looksLike_swap alike (same _ _ perm swapped)
    have distinct := names.sublist (both.map (·.1))
    simp [one] at distinct
  · intro distinct order order' perm perm'
    rw [ofEntries_eq_of_nodup distinct perm, ofEntries_eq_of_nodup distinct perm']
    exact .refl _

end Headers

namespace Exchange

variable {exchange read other : Exchange} {text : String} {depth : Nat} {raw : RawJson}

/-! ## The headers in a text -/

/-- The fields of an exchange in JSON text. -/
def fieldsOf : RawJson → List (Field × RawJson)
  | .object fields => fields.filterMap fun (name, value) =>
    ((RawJson.text? name).bind Field.ofName?).map fun field => (field, value)
  | .array items => Field.all.zip items
  | _ => []

/-- The names and values of the headers in JSON text, each name once. -/
def headerEntries (raw : RawJson) : List (String × Value) :=
  (((fieldsOf raw).lookup .headers).bind (entries? (Json.maxDepth - 1))).getD []

/-- The names and values of the headers in the text of an exchange, each name once. -/
def headersIn (text : String) : List (String × Value) :=
  match RawJson.read? text.toList with
  | some raw => if (ofRaw? raw).isSome then headerEntries raw else []
  | none => []

/-- The exchanges that a text may be read as, when its headers may come in any order. -/
def ReadsAs (text : String) (exchange : Exchange) : Prop :=
  ∃ read order, read? text = some read ∧ order.Perm (headersIn text) ∧
    exchange = { read with headers := .ofEntries order }

/-! ## Reading -/

private theorem headers_of_setField? {field : Field}
    (set : setField? depth exchange field raw = some read) :
    read.headers = if field = .headers then .ofEntries ((entries? depth raw).getD [])
      else exchange.headers := by
  cases field with
  | headers =>
    obtain ⟨entries, given, rfl⟩ := Option.map_eq_some_iff.mp set
    rw [given]
    rfl
  | exchangeId | messageId | body | properties =>
    obtain ⟨_, -, rfl⟩ := Option.map_eq_some_iff.mp set
    rfl

/-- Of fields that are set once each, the headers are those of their field. -/
theorem headers_of_foldlM {given : List (Field × RawJson)} (nodup : (given.map (·.1)).Nodup)
    (set : given.foldlM (fun exchange field => setField? depth exchange field.1 field.2) exchange =
      some read) :
    read.headers = ((given.lookup .headers).map fun raw =>
      Headers.ofEntries ((entries? depth raw).getD [])).getD exchange.headers := by
  induction given generalizing exchange with
  | nil =>
    cases set
    rfl
  | cons first rest ih =>
    obtain ⟨field, raw⟩ := first
    obtain ⟨fresh, nodup⟩ := List.nodup_cons.mp nodup
    rw [List.foldlM_cons] at set
    obtain ⟨next, step, set⟩ := Option.bind_eq_some_iff.mp set
    rw [ih nodup set, headers_of_setField? step, List.lookup_cons]
    by_cases isHeaders : field = .headers
    · subst isHeaders
      have absent : rest.lookup .headers = none := List.lookup_eq_none_iff.mpr fun other mem => by
        simpa using fun same => fresh (List.mem_map.mpr ⟨other, mem, same.symm⟩)
      rw [absent]
      rfl
    · rw [if_neg isHeaders, beq_false_of_ne (Ne.symm isHeaders)]

/-- Setting the fields of an object sets each of them once. -/
theorem foldlM_of_setFields? {seen : List Field} {fields : List (List Nat × RawJson)}
    (set : setFields? depth exchange seen fields = some read) :
    (fieldsOf (.object fields)).foldlM
        (fun exchange field => setField? depth exchange field.1 field.2) exchange = some read ∧
      ((fieldsOf (.object fields)).map (·.1)).Nodup ∧
      ∀ field ∈ (fieldsOf (.object fields)).map (·.1), field ∉ seen := by
  induction fields generalizing exchange seen with
  | nil =>
    cases set
    exact ⟨rfl, List.nodup_nil, by simp [fieldsOf]⟩
  | cons first rest ih =>
    obtain ⟨units, raw⟩ := first
    simp only [setFields?, Option.bind_eq_bind, Option.bind_eq_some_iff] at set
    obtain ⟨name, text, set⟩ := set
    have head : fieldsOf (.object ((units, raw) :: rest)) =
        ((Field.ofName? name).map fun field => (field, raw)).toList ++
          fieldsOf (.object rest) := by
      simp only [fieldsOf, List.filterMap_cons, text, Option.bind_some]
      cases Field.ofName? name <;> rfl
    rw [head]
    split at set
    · rename_i unknown
      rw [unknown]
      exact ih set
    · rename_i field known
      split_ifs at set with again
      obtain ⟨next, step, set⟩ := Option.bind_eq_some_iff.mp set
      obtain ⟨sets, nodup, fresh⟩ := ih set
      simp only [known, Option.map_some, Option.toList_some, List.singleton_append]
      refine ⟨?_, ?_, ?_⟩
      · rw [List.foldlM_cons, step]
        exact sets
      · exact List.nodup_cons.mpr ⟨fun mem => fresh field mem List.mem_cons_self, nodup⟩
      · refine List.forall_mem_cons.mpr ⟨by simpa using again, fun other mem => ?_⟩
        exact fun seen => fresh other mem (List.mem_cons_of_mem field seen)

private theorem map_fst_zip_sublist {α β : Type} (l : List α) (l' : List β) :
    ((l.zip l').map (·.1)).Sublist l := by
  induction l generalizing l' with
  | nil => exact List.Sublist.refl []
  | cons a l ih =>
    cases l' with
    | nil => exact List.nil_sublist _
    | cons b l' => exact (ih l').cons_cons a

/-- Setting fields from the items of an array sets those that have an item. -/
theorem foldlM_of_setItems? {fields : List Field} {items : List RawJson}
    (set : setItems? depth exchange fields items = some read) :
    (fields.zip items).foldlM (fun exchange field => setField? depth exchange field.1 field.2)
      exchange = some read := by
  induction items generalizing exchange fields with
  | nil =>
    rw [setItems?] at set
    rw [List.zip_nil_right]
    exact set
  | cons item items ih =>
    cases fields with
    | nil => cases set
    | cons field fields =>
      obtain ⟨next, step, set⟩ := Option.bind_eq_some_iff.mp set
      rw [List.zip_cons_cons, List.foldlM_cons, step]
      exact ih set

private theorem headers_of_ofRaw? (given : ofRaw? raw = some read) :
    read.headers = .ofEntries (headerEntries raw) := by
  have fields : (fieldsOf raw).foldlM
      (fun exchange field => setField? (Json.maxDepth - 1) exchange field.1 field.2) empty =
        some read ∧ ((fieldsOf raw).map (·.1)).Nodup := by
    cases raw with
    | object fields => exact (foldlM_of_setFields? given).imp_right And.left
    | array items =>
      refine ⟨foldlM_of_setItems? given, ?_⟩
      exact (map_fst_zip_sublist Field.all items).nodup (by decide)
    | null | boolean _ | number _ | string _ => cases given
  rw [headers_of_foldlM fields.2 fields.1, headerEntries]
  cases (fieldsOf raw).lookup .headers <;> rfl

private theorem headersIn_eq (wellFormed : RawJson.read? text.toList = some raw)
    (isRead : ofRaw? raw = some read) : headersIn text = headerEntries raw := by
  simp only [headersIn, wellFormed, isRead, Option.isSome_some, if_true]

/-- Reading takes the entries of the headers in one of the orders. -/
theorem readsAs_of_read? (given : read? text = some exchange) : ReadsAs text exchange := by
  obtain ⟨raw, wellFormed, isRead⟩ := Option.bind_eq_some_iff.mp given
  refine ⟨exchange, headersIn text, given, .refl _, ?_⟩
  rw [headersIn_eq wellFormed isRead, ← headers_of_ofRaw? isRead]

/-! ## The order of the headers -/

private theorem nodup_names_of_entries? {entries : List (String × Value)}
    (given : entries? depth raw = some entries) : (entries.map (·.1)).Nodup := by
  unfold entries? at given
  split at given
  · split_ifs at given
    obtain ⟨fields, -, rfl⟩ := Option.map_eq_some_iff.mp given
    rw [List.map_map]
    exact (Table.isOrdered_ofEntries fields).nodup_names
  · cases given

/-- The map of headers in a text has no name twice. -/
theorem nodup_names_headersIn (text : String) : ((headersIn text).map (·.1)).Nodup := by
  unfold headersIn headerEntries
  split
  · rename_i raw _
    split_ifs
    · cases given : ((fieldsOf raw).lookup .headers).bind (entries? (Json.maxDepth - 1)) with
      | none => exact List.nodup_nil
      | some entries =>
        obtain ⟨value, -, given⟩ := Option.bind_eq_some_iff.mp given
        exact nodup_names_of_entries? given
    · exact List.nodup_nil
  · exact List.nodup_nil

private theorem headersIn_of_read?_eq_none (unread : read? text = none) : headersIn text = [] := by
  unfold headersIn
  split
  · rename_i raw wellFormed
    rw [read?, wellFormed, Option.bind_some] at unread
    rw [unread]
    rfl
  · rfl

/-- A text is read as one exchange exactly when no two names in its headers belong to one header. -/
theorem readsAs_iff : (∀ exchange exchange', ReadsAs text exchange → ReadsAs text exchange' →
      exchange = exchange') ↔ ((headersIn text).map fun entry => Headers.key entry.1).Nodup := by
  constructor
  · intro same
    cases given : read? text with
    | none =>
      rw [headersIn_of_read?_eq_none given]
      exact List.nodup_nil
    | some read =>
      refine (Headers.looksLike_iff (nodup_names_headersIn text)).mp ?_
      intro order order' perm perm'
      have one := same _ _ ⟨read, order, given, perm, rfl⟩ ⟨read, order', given, perm', rfl⟩
      have headers : Headers.ofEntries order = .ofEntries order' := congrArg Exchange.headers one
      rw [headers]
      exact .refl _
  · rintro distinct _ _ ⟨read, order, given, perm, rfl⟩ ⟨read', order', given', perm', rfl⟩
    obtain rfl : read = read' := Option.some.inj (given.symm.trans given')
    rw [Headers.ofEntries_eq_of_nodup distinct perm, Headers.ofEntries_eq_of_nodup distinct perm']

/-! ## Reading what was written -/

private theorem fieldsOf_map (fields : List Field) (raw : Field → RawJson) :
    fieldsOf (.object (fields.map fun field => (RawJson.points field.name, raw field))) =
      fields.map fun field => (field, raw field) := by
  simp [fieldsOf, List.filterMap_map, RawJson.text?_points, ofName?_name]

private theorem headerEntries_map {fields : List Field} {raw : Field → RawJson}
    {table : Table Value} (given : .headers ∈ fields)
    (read : entries? (Json.maxDepth - 1) (raw .headers) = some table) :
    headerEntries (.object (fields.map fun field => (RawJson.points field.name, raw field))) =
      table := by
  rw [headerEntries, fieldsOf_map, List.lookup_graph raw given, Option.bind_some, read,
    Option.getD_some]

/-- A tidy exchange is read back in every layout, and as no other one, whatever order the map of
its headers is gone through in. -/
theorem readsAs_layout_iff (tidy : exchange.IsTidy) (plain : exchange.IsPlain (Json.maxDepth - 2))
    (layout : exchange.Layout) : ReadsAs layout.json.text other ↔ other = exchange := by
  have whole := read?_layout tidy plain layout
  constructor
  · rintro ⟨read, order, given, perm, rfl⟩
    obtain ⟨raw, wellFormed, isRead, table⟩ := exists_raw_layout tidy plain layout
    have mem : .headers ∈ layout.fields := layout.fields_perm.mem_iff.mpr (by decide)
    have headers : headersIn layout.json.text = exchange.headers.table :=
      (headersIn_eq wellFormed isRead).trans (headerEntries_map mem table)
    obtain rfl : exchange = read := Option.some_inj.mp (whole.symm.trans given)
    rw [Headers.ofEntries_eq_of_perm tidy.headers (headers ▸ perm)]
  · rintro rfl
    exact readsAs_of_read? whole

/-- However the map of the headers is gone through, an exchange that was built is what its JSON text
is read as, and nothing else is. -/
theorem readsAs_json_of_built (built : exchange.Built) (plain : exchange.IsPlain depth)
    (shallow : depth + 2 ≤ Json.maxDepth) (layout : exchange.Layout) :
    ReadsAs layout.json.text other ↔ other = exchange :=
  readsAs_layout_iff built.isTidy (plain.mono (Nat.le_sub_of_add_le shallow)) layout

/-- A text with nothing but headers, in any order, is read as the table of their names. -/
theorem read?_headers {table : Table Value} {entries : List (String × Value)}
    (ordered : table.IsOrdered) (perm : entries.Perm table)
    (plain : ∀ entry ∈ table, entry.2.IsPlain (Json.maxDepth - 2)) :
    read? (Json.object [("headers", tableJson entries)]).text =
        some { empty with headers := .ofEntries table } ∧
      headersIn (Json.object [("headers", tableJson entries)]).text = table := by
  obtain ⟨raw, reads, given⟩ := entries?_of_perm ordered perm plain
  -- One level is taken by the exchange and one by the headers.
  have given : entries? (Json.maxDepth - 1) raw = some table := given
  have written : [("headers", tableJson entries)] =
      [Field.headers].map fun field => (field.name, tableJson entries) := rfl
  have wellFormed := @read?_fields [.headers] _ _ fun _ => reads
  have isRead : ofRaw? (.object ([Field.headers].map fun field =>
      (RawJson.points field.name, raw))) = some { empty with headers := .ofEntries table } := by
    simp [ofRaw?, setFields?, RawJson.text?_points, ofName?_name, setField?, given]
  rw [written]
  refine ⟨?_, (headersIn_eq wellFormed isRead).trans (headerEntries_map List.mem_cons_self given)⟩
  rw [read?, wellFormed, Option.bind_some, isRead]

/-- The order in which the entries of a map are set does not matter to its headers exactly when no
two of its names differ only in the case of ASCII letters. A text is read as one exchange, which is
then the same in every order, exactly when this is so of the headers in it. -/
theorem arranged_iff (entries : List (String × Value)) (names : (entries.map (·.1)).Nodup)
    (text : String) :
    ((∀ order order', order.Perm entries → order'.Perm entries →
        (Headers.ofEntries order).LooksLike (Headers.ofEntries order')) ↔
      (entries.map fun entry => Headers.key entry.1).Nodup) ∧
    (∀ exchange, read? text = some exchange → ReadsAs text exchange) ∧
    ((∀ exchange exchange', ReadsAs text exchange → ReadsAs text exchange' →
        exchange = exchange') ↔
      ((headersIn text).map fun entry => Headers.key entry.1).Nodup) :=
  ⟨Headers.looksLike_iff names, fun _ => readsAs_of_read?, readsAs_iff⟩

/-- Headers of different names look alike in either order. -/
theorem arranged_iff_different :
    ([("Type", Value.string "gold"), ("size", Value.integer 2)].map (·.1)).Nodup ∧
      (Headers.ofEntries [("Type", .string "gold"), ("size", .integer 2)]).LooksLike
        (Headers.ofEntries [("size", .integer 2), ("Type", .string "gold")]) := by
  have names : ([("Type", Value.string "gold"), ("size", Value.integer 2)].map (·.1)).Nodup := by
    decide
  have distinct : ([("Type", Value.string "gold"), ("size", Value.integer 2)].map fun entry =>
      Headers.key entry.1).Nodup := by
    decide +kernel
  exact ⟨names, (arranged_iff _ names "").1.mpr distinct _ _ (.refl _) (.swap _ _ _)⟩

/-- A header that a text names in both cases has either value, depending on the order. -/
theorem readsAs_either :
    ∃ read read', ReadsAs "\x7b\"headers\":\x7b\"A\":1,\"a\":2\x7d\x7d" read ∧
      ReadsAs "\x7b\"headers\":\x7b\"A\":1,\"a\":2\x7d\x7d" read' ∧
      read.headers = .ofEntries [("A", .integer 1), ("a", .integer 2)] ∧
      read.headers.get? "A" = some (.integer 2) ∧
      read'.headers = .ofEntries [("a", .integer 2), ("A", .integer 1)] ∧
      read'.headers.get? "A" = some (.integer 1) := by
  have text : "\x7b\"headers\":\x7b\"A\":1,\"a\":2\x7d\x7d" =
      (Json.object [("headers", tableJson [("A", .integer 1), ("a", .integer 2)])]).text := by
    decide +kernel
  have ordered : Table.IsOrdered [("A", Value.integer 1), ("a", .integer 2)] := by
    refine List.pairwise_cons.mpr ⟨?_, List.pairwise_singleton _ _⟩
    rintro _ (_ | ⟨_, ⟨⟩⟩)
    decide +kernel
  obtain ⟨given, map⟩ := read?_headers ordered (.refl _) (by
    rintro _ (_ | ⟨_, _ | ⟨_, ⟨⟩⟩⟩) <;> exact .integer _ _)
  rw [text]
  -- The text is read as the map of both names, which is then gone through from either end.
  refine ⟨{ empty with headers := .ofEntries [("A", .integer 1), ("a", .integer 2)] },
    { empty with headers := .ofEntries [("a", .integer 2), ("A", .integer 1)] },
    ⟨_, _, given, ?_, rfl⟩, ⟨_, _, given, ?_, rfl⟩, rfl, ?_, rfl, ?_⟩
  · rw [map]
  · rw [map]
    exact .swap _ _ _
  · exact Headers.get?_concat [("A", .integer 1)] (by decide +kernel)
  · exact Headers.get?_concat [("a", .integer 2)] (by decide +kernel)

end Exchange

end MessageExpr
