import MessageExpr.Proofs.Json.Nested
import MessageExpr.Value.Json

/-!
# Values read back from JSON text

No type of a value stands in its JSON text, but each kind of value is written as its own kind of
JSON, so that reading gives the value back as long as its lists are not nested too deeply to be read
at all. Doubles are left out: those that are not finite are written as null.

## Main definitions

* `Value.IsPlain` — values without doubles in lists up to some depth

## Main results

* `Value.isReadAs_json` — plain values are read back as their JSON
* `Value.ofJson_json` — the JSON of a plain value denotes it
-/

namespace MessageExpr.Value

open RawJson (IsReadAs)

variable {v : Value} {depth : Nat}

/-- A value without doubles whose lists are nested at most so deeply. -/
inductive IsPlain : Nat → Value → Prop where
  | null (depth : Nat) : IsPlain depth null
  | boolean (depth : Nat) (b : Bool) : IsPlain depth (boolean b)
  | integer (depth : Nat) (n : Int64) : IsPlain depth (integer n)
  | string (depth : Nat) (s : String) : IsPlain depth (string s)
  | list {depth : Nat} {items : List Value} (plain : ∀ item ∈ items, IsPlain depth item) :
    IsPlain (depth + 1) (list items)

theorem IsPlain.mono {other : Nat} (plain : v.IsPlain depth) (le : depth ≤ other) :
    v.IsPlain other := by
  induction plain generalizing other with
  | null => exact .null other
  | boolean _ b => exact .boolean other b
  | integer _ n => exact .integer other n
  | string _ s => exact .string other s
  | @list depth items plain ih =>
    obtain ⟨other, rfl⟩ : ∃ d, other = d + 1 := ⟨other - 1, by omega⟩
    exact .list fun item mem => ih item mem (Nat.le_of_succ_le_succ le)

private theorem jsonItems_eq_map (items : List Value) : jsonItems items = items.map json := by
  induction items with
  | nil => rfl
  | cons item rest ih => rw [jsonItems, ih, List.map_cons]

private theorem ofJsonItems_eq_map (items : List Json) : ofJsonItems items = items.map ofJson := by
  induction items with
  | nil => rfl
  | cons item rest ih => rw [ofJsonItems, ih, List.map_cons]

/-- The text of a plain value is read as JSON text that denotes the value's JSON. -/
theorem isReadAs_json (plain : v.IsPlain depth) :
    ∃ raw, IsReadAs v.json.text.toList raw ∧ raw.check? depth = some v.json := by
  induction plain with
  | null => exact ⟨_, RawJson.isReadAs_null, rfl⟩
  | boolean _ b => exact ⟨_, RawJson.isReadAs_boolean b, rfl⟩
  | integer _ n =>
    refine ⟨.number (.ofInt n.toInt), ?_, ?_⟩
    · exact String.toList_ofList ▸ RawJson.isReadAs_integer n.toInt
    · rw [RawJson.check?, RawJson.checkNumber?_ofInt]
      rfl
  | string _ s =>
    refine ⟨_, RawJson.isReadAs_string s, ?_⟩
    rw [RawJson.check?, RawJson.text?_points]
    rfl
  | @list depth items plain ih =>
    -- What is read for each item makes up what is read for the list, one level further out.
    choose! raw reads checks using ih
    refine ⟨.array (items.map raw), ?_, ?_⟩
    · rw [json, Json.toList_text_array, jsonItems_eq_map, List.map_map]
      exact RawJson.isReadAs_array reads
    · rw [RawJson.check?, if_neg (Nat.succ_ne_zero depth), Nat.add_sub_cancel,
        RawJson.checkItems?_map checks, json, jsonItems_eq_map]
      rfl

private theorem ofJsonNumber_toInt (n : Int64) : ofJsonNumber (.integer n.toInt) = integer n := by
  have fits : Int64.minValue.toInt ≤ n.toInt ∧ n.toInt ≤ Int64.maxValue.toInt :=
    ⟨n.le_toInt, Int.le_of_lt_add_one n.toInt_lt⟩
  rw [ofJsonNumber, Decimal.toWord?, if_pos fits, Int64.ofInt_toInt]

/-- The JSON of a plain value denotes the value. -/
theorem ofJson_json (plain : v.IsPlain depth) : ofJson v.json = v := by
  induction plain with
  | null => rfl
  | boolean _ b => rfl
  | integer _ n => exact ofJsonNumber_toInt n
  | string _ s => rfl
  | @list depth items plain ih =>
    rw [json, ofJson, jsonItems_eq_map, ofJsonItems_eq_map, List.map_map]
    exact congrArg list ((List.map_congr_left ih).trans (List.map_id items))

end MessageExpr.Value
