import MessageExpr.Exchange
import MessageExpr.Proofs.Table.Ordered

/-!
# Values that were given

Headers and properties that were set one after the other have the value that was given last, where
the case of ASCII letters does not tell names of headers apart.

## Main definitions

* `lastGiven?` — the last value that was given under some names

## Main results

* `Exchange.header_eq`, `Exchange.property_eq` — the values that were given last
-/

namespace MessageExpr

/-- The last value that was given under one of the names that are asked for. -/
def lastGiven? {α : Type} (asked : String → Bool) (given : List (String × α)) : Option α :=
  (given.reverse.find? fun entry => asked entry.1).map (·.2)

private theorem lastGiven?_concat {α : Type} (asked : String → Bool) (given : List (String × α))
    (entry : String × α) : lastGiven? asked (given ++ [entry]) =
      if asked entry.1 then some entry.2 else lastGiven? asked given := by
  rw [lastGiven?, List.reverse_concat, List.find?_cons]
  split <;> simp_all [lastGiven?]

theorem Table.get?_ofEntries {α : Type} (name : String) (given : List (String × α)) :
    get? name (ofEntries given) = lastGiven? (· == name) given := by
  induction given using List.reverseRecOn with
  | nil => rfl
  | append_singleton given entry ih =>
    rw [lastGiven?_concat, ← ih, ofEntries_concat]
    by_cases same : entry.1 = name
    · rw [same, get?_insert_self, if_pos BEq.rfl]
    · rw [get?_insert_of_ne (Ne.symm same), if_neg (by simpa using same)]

namespace Headers

/-- Names of headers have one key when they differ at most in the case of ASCII letters. -/
theorem key_eq_iff (name other : String) :
    key name = key other ↔ Text.sameIgnoringCase name.toList other.toList = true := by
  rw [key, key, String.ofList_inj, Text.sameIgnoringCase, beq_iff_eq]

theorem ofEntries_concat (given : List (String × Value)) (entry : String × Value) :
    ofEntries (given ++ [entry]) = (ofEntries given).insert entry.1 entry.2 := by
  rw [ofEntries, List.foldl_append]
  rfl

theorem get?_ofEntries (name : String) (given : List (String × Value)) :
    (ofEntries given).get? name =
      lastGiven? (fun other => Text.sameIgnoringCase other.toList name.toList) given := by
  induction given using List.reverseRecOn with
  | nil => rfl
  | append_singleton given entry ih =>
    rw [lastGiven?_concat, ← ih, ofEntries_concat, get?, insert]
    by_cases same : key entry.1 = key name
    · rw [same, Table.get?_insert_self, if_pos ((key_eq_iff _ _).mp same)]
      rfl
    · have differ := fun alike => same ((key_eq_iff entry.1 name).mpr alike)
      rw [Table.get?_insert_of_ne (Ne.symm same), if_neg differ]
      rfl

end Headers

namespace Exchange

variable {exchange : Exchange} {given : List (String × Value)}

/-- A header has the value that was given last under its name, whatever the case. -/
theorem header_eq (h : exchange.headers = .ofEntries given) (name : String) :
    exchange.header name = (lastGiven? (fun other =>
      Text.sameIgnoringCase other.toList name.toList) given).getD .null := by
  rw [header, h, Headers.get?_ofEntries]

/-- A property has the value that was given last under exactly its name. -/
theorem property_eq (h : exchange.properties = .ofEntries given) (name : String) :
    exchange.property name = (lastGiven? (· == name) given).getD .null := by
  rw [property, h, Table.get?_ofEntries]

end Exchange

end MessageExpr
