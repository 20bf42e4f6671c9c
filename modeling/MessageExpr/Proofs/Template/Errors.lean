import MessageExpr.Proofs.Template.Row

/-!
# What is wrong with a template

A template can be wrong in two ways only, and its tokens tell which: something is glued to the
operator after a function, or a function is left open. The walk over the text finds the first kind,
and only where it finds nothing is the second kind looked for. When the tokens have become nodes,
nothing can go wrong any more.

## Main results

* `row_of_parse` — whatever is read as a template is the linked nodes of a row
* `parse_eq_error_iff` — when a template cannot be read, and what the problem is
-/

namespace MessageExpr.Template

variable {escapes : Bool} {text : String}

/-- The end of a text opens and closes nothing. -/
theorem openAfter_dropLast (escapes : Bool) (text : String) :
    openAfter [] (tokenize escapes text).dropLast = openAfter [] (tokenize escapes text) := by
  obtain ⟨found, place, same, -⟩ := exists_tokensFrom_eq escapes text.toList 0
  rw [tokenize, same, List.dropLast_concat, openAfter, openAfter, List.foldl_append]
  rfl

theorem isRead_of_mem_dropLast : ∀ token ∈ (tokenize escapes text).dropLast, token.IsRead := by
  obtain ⟨found, place, same, -, read⟩ := exists_tokensFrom_eq escapes text.toList 0
  rwa [tokenize, same, List.dropLast_concat]

/-! ## The outcomes -/

theorem parse_of_glued {found : Token} (h : firstGlued? 0 (tokenize escapes text) = some found) :
    parse escapes text = .error ⟨.expected .whitespace found, found.index⟩ := by
  rw [parse, tokens_eq, h]
  rfl

section outcomes

variable (apart : firstGlued? 0 (tokenize escapes text) = none)

include apart

theorem parse_of_open {start : Token} {outer : List Token}
    (h : openAfter [] (tokenize escapes text) = start :: outer) :
    parse escapes text = .error ⟨.unended .function, start.index⟩ := by
  have made := pieces_eq (@isRead_of_mem_dropLast escapes text) [] false
  rw [openAfter_dropLast, h] at made
  rw [parse, tokens_eq, apart]
  simp only [bind, Except.bind]
  rw [List.map_nil] at made
  rw [made]

theorem exists_parse_of_row {flat : List Node}
    (row : Row false (tokenize escapes text).dropLast flat) :
    ∃ nodes, linkUnary flat = .ok nodes ∧ parse escapes text = .ok nodes := by
  obtain ⟨front, made, blocks⟩ := row.blocks
  obtain ⟨nodes, linked⟩ := row.exists_linkUnary
  refine ⟨nodes, linked, ?_⟩
  rw [parse, tokens_eq, apart]
  simp only [bind, Except.bind, made, blocks, linked]

theorem exists_row_of_apart (h : openAfter [] (tokenize escapes text) = []) :
    ∃ flat nodes, Row false (tokenize escapes text).dropLast flat ∧ linkUnary flat = .ok nodes ∧
      parse escapes text = .ok nodes := by
  rw [← openAfter_dropLast] at h
  obtain ⟨flat, row⟩ := exists_row isRead_of_mem_dropLast h false
  obtain ⟨nodes, linked, parsed⟩ := exists_parse_of_row apart row
  exact ⟨flat, nodes, row, linked, parsed⟩

end outcomes

/-- Where a template is read, nothing is glued to an operator and no function is left open. -/
theorem apart_of_parse {nodes : List Node} (h : parse escapes text = .ok nodes) :
    firstGlued? 0 (tokenize escapes text) = none ∧ openAfter [] (tokenize escapes text) = [] := by
  cases first : firstGlued? 0 (tokenize escapes text) with
  | some found =>
    rw [parse_of_glued first] at h
    cases h
  | none =>
    cases opened : openAfter [] (tokenize escapes text) with
    | cons start outer =>
      rw [parse_of_open first opened] at h
      cases h
    | nil => exact ⟨rfl, rfl⟩

/-- Whatever is read as a template is the linked nodes of a row. -/
theorem row_of_parse {nodes : List Node} (h : parse escapes text = .ok nodes) :
    ∃ flat, Row false (tokenize escapes text).dropLast flat ∧ linkUnary flat = .ok nodes := by
  obtain ⟨apart, closed⟩ := apart_of_parse h
  obtain ⟨flat, nodes', row, linked, parsed⟩ := exists_row_of_apart apart closed
  obtain rfl : nodes' = nodes := Except.ok.inj (parsed.symm.trans h)
  exact ⟨flat, row, linked⟩

/-- What is expected is named, and what was found is shown. -/
theorem message_expected {found : Token} (notEnd : found.isEnd = false) (kind : TokenKind) :
    (Fault.expected kind found).message =
      "expected symbol " ++ kind.name ++ " but was " ++ found.text := by
  have shown : found.shown = found.text := by
    rw [Token.shown, notEnd]
    exact if_neg Bool.false_ne_true
  rw [← shown]
  exact if_neg (by simp [notEnd])

private theorem message_glued {found : Token} (notEnd : found.isEnd = false) :
    (Fault.expected .whitespace found).message =
      "expected symbol whitespace but was " ++ found.text := by
  have name : "expected symbol " ++ TokenKind.whitespace.name ++ " but was " =
      "expected symbol whitespace but was " := by simp [TokenKind.name]
  rw [message_expected notEnd, name]

/-- When the tokens of a template have become pieces, blocks and operators can be linked. -/
theorem exists_linked_of_pieces {found : List Token} {flat : List Piece}
    (walked : tokens escapes text = .ok found) (made : pieces [] false found = .ok flat) :
    ∃ blocks nodes, linkBlocks (Piece.gather flat) = .ok blocks ∧
      linkUnary blocks = .ok nodes := by
  rw [tokens_eq] at walked
  split at walked
  · cases walked
  · obtain rfl := Except.ok.inj walked
    have outcome := pieces_eq (@isRead_of_mem_dropLast escapes text) [] false
    rw [List.map_nil, made] at outcome
    split at outcome
    · rename_i balanced
      obtain ⟨blocks, row⟩ := exists_row isRead_of_mem_dropLast balanced false
      obtain ⟨front, made', linked⟩ := row.blocks
      obtain rfl : flat = front := Except.ok.inj (made.symm.trans made')
      obtain ⟨nodes, operated⟩ := row.exists_linkUnary
      exact ⟨blocks, nodes, linked, operated⟩
    · cases outcome

/-- A template cannot be read when something is glued to an operator or a function is left open. -/
theorem exists_error_iff :
    (∃ p, parse escapes text = .error p) ↔
      (∃ place found, GluedAt [] (tokenize escapes text) place found) ∨
        openAfter [] (tokenize escapes text) ≠ [] := by
  constructor
  · rintro ⟨p, failed⟩
    cases first : firstGlued? 0 (tokenize escapes text) with
    | some found =>
      obtain ⟨place, glued, -⟩ := (@firstGlued?_eq_some_iff [] _ _).mp first
      exact .inl ⟨place, found, glued⟩
    | none =>
      refine .inr fun balanced => ?_
      obtain ⟨flat, nodes, -, -, parsed⟩ := exists_row_of_apart first balanced
      cases failed.symm.trans parsed
  · rintro (⟨place, found, glued⟩ | opened)
    · obtain ⟨first, other, least⟩ := exists_firstGluedAt glued
      exact ⟨_, parse_of_glued (firstGlued?_eq_some_iff.mpr ⟨first, least⟩)⟩
    · obtain ⟨start, outer, opened⟩ := List.exists_cons_of_ne_nil opened
      cases first : firstGlued? 0 (tokenize escapes text) with
      | some found => exact ⟨_, parse_of_glued first⟩
      | none => exact ⟨_, parse_of_open first opened⟩

/-- A template cannot be read when something is glued to the operator after a function outside of
others, or when a function is left open. The problem is at the first token that is glued or, where
none is, at the innermost function that is open. When the tokens have become pieces, blocks and
operators can always be linked. -/
theorem parse_eq_error_iff (escapes : Bool) (text : String) :
    ((∃ p, parse escapes text = .error p) ↔
        (∃ place found, GluedAt [] (tokenize escapes text) place found) ∨
          openAfter [] (tokenize escapes text) ≠ []) ∧
      (∀ place found, FirstGluedAt [] (tokenize escapes text) place found →
        ∃ p, parse escapes text = .error p ∧ p.index = found.index ∧
          p.fault.message = "expected symbol whitespace but was " ++ found.text) ∧
      ((∀ place found, ¬GluedAt [] (tokenize escapes text) place found) →
        ∀ start outer, openAfter [] (tokenize escapes text) = start :: outer →
          ∃ p, parse escapes text = .error p ∧ p.index = start.index ∧
            p.fault.message = "function has no ending token") ∧
      ∀ found flat, tokens escapes text = .ok found → pieces [] false found = .ok flat →
        ∃ blocks nodes, linkBlocks (Piece.gather flat) = .ok blocks ∧
          linkUnary blocks = .ok nodes := by
  refine ⟨exists_error_iff, ?_, ?_, fun _ _ walked made => exists_linked_of_pieces walked made⟩
  · intro place found first
    refine ⟨_, parse_of_glued (firstGlued?_eq_some_iff.mpr ⟨place, first⟩), rfl, ?_⟩
    exact message_glued first.1.notEnd
  · intro apart start outer opened
    exact ⟨_, parse_of_open (firstGlued?_eq_none_iff.mpr apart) opened, rfl, rfl⟩

/-- Of two things that are wrong the glued token is found, though the function is open before it. -/
theorem parse_eq_error_iff_operators :
    (∃ p, parse false "$\x7ba\x7d++b$\x7bc" = .error p ∧ p.index = 6 ∧
        p.fault.message = "expected symbol whitespace but was b") ∧
      ∃ p, parse false "$\x7ba\x7d++ $\x7bb$\x7bc\x7d" = .error p ∧ p.index = 7 ∧
        p.fault.message = "function has no ending token" := by
  constructor
  · have first : firstGlued? 0 (tokenize false "$\x7ba\x7d++b$\x7bc") =
        some ⟨.character, "b", 6, 1⟩ := by
      decide +kernel
    obtain ⟨place, glued⟩ := (@firstGlued?_eq_some_iff [] _ _).mp first
    exact (parse_eq_error_iff false _).2.1 place _ glued
  · have apart : firstGlued? 0 (tokenize false "$\x7ba\x7d++ $\x7bb$\x7bc\x7d") = none := by
      decide +kernel
    have opened : openAfter [] (tokenize false "$\x7ba\x7d++ $\x7bb$\x7bc\x7d") =
        [⟨.functionStart, "$\x7b", 7, 2⟩] := by
      decide +kernel
    exact (parse_eq_error_iff false _).2.2.1
      ((@firstGlued?_eq_none_iff [] _).mp apart) _ _ opened

end MessageExpr.Template
