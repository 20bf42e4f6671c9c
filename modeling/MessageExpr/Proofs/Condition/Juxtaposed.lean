import MessageExpr.Proofs.Condition.Reads

/-!
# Conditions side by side

Two conditions with a space between them are a condition again, whose nodes are those of the first
one followed by those of the second one, at their later places.

## Main results

* `reads_juxtaposed` — the steps over two conditions side by side
* `parse_juxtaposed` — the nodes of two conditions side by side
-/

namespace MessageExpr.Condition

variable {escapes : Bool}

/-- Steps over two conditions are read side by side, with a step over the space between them. -/
theorem reads_juxtaposed {t t' : List Char} {steps steps' : List Step} (path : Path true steps)
    (reads : Reads escapes t 0 steps t.length) (reads' : Reads escapes t' 0 steps' t'.length) :
    Reads escapes (t ++ ' ' :: t') 0
      (steps ++ ⟨[], Token.space ' ' t.length⟩ ::
        steps'.map (Step.relocated (· + (t.length + 1))))
      (t ++ ' ' :: t').length := by
  have space : ' ' ∈ Token.spaces := by decide
  have first : Reads escapes (t ++ ' ' :: t') 0 steps t.length :=
    reads.followed path.kind_getLast? (Token.edge_cons space t')
  have between : Reads escapes (t ++ [' '] ++ t') t.length _ (t ++ [' ']).length :=
    reads_spaces (by simpa using space) t t'
  have both := between.append (reads'.preceded (Token.edge_append space t))
  rw [List.append_assoc, List.length_append] at both
  exact first.append both

/-- Operators of nodes side by side get the operands that they have in each list for itself. -/
theorem linkOperators_append {front back nodes nodes' : List Node}
    (h : linkOperators front = .ok nodes) (h' : linkOperators back = .ok nodes') :
    linkOperators (front ++ back) = .ok (nodes ++ nodes') := by
  obtain ⟨unary, binary, linkedUnary, linkedBinary, linkedLogical⟩ := linkOperators_eq_ok.mp h
  obtain ⟨unary', binary', linkedUnary', linkedBinary', linkedLogical'⟩ :=
    linkOperators_eq_ok.mp h'
  exact linkOperators_eq_ok.mpr ⟨_, _, linkUnary_append linkedUnary linkedUnary',
    linkInfix_append linkedBinary linkedBinary', linkInfix_append linkedLogical linkedLogical'⟩

/-- Two conditions with a space between them are read as the nodes of the first one followed by
those of the second one, at their later places. -/
theorem parse_juxtaposed {text text' : String} {nodes nodes' : List Node}
    (h : parse escapes text = .ok nodes) (h' : parse escapes text' = .ok nodes') :
    parse escapes (text ++ " " ++ text') =
      .ok (nodes ++ nodes'.map (Node.shifted (text.length + 1))) := by
  obtain ⟨steps, flat, path, reads, -, row, linked⟩ := exists_path_of_parse h
  obtain ⟨steps', flat', path', reads', -, row', linked'⟩ := exists_path_of_parse h'
  have together := reads_juxtaposed path reads reads'
  have spaced : Spaced (⟨[], Token.space ' ' text.toList.length⟩ ::
      steps'.map (Step.relocated (· + (text.toList.length + 1)))) := by
    rintro _ ⟨⟩
    exact ⟨rfl, rfl⟩
  have path := path.append spaced (.space rfl (path'.relocated _))
  have text_eq : (text ++ " " ++ text').toList = text.toList ++ ' ' :: text'.toList := by simp
  rw [← text_eq] at together
  have gap : (Token.space ' ' text.toList.length).kind = .whitespace := rfl
  have row := row.append (.space gap (row'.relocated (· + (text.toList.length + 1))))
  have tokens : (steps ++ ⟨[], Token.space ' ' text.toList.length⟩ ::
      steps'.map (Step.relocated (· + (text.toList.length + 1)))).map Step.token = _ :=
    List.map_append
  rw [List.map_cons, tokens_relocated] at tokens
  rw [parse_of_isRow (tokens_of_reads path together) (tokens ▸ row),
    linkOperators_append linked (linkOperators_relocated _ linked'), Node.shifted_eq_relocated,
    String.length_toList]

end MessageExpr.Condition
