import MessageExpr.Proofs.Cursor.Recorded
import MessageExpr.Proofs.Except
import MessageExpr.Template

/-!
# Where reading a template goes wrong

A walk over a template gives up only where the unary operator after a function is glued to what
follows it, and then it has recorded the token that follows. All that is found wrong after the walk
is at a token as well, because it is found in nodes that were made from the tokens.

## Main definitions

* `Template.runStop` — the cursor with which a walk ends, also when it gives up
* `Template.recorded` — the tokens that are recorded when a template is read

## Main results

* `Template.placed_of_run` — the walk
* `Template.traced_pieces` — the pieces of tokens
* `Template.readFrom_parse` — reading a template
-/

namespace MessageExpr.Template

/-! ## Where a walk ends -/

/-- Where a walk ends, at the end of the text or at the token that is glued to an operator. -/
def runStop (c : Cursor) : Cursor :=
  if atEnd : c.atEnd then c
  else
    match skipped : c.skipFunction? with
    | some d =>
      match after : afterFunction d.next with
      | .error _ => d.next.next
      | .ok e =>
        have := todo_lt_of_afterFunction (by simpa using atEnd) skipped after
        runStop e
    | none =>
      have := Cursor.todo_nextOf_lt (c := c) (by simpa using atEnd) []
      runStop c.next
termination_by c.todo

/-- The tokens that are recorded when a template is read, also when it is refused. -/
def recorded (escapes : Bool) (text : String) : List Token :=
  (runStop (Cursor.start escapes text).next).tokens.toList

section runStop

variable {c d e : Cursor}

private theorem runStop_of_atEnd (h : c.atEnd = true) : runStop c = c := by
  rw [runStop, dif_pos h]

private theorem runStop_of_error (h : ¬c.atEnd = true) {p : Problem}
    (skipped : c.skipFunction? = some d)
    (after : afterFunction d.next = .error p) : runStop c = d.next.next := by
  rw [runStop, dif_neg h]
  split
  · rename_i d' skipped'
    obtain rfl : d = d' := Option.some.inj (skipped.symm.trans skipped')
    split <;> simp_all
  · simp_all

private theorem runStop_of_ok (h : ¬c.atEnd = true) (skipped : c.skipFunction? = some d)
    (after : afterFunction d.next = .ok e) : runStop c = runStop e := by
  rw [runStop, dif_neg h]
  split
  · rename_i d' skipped'
    obtain rfl : d = d' := Option.some.inj (skipped.symm.trans skipped')
    split <;> simp_all
  · simp_all

private theorem runStop_of_none (h : ¬c.atEnd = true) (skipped : c.skipFunction? = none) :
    runStop c = runStop c.next := by
  rw [runStop, dif_neg h]
  split <;> simp_all

private theorem runStop_of_run (h : run c = .ok d) : runStop c = d := by
  fun_induction run c with
  | case1 c atEnd =>
    cases h
    exact runStop_of_atEnd atEnd
  | case2 => cases h
  | case3 c atEnd d skipped e after _ ih => exact (runStop_of_ok atEnd skipped after).trans (ih h)
  | case4 c atEnd skipped _ ih => exact (runStop_of_none atEnd skipped).trans (ih h)

private theorem before_runStop (c : Cursor) : c.Before (runStop c) := by
  fun_induction runStop c with
  | case1 => exact .refl _
  | case2 c _ d skipped =>
    exact (Cursor.before_of_skipFunction? skipped).trans (d.before_next.trans d.next.before_next)
  | case3 c _ d skipped e after _ ih =>
    have past := (Cursor.before_of_skipFunction? skipped).trans d.before_next
    rcases before_of_afterFunction after with rfl | ⟨-, rfl⟩
    · exact past.trans ih
    · exact past.trans (d.next.before_next.trans ih)
  | case4 c _ _ _ ih => exact c.before_next.trans ih

end runStop

variable {escapes : Bool} {text : String} {p : Problem}

/-- Where nothing is refused all tokens are recorded. -/
theorem recorded_of_tokens {found : List Token} (h : tokens escapes text = .ok found) :
    recorded escapes text = found := by
  obtain ⟨d, walked, made⟩ := bind_eq_ok.mp h
  obtain rfl := pure_eq_ok.mp made
  rw [recorded, runStop_of_run walked]

/-! ## What the walk finds wrong -/

/-- A walk gives up at the token that is glued to an operator, which is recorded. -/
theorem placed_of_run {c : Cursor} (reached : (Cursor.start escapes text).Before c)
    (h : run c = .error p) : p.Placed (runStop c).tokens.toList text.length := by
  fun_induction run c with
  | case1 => cases h
  | case2 c atEnd d skipped problem after =>
    cases h
    rw [runStop_of_error atEnd skipped after]
    have past := (Cursor.before_of_skipFunction? skipped).trans d.before_next
    unfold afterFunction at after
    split at after
    · cases after
    · split at after
      · cases after
      · exact d.next.hasRead_next.placed_of_expect
          (reached.trans (past.trans d.next.before_next)) (error_of_bind_pure after)
  | case3 c atEnd d skipped e after _ ih =>
    have past := (Cursor.before_of_skipFunction? skipped).trans d.before_next
    rw [runStop_of_ok atEnd skipped after]
    rcases before_of_afterFunction after with rfl | ⟨-, rfl⟩
    · exact ih (reached.trans past) h
    · exact ih (reached.trans (past.trans d.next.before_next)) h
  | case4 c atEnd skipped _ ih =>
    rw [runStop_of_none atEnd skipped]
    exact ih (reached.trans c.before_next) h

/-! ## What is found wrong after the walk -/

/-- The pieces of tokens are made, or the problem is at one of them. -/
theorem traced_pieces {P : Token → Prop} {opened : List Nat} {closed : Bool}
    {tokens : List Token} (functions : ∀ index ∈ opened, ∃ token, P token ∧ token.index = index)
    (h : ∀ token ∈ tokens, P token) :
    Traced P (fun l => ∀ p ∈ l, Piece.MadeFrom P p) (pieces opened closed tokens) := by
  fun_induction pieces opened closed tokens with
  | case1 => exact List.forall_mem_nil _
  | case2 => exact ⟨rfl, functions _ (by simp)⟩
  | case3 opened closed token rest _ ih =>
    obtain ⟨here, rest⟩ := List.forall_mem_cons.mp h
    have opens := List.forall_mem_cons.mpr ⟨⟨token, here, rfl⟩, functions⟩
    exact Piece.traced_cons (.block here (by simp)) (ih opens rest)
  | case4 opened closed token rest _ _ ih =>
    obtain ⟨here, rest⟩ := List.forall_mem_cons.mp h
    have still := fun index mem => functions index (List.mem_of_mem_tail mem)
    exact Piece.traced_cons (.closing here) (ih still rest)
  | case5 opened closed token rest _ _ _ ih =>
    obtain ⟨here, rest⟩ := List.forall_mem_cons.mp h
    exact Piece.traced_cons_node (Node.traced_ofUnary here) (ih functions rest)
  | case6 opened closed token rest _ _ _ ih =>
    obtain ⟨here, rest⟩ := List.forall_mem_cons.mp h
    exact Piece.traced_cons here (ih functions rest)

/-! ## Reading a template -/

private theorem placed_of_tokens (h : tokens escapes text = .error p) :
    p.Placed (recorded escapes text) text.length :=
  placed_of_run (Cursor.start escapes text).before_next (error_of_bind_pure h)

/-- A template is read from the recorded tokens, and refused at one of them. -/
theorem readFrom_parse (escapes : Bool) (text : String) :
    ReadFrom (recorded escapes text) text (parse escapes text) := by
  refine .of_tokens ?_ (fun _ => placed_of_tokens) (fun _ => recorded_of_tokens) fun found => ?_
  · exact Cursor.index_lt_of_before ((Cursor.before_next _).trans (before_runStop _))
  · have all : Traced (· ∈ found) _ (pieces [] false found) :=
      traced_pieces (by simp) fun _ mem => mem
    exact all.bind fun _ made =>
      (traced_linkBlocks (Piece.madeFrom_gather made)).bind fun _ made => traced_linkUnary made

end MessageExpr.Template
