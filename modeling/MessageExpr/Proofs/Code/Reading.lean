import MessageExpr.Proofs.Code.Formula
import MessageExpr.Proofs.Code.Render

/-!
# What is read from the code of conditions

The code of a condition is read as the formula of the node it was written for: nested operators
stand between parentheses, so that an operand is read as one formula wherever it stands.

## Main definitions

* `Node.formula` — the operators of a node over its leaves
* `IsOperand`, `IsClause` — signs that are read as one operand, and as one clause

## Main results

* `exists_clause` — the code of a condition is read as the formula of its node
-/

namespace MessageExpr

/-- The logical operators of a node, over the nodes that they join. -/
def Node.formula : Node → Formula Node
  | .logical o _ (some left) (some right) => .join o left.formula right.formula
  | node => .atom node

/-- A node is a leaf or joins two other nodes. -/
theorem Node.formula_cases (node : Node) :
    node.formula = .atom node ∨
      ∃ o token left right, node = .logical o token (some left) (some right) := by
  cases node with
  | logical o token left right =>
    cases left with
    | none => exact .inl rfl
    | some left =>
      cases right with
      | none => exact .inl rfl
      | some right => exact .inr ⟨o, token, left, right, rfl⟩
  | _ => exact .inl rfl

namespace Code

variable {signs : List Sign} {rest : List Sign}

/-! ## Atoms -/

/-- Signs before which an atom ends. -/
def Breaks (rest : List Sign) : Prop :=
  ∀ held, lexemes held 0 rest = held? held ++ lexemes [] 0 rest

theorem breaks_nil : Breaks [] := by
  intro held
  simp [lexemes, held?]

theorem breaks_space (rest : List Sign) : Breaks (.char ' ' :: rest) := by
  intro held
  simp [lexemes, held?]

private theorem breaks_closing (rest : List Sign) : Breaks (.char ')' :: rest) := by
  intro held
  simp [lexemes, held?]

/-- A word goes on with an atom. -/
theorem lexemes_chars {name : String} (h : IsWord name) (held rest : List Sign) :
    lexemes held 0 (Sign.chars name ++ rest) = lexemes (held ++ Sign.chars name) 0 rest := by
  rw [IsWord] at h
  rw [Sign.chars]
  generalize name.toList = l at h
  induction l generalizing held with
  | nil => simp
  | cons c l ih =>
    have word := h c (by simp)
    have noSpace : c ≠ ' ' := by rintro rfl; cases word
    have noClosing : c ≠ ')' := by rintro rfl; cases word
    have noOpening : c ≠ '(' := by rintro rfl; cases word
    have step : lexemes held 0 (.char c :: (l.map Sign.char ++ rest)) =
        lexemes (held ++ [.char c]) 0 (l.map Sign.char ++ rest) := by
      rw [lexemes]
      simp [noSpace, noClosing, noOpening]
    rw [List.map_cons, List.cons_append, step, ih _ fun d hd => h d (by simp [hd])]
    simp

private theorem lexemes_opening (held : List Sign) (depth : Nat) (rest : List Sign) :
    lexemes held (depth + 1) (.char '(' :: rest) =
      lexemes (held ++ [.char '(']) (depth + 2) rest := by
  rw [lexemes, if_neg (by simp), if_pos rfl]

private theorem lexemes_closing (held : List Sign) (depth : Nat) (rest : List Sign) :
    lexemes held (depth + 1) (.char ')' :: rest) = lexemes (held ++ [.char ')']) depth rest := by
  rw [lexemes, if_neg (by simp), if_neg (by decide), if_pos rfl, Nat.add_sub_cancel]

/-- What stands between parentheses that are closed goes on with the atom around it. -/
theorem lexemes_balanced (h : Balanced signs) (held : List Sign) (depth : Nat)
    (rest : List Sign) :
    lexemes held (depth + 1) (signs ++ rest) = lexemes (held ++ signs) (depth + 1) rest := by
  induction h generalizing held depth rest with
  | nil => simp
  | @sign s tail notOpening notClosing _ ih =>
    have step : lexemes held (depth + 1) (s :: (tail ++ rest)) =
        lexemes (held ++ [s]) (depth + 1) (tail ++ rest) := by
      cases s <;> simp_all [lexemes]
    rw [List.cons_append, step, ih]
    simp
  | @group inner tail inside _ ihInner ihTail =>
    rw [List.append_assoc, List.cons_append, List.cons_append, lexemes_opening, ihInner,
      lexemes_closing, ihTail]
    simp

/-- A parenthesis after a word, up to the one that closes it, goes on with the atom. -/
theorem lexemes_group (p : Piece) {held : List Sign} (nonempty : held ≠ [])
    (rest : List Sign) :
    lexemes held 0 (p.group.signs ++ rest) = lexemes (held ++ p.group.signs) 0 rest := by
  have shape : p.group.signs ++ rest = .char '(' :: (p.signs ++ .char ')' :: rest) := by
    simp [Piece.group]
  have opening : lexemes held 0 (.char '(' :: (p.signs ++ .char ')' :: rest)) =
      lexemes (held ++ [.char '(']) 1 (p.signs ++ .char ')' :: rest) := by
    rw [lexemes]
    simp [nonempty]
  rw [shape, opening, lexemes_balanced p.balanced, lexemes_closing]
  simp [Piece.group]

/-- A call is one atom. -/
theorem lexemes_call (c : Call) (named : c.name ≠ "") (breaks : Breaks rest) :
    lexemes [] 0 (c.piece.signs ++ rest) = .atom c.piece.signs :: lexemes [] 0 rest := by
  -- With an empty name the parenthesis would open a group and no call.
  have nonempty : Sign.chars c.name ≠ [] := by
    simpa [Sign.chars] using named
  obtain ⟨name, isWord, _ | p⟩ := c
  · change lexemes [] 0 (Sign.chars name ++ rest) = .atom (Sign.chars name) :: _
    rw [lexemes_chars isWord, breaks, List.nil_append, held?, if_neg nonempty]
    rfl
  · change lexemes [] 0 (Sign.chars name ++ p.group.signs ++ rest) =
      .atom (Sign.chars name ++ p.group.signs) :: _
    rw [List.append_assoc, lexemes_chars isWord, List.nil_append, lexemes_group p nonempty,
      breaks, held?, if_neg (by simp [nonempty])]
    rfl

/-! ## Operands and clauses -/

/-- Signs that are read as one operand, where one may stand. -/
def IsOperand (signs : List Sign) (f : Formula (List Sign)) : Prop :=
  ∀ outer l rest, l.last = none → Breaks rest →
    parseLexemes outer l (lexemes [] 0 (signs ++ rest)) =
      parseLexemes outer { l with last := some f } (lexemes [] 0 rest)

/-- A level up to the last operand of a formula whose outermost operator stands in no parentheses,
and that operand. -/
def Level.split (l : Level) : Formula (List Sign) → Level × Formula (List Sign)
  | .atom a => (l, .atom a)
  | .join o x y => (l.operator o x, y)

/-- A level after a formula whose outermost operator stands in no parentheses. -/
def Level.clause (l : Level) (f : Formula (List Sign)) : Level :=
  { (l.split f).1 with last := some (l.split f).2 }

/-- Signs that are read as one clause, where an operand may stand. -/
def IsClause (signs : List Sign) (f : Formula (List Sign)) : Prop :=
  ∀ outer l rest, l.last = none → Breaks rest →
    parseLexemes outer l (lexemes [] 0 (signs ++ rest)) =
      parseLexemes outer (l.clause f) (lexemes [] 0 rest)

private theorem finish?_clause_empty (f : Formula (List Sign)) :
    (Level.empty.clause f).finish? = some f := by
  cases f with
  | atom => rfl
  | join o => cases o <;> rfl

/-- A call is an operand. -/
theorem isOperand_call (c : Call) (named : c.name ≠ "") :
    IsOperand c.piece.signs (.atom c.piece.signs) := by
  intro outer l rest free breaks
  rw [lexemes_call c named breaks, parseLexemes, Level.operand?, free]
  rfl

/-- A clause between parentheses is an operand. -/
theorem IsClause.group {p : Piece} {f : Formula (List Sign)} (h : IsClause p.signs f) :
    IsOperand p.group.signs f := by
  intro outer l rest free breaks
  have shape : p.group.signs ++ rest = .char '(' :: (p.signs ++ .char ')' :: rest) := by
    simp [Piece.group]
  have opening : lexemes [] 0 (.char '(' :: (p.signs ++ .char ')' :: rest)) =
      .opening :: lexemes [] 0 (p.signs ++ .char ')' :: rest) := by
    rw [lexemes]
    simp
  have closing : lexemes [] 0 (.char ')' :: rest) = .closing :: lexemes [] 0 rest := by
    rw [lexemes]
    simp [held?]
  rw [shape, opening, parseLexemes, if_pos (by simp [free]), h _ _ _ rfl (breaks_closing rest),
    closing, parseLexemes, finish?_clause_empty]
  simp [Level.operand?, free]

/-- Two operands around an operator are a clause. -/
theorem IsOperand.join {p q : Piece} {x y : Formula (List Sign)} (o : LogicalOperator)
    (hx : IsOperand p.signs x) (hy : IsOperand q.signs y) :
    IsClause (Piece.join (.logical o) p q).signs (.join o x y) := by
  intro outer l rest free breaks
  have shape : (Piece.join (.logical o) p q).signs ++ rest =
      p.signs ++ .char ' ' :: .operator o :: .char ' ' :: (q.signs ++ rest) := by
    simp [Piece.join, Joint.logical]
  -- The spaces end the left operand and are no lexemes themselves.
  have between : lexemes [] 0 (.char ' ' :: .operator o :: .char ' ' :: (q.signs ++ rest)) =
      .operator o :: lexemes [] 0 (q.signs ++ rest) := by
    simp [lexemes, held?]
  rw [shape, hx _ _ _ free (breaks_space _), between, parseLexemes]
  cases o with
  | and => exact hy _ _ _ rfl breaks
  | or => exact hy _ _ _ rfl breaks

/-! ## Conditions -/

/-- Signs that are the code of a node as a condition. -/
def IsCodeOf (signs : List Sign) (node : Node) : Prop :=
  ∃ code, condition id node = .ok code ∧ signs? code.toList = some signs

private theorem exists_piece {node : Node} {code : String} (h : value id node = .ok code) :
    ∃ p : Piece, p.plain = code := by
  obtain ⟨_, -, p, -, plain, -⟩ := (renders_value node).ok_right h
  exact ⟨p, plain⟩

private theorem binaryHelper_ne (o : BinaryOperator) : binaryHelper o ≠ "" := by cases o <;> decide

private theorem boolShown_ne (b : Bool) : boolShown b ≠ "" := by cases b <;> decide

/-- A node that joins nothing is one call. -/
theorem exists_call {node : Node} (leaf : node.formula = .atom node) {code : String}
    (h : condition id node = .ok code) : ∃ c : Call, c.name ≠ "" ∧ c.piece.plain = code := by
  obtain ⟨written, done, rfl⟩ := map_eq_ok.mp h
  cases node with
  | logical o token left right =>
    match left, right with
    | none, _ | some _, none =>
      rw [value] at done
      cases done
    | some left, some right =>
      rw [Node.formula] at leaf
      cases leaf
  | binary o token left right =>
    match left, right with
    | none, _ | some _, none =>
      rw [value] at done
      cases done
    | some left, some right =>
      rw [value] at done
      obtain ⟨first, hfirst, more⟩ := bind_eq_ok.mp done
      obtain ⟨second, hsecond, made⟩ := bind_eq_ok.mp more
      obtain ⟨p, rfl⟩ := exists_piece hfirst
      obtain ⟨q, rfl⟩ := exists_piece hsecond
      obtain rfl := pure_eq_ok.mp made
      -- A comparison is the call of a helper, and so a condition as it is.
      exact ⟨comparison o p q, binaryHelper_ne o, code_comparison .plain o p q⟩
  | boolean token =>
    rw [value] at done
    obtain rfl := Except.ok.inj done
    exact ⟨⟨_, isWord_boolShown (Node.truth token), none⟩, boolShown_ne _, rfl⟩
  | _ =>
    obtain ⟨p, rfl⟩ := exists_piece done
    have named : "isTrue" ≠ "" := by decide
    exact ⟨truth p, named, code_truth .plain p⟩

/-- The code of a node as an operand, from its code as a clause. -/
theorem exists_operand {node : Node} {code : String}
    (clause : ∃ p : Piece, p.plain = asCondition node code ∧
      ∃ f, IsClause p.signs f ∧ Formula.Rel IsCodeOf f node.formula) :
    ∃ p : Piece, p.plain = asOperand node code ∧
      ∃ f, IsOperand p.signs f ∧ Formula.Rel IsCodeOf f node.formula := by
  obtain ⟨p, plain, f, reads, rel⟩ := clause
  cases node with
  | logical o token left right =>
    refine ⟨p.group, ?_, f, reads.group, rel⟩
    have group : p.group.plain = "(" ++ (p.plain ++ ")") := Piece.code_group .plain p
    rw [group, plain]
    exact String.append_assoc.symm
  | _ =>
    -- What is one atom is read alike as a clause and as an operand.
    change Formula.Rel IsCodeOf f (.atom _) at rel
    cases rel with
    | atom isCode => exact ⟨p, plain, _, reads, .atom isCode⟩

/-- The code of a condition is read as the formula of its node. -/
theorem exists_clause (node : Node) (code : String) (h : condition id node = .ok code) :
    ∃ p : Piece, p.plain = code ∧
      ∃ f, IsClause p.signs f ∧ Formula.Rel IsCodeOf f node.formula := by
  rcases node.formula_cases with leaf | ⟨o, token, left, right, rfl⟩
  · obtain ⟨c, named, rfl⟩ := exists_call leaf h
    rw [leaf]
    exact ⟨c.piece, rfl, .atom c.piece.signs, isOperand_call c named,
      .atom ⟨_, h, c.piece.reads.signs?_eq⟩⟩
  · obtain ⟨written, done, rfl⟩ := map_eq_ok.mp h
    rw [value] at done
    obtain ⟨first, hfirst, more⟩ := bind_eq_ok.mp done
    obtain ⟨second, hsecond, made⟩ := bind_eq_ok.mp more
    obtain ⟨p, hp, x, readsX, relX⟩ := exists_operand
      (exists_clause left _ (map_eq_ok.mpr ⟨first, hfirst, rfl⟩))
    obtain ⟨q, hq, y, readsY, relY⟩ := exists_operand
      (exists_clause right _ (map_eq_ok.mpr ⟨second, hsecond, rfl⟩))
    refine ⟨.join (.logical o) p q, ?_, .join o x y, readsX.join o readsY, ?_⟩
    · obtain rfl := pure_eq_ok.mp made
      have joined : (Piece.join (.logical o) p q).plain =
          p.plain ++ ((Joint.logical o).code ++ q.plain) := Piece.code_join .plain _ p q
      rw [joined, hp, hq, Joint.logical]
      simp only [← String.append_assoc]
      rfl
    · rw [Node.formula]
      exact .join relX relY
termination_by node

end Code

end MessageExpr
