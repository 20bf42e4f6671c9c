import MessageExpr.Token.Scan

/-!
# Operators glued to what follows them

The two things that can be wrong with a template are said of its tokens alone. A unary operator
directly after a function outside of others is glued to the next token when that is no white space.
And a function is left open when no function end is left for it. A function end always closes the
innermost open function; where no function is open it is text.

## Main definitions

* `Template.openAfter` — the function starts that are open after some tokens
* `Template.GluedAt` — where an operator is glued to the next token
* `Template.firstGlued?` — the same, found in one pass that counts the open functions

## Main results

* `Template.firstGlued?_eq_some_iff`, `Template.firstGlued?_eq_none_iff` — the pass finds the first
  such token, or nothing where there is none
* `Template.firstGlued?_append` — when tokens can be followed by others
-/

namespace MessageExpr.Template

/-- The open function starts after one more token, innermost first. -/
def opens (opened : List Token) (token : Token) : List Token :=
  match token.kind with
  | .functionStart => token :: opened
  | .functionEnd => opened.tail
  | _ => opened

/-- The function starts that are open after some tokens, innermost first, when some are open
before them. -/
def openAfter (opened tokens : List Token) : List Token := tokens.foldl opens opened

/-- At a place a function outside of others ends, a unary operator follows directly, and the token
after the operator is neither white space nor the end. -/
structure GluedAt (opened tokens : List Token) (place : Nat) (found : Token) : Prop where
  outermost : (openAfter opened (tokens.take place)).length = 1
  closes : (tokens[place]?).map Token.kind = some .functionEnd
  operator : (tokens[place + 1]?).map Token.kind = some .unaryOperator
  follows : tokens[place + 2]? = some found
  notSpace : found.kind ≠ .whitespace
  notEnd : found.isEnd = false

/-! ## One pass -/

/-- The token that is glued to the operator after a token, where `depth` counts the functions that
are open before it. -/
def gluedHere? (depth : Nat) (token : Token) : List Token → Option Token
  | operator :: found :: _ =>
    if depth = 1 ∧ token.kind = .functionEnd ∧ operator.kind = .unaryOperator ∧
        found.kind ≠ .whitespace ∧ found.isEnd = false then
      some found
    else none
  | _ => none

/-- How many functions are open after one more token. -/
def depthAfter (depth : Nat) (token : Token) : Nat :=
  match token.kind with
  | .functionStart => depth + 1
  | .functionEnd => depth - 1
  | _ => depth

theorem depthAfter_text {token : Token} (other : token.kind ≠ .functionEnd)
    (plain : token.kind ≠ .functionStart) (depth : Nat) : depthAfter depth token = depth := by
  unfold depthAfter
  split
  · exact absurd ‹_› plain
  · exact absurd ‹_› other
  · rfl

/-- The first token that is glued to an operator. -/
def firstGlued? (depth : Nat) : List Token → Option Token
  | [] => none
  | token :: rest => (gluedHere? depth token rest).or (firstGlued? (depthAfter depth token) rest)

/-- Only the end of a function outside of others comes before such an operator. -/
theorem firstGlued?_cons {depth : Nat} {token : Token}
    (h : depth ≠ 1 ∨ token.kind ≠ .functionEnd) (rest : List Token) :
    firstGlued? depth (token :: rest) = firstGlued? (depthAfter depth token) rest := by
  have notHere : gluedHere? depth token rest = none := by
    unfold gluedHere?
    split
    · rw [if_neg]
      rintro ⟨outermost, isEnd, -⟩
      exact h.elim (fun other => other outermost) fun other => other isEnd
    · rfl
  rw [firstGlued?, notHere, Option.none_or]

private theorem length_opens (opened : List Token) (token : Token) :
    (opens opened token).length = depthAfter opened.length token := by
  unfold opens depthAfter
  split <;> simp

private theorem gluedAt_zero {opened rest : List Token} {token found : Token} :
    GluedAt opened (token :: rest) 0 found ↔
      gluedHere? opened.length token rest = some found := by
  constructor
  · rintro ⟨outermost, closes, operator, follows, notSpace, notEnd⟩
    match rest with
    | [] => cases follows
    | [_] => cases follows
    | next :: after :: more =>
      obtain rfl : after = found := by simpa using follows
      have isEnd : token.kind = .functionEnd := by simpa using closes
      have isOperator : next.kind = .unaryOperator := by simpa using operator
      exact if_pos ⟨outermost, isEnd, isOperator, notSpace, notEnd⟩
  · intro here
    unfold gluedHere? at here
    split at here
    · obtain ⟨⟨outermost, isEnd, isOperator, notSpace, notEnd⟩, same⟩ :=
        Option.ite_none_right_eq_some.mp here
      cases same
      exact ⟨outermost, by simp [isEnd], by simp [isOperator], rfl, notSpace, notEnd⟩
    · cases here

private theorem gluedAt_succ {opened rest : List Token} {token found : Token} {place : Nat} :
    GluedAt opened (token :: rest) (place + 1) found ↔
      GluedAt (opens opened token) rest place found :=
  ⟨fun ⟨outermost, closes, operator, follows, notSpace, notEnd⟩ =>
      ⟨outermost, closes, operator, follows, notSpace, notEnd⟩,
    fun ⟨outermost, closes, operator, follows, notSpace, notEnd⟩ =>
      ⟨outermost, closes, operator, follows, notSpace, notEnd⟩⟩

/-- The first of the places where something is glued to an operator. -/
def FirstGluedAt (opened tokens : List Token) (place : Nat) (found : Token) : Prop :=
  GluedAt opened tokens place found ∧
    ∀ earlier < place, ∀ other, ¬GluedAt opened tokens earlier other

/-- The pass finds the first token that is glued to an operator. -/
theorem firstGlued?_eq_some_iff {opened tokens : List Token} {found : Token} :
    firstGlued? opened.length tokens = some found ↔
      ∃ place, FirstGluedAt opened tokens place found := by
  induction tokens generalizing opened with
  | nil =>
    constructor
    · intro none
      cases none
    · rintro ⟨place, glued, -⟩
      cases glued.follows
  | cons token rest ih =>
    rw [firstGlued?, ← length_opens]
    cases here : gluedHere? opened.length token rest with
    | some first =>
      -- Something is glued at place zero, so no later place is the first.
      have glued := gluedAt_zero.mpr here
      rw [Option.some_or]
      constructor
      · rintro ⟨⟩
        exact ⟨0, glued, by simp⟩
      · rintro ⟨place, other, least⟩
        cases place with
        | zero => rw [← gluedAt_zero.mp other, here]
        | succ place => exact absurd glued (least 0 (Nat.succ_pos place) first)
    | none =>
      -- The first place in the rest is one further on here.
      have apart (other : Token) : ¬GluedAt opened (token :: rest) 0 other := by
        rw [gluedAt_zero, here]
        exact nofun
      rw [Option.none_or, ih]
      constructor
      · rintro ⟨place, glued, least⟩
        refine ⟨place + 1, gluedAt_succ.mpr glued, fun earlier less other => ?_⟩
        cases earlier with
        | zero => exact apart other
        | succ earlier =>
          rw [gluedAt_succ]
          exact least earlier (Nat.lt_of_succ_lt_succ less) other
      · rintro ⟨place, glued, least⟩
        cases place with
        | zero => exact absurd glued (apart found)
        | succ place =>
          refine ⟨place, gluedAt_succ.mp glued, fun earlier less other => ?_⟩
          rw [← gluedAt_succ]
          exact least (earlier + 1) (Nat.succ_lt_succ less) other

/-- Where something is glued to an operator, there is a first such place. -/
theorem exists_firstGluedAt {opened tokens : List Token} {place : Nat} {found : Token}
    (glued : GluedAt opened tokens place found) :
    ∃ first other, FirstGluedAt opened tokens first other := by
  induction place using Nat.strongRecOn generalizing found with
  | ind place ih =>
    by_cases smaller : ∃ earlier < place, ∃ other, GluedAt opened tokens earlier other
    · obtain ⟨earlier, less, other, glued⟩ := smaller
      exact ih earlier less glued
    · exact ⟨place, found, glued, fun earlier less other glued =>
        smaller ⟨earlier, less, other, glued⟩⟩

/-- The pass finds nothing when nothing is glued to an operator. -/
theorem firstGlued?_eq_none_iff {opened tokens : List Token} :
    firstGlued? opened.length tokens = none ↔
      ∀ place found, ¬GluedAt opened tokens place found := by
  constructor
  · intro none place found glued
    obtain ⟨first, other, least⟩ := exists_firstGluedAt glued
    rw [firstGlued?_eq_some_iff.mpr ⟨first, least⟩] at none
    cases none
  · intro apart
    cases first : firstGlued? opened.length tokens with
    | none => rfl
    | some found =>
      obtain ⟨place, glued, -⟩ := firstGlued?_eq_some_iff.mp first
      exact absurd glued (apart place found)

/-! ## More tokens -/

/-- Whether something is glued to an operator is told by the kinds of tokens. -/
theorem firstGlued?_of_kinds {tokens tokens' : List Token} {depth : Nat}
    (same : tokens.map Token.kind = tokens'.map Token.kind)
    (apart : firstGlued? depth tokens = none) : firstGlued? depth tokens' = none := by
  induction tokens generalizing tokens' depth with
  | nil =>
    obtain rfl := List.map_eq_nil_iff.mp same.symm
    rfl
  | cons token rest ih =>
    obtain ⟨token', rest', rfl, kind, same⟩ := List.map_eq_cons_iff.mp same.symm
    obtain ⟨here, later⟩ := Option.or_eq_none_iff.mp apart
    have stays : depthAfter depth token' = depthAfter depth token := by
      rw [depthAfter, depthAfter, kind]
    refine Option.or_eq_none_iff.mpr ⟨?_, ih same.symm (stays ▸ later)⟩
    unfold gluedHere? at here ⊢
    split
    · obtain ⟨operator, more, rfl, isOperator, same⟩ := List.map_eq_cons_iff.mp same.symm
      obtain ⟨found, more, rfl, isFound, -⟩ := List.map_eq_cons_iff.mp same
      simpa [kind, isOperator, isFound, Token.isEnd] using here
    · rfl

/-- Tokens before which no function is open can be followed by others, when these do not begin with
an operator and are not glued to the last one of the tokens. -/
theorem firstGlued?_append {opened kept after after' : List Token} {token : Token}
    (apart : firstGlued? opened.length (kept ++ after) = none) (closed : openAfter opened kept = [])
    (apart' : firstGlued? 0 (token :: after') = none) (other : token.kind ≠ .unaryOperator)
    (free : token.kind = .whitespace ∨
      ∃ t ∈ after.head?, t.kind ≠ .whitespace ∧ t.isEnd = false) :
    firstGlued? opened.length (kept ++ token :: after') = none := by
  induction kept generalizing opened with
  | nil =>
    obtain rfl : opened = [] := closed
    exact apart'
  | cons first kept ih =>
    obtain ⟨here, later⟩ := Option.or_eq_none_iff.mp apart
    rw [← length_opens] at later
    refine Option.or_eq_none_iff.mpr ⟨?_, length_opens opened first ▸ ih later closed⟩
    -- Only where one of the two tokens that are looked at is new, something may have changed.
    match kept with
    | [] =>
      cases after' with
      | nil => rfl
      | cons => exact if_neg fun ⟨_, _, isOperator, _⟩ => other isOperator
    | [operator] =>
      refine if_neg fun ⟨outermost, isEnd, isOperator, notSpace, notEnd⟩ => ?_
      obtain ⟨t, head, notSpace', notEnd'⟩ := free.resolve_left notSpace
      obtain ⟨more, rfl⟩ := List.head?_eq_some_iff.mp head
      have glued : gluedHere? opened.length first (operator :: t :: more) = some t :=
        if_pos ⟨outermost, isEnd, isOperator, notSpace', notEnd'⟩
      cases glued.symm.trans here
    | _ :: _ :: _ => exact here

end MessageExpr.Template
