import MessageExpr.Proofs.Condition.Cover

/-!
# Cursors tile their text

A cursor can be moved in many ways, and each move may look for other kinds of tokens. Whatever is
done with it, the recorded tokens lie end to end from the start of the text to the cursor. What
they mean depends on the place of the cursor only, and not on the way that led there.

## Main definitions

* `CursorMove`, `Cursor.performAll` — what can be done with a cursor
* `Tiles` — tokens that lie end to end

## Main results

* `Cursor.before_performAll` — a row of moves leads to a cursor that reading on leads to
* `Cursor.tiles_performAll` — what is recorded after a row of moves
-/

namespace MessageExpr

/-- What can be done with a cursor. -/
inductive CursorMove where
  | next
  | nextOf (filter : List TokenKind)
  | expectRun (kind : TokenKind)
  | skipFunction
  | clear

namespace Cursor

/-- The cursor after a move. It stays where it is when another token is expected than the current
one, or when no function starts here. -/
def perform (c : Cursor) : CursorMove → Cursor
  | .next => c.next
  | .nextOf filter => c.nextOf filter
  | .expectRun kind =>
    match c.expectRun kind with
    | .ok d => d
    | .error _ => c
  | .skipFunction => c.skipFunction?.getD c
  | .clear => c.clear

/-- The cursor after a row of moves. -/
def performAll (c : Cursor) (moves : List CursorMove) : Cursor := moves.foldl perform c

end Cursor

/-! ## Tokens that lie end to end -/

/-- The tokens lie end to end from one index to another, and none of them is empty. -/
inductive Tiles : Nat → List Token → Nat → Prop where
  | nil {index} : Tiles index [] index
  | cons {token rest stop} : 0 < token.length → Tiles (token.index + token.length) rest stop →
      Tiles token.index (token :: rest) stop

theorem Token.IsRead.length_pos {token : Token} (h : token.IsRead) : 0 < token.length := by
  obtain ⟨_, _, _, _, t, nonempty, rfl⟩ := h
  exact (Token.length_pos_of_read nonempty).1

/-- Tokens that cover a text lie end to end. -/
theorem Covers.tiles {escapes : Bool} {index : Nat} {t : List Char} {tokens : List Token}
    (h : Covers escapes index t tokens) (read : ∀ token ∈ tokens, token.IsRead) :
    Tiles index tokens (index + t.length) := by
  induction h with
  | nil => exact .nil
  | @cons index t token rest tokens here stands _ ih =>
    obtain ⟨isRead, read⟩ := List.forall_mem_cons.mp read
    obtain ⟨piece, rfl, length, -⟩ := stands.exists_piece
    have stop : index + (piece ++ rest).length = index + token.length + rest.length := by
      rw [List.length_append]
      omega
    rw [stop]
    subst here
    exact .cons isRead.length_pos (ih read)

/-! ## Moves -/

namespace Cursor

variable {escapes : Bool} {text : String} {c : Cursor}

/-- Going back to the start of the text leaves nothing of the way behind. -/
theorem clear_of_before (h : Before (start escapes text) c) : c.clear = start escapes text := by
  rw [clear, h.text_eq, h.escapes_eq]
  rfl

/-- A move leads on, or back to the start. -/
theorem before_perform (h : Before (start escapes text) c) (move : CursorMove) :
    Before (start escapes text) (c.perform move) := by
  cases move with
  | next => exact h.nextOf []
  | nextOf filter => exact h.nextOf filter
  | expectRun kind =>
    rw [perform]
    split
    · rename_i moved
      exact h.trans (before_of_expectRun moved)
    · exact h
  | skipFunction =>
    rw [perform]
    cases skipped : c.skipFunction? with
    | none => exact h
    | some d => exact h.trans (before_of_skipFunction? skipped)
  | clear =>
    rw [perform, clear_of_before h]
    exact .refl _

/-- A row of moves leads to a cursor that reading on leads to as well. -/
theorem before_performAll (h : Before (start escapes text) c) (moves : List CursorMove) :
    Before (start escapes text) (c.performAll moves) := by
  induction moves generalizing c with
  | nil => exact h
  | cons move rest ih => exact ih (before_perform h move)

/-- After any row of moves the recorded tokens lie end to end from the start of the text to the
cursor, which is inside the text or at its end. The current token is the end of the text only where
the text ends. The recorded texts, put together, are what the text before the cursor means, whatever
kinds of tokens were looked for. -/
theorem tiles_performAll (escapes : Bool) (text : String) (moves : List CursorMove) :
    let c := (start escapes text).performAll moves
    Tiles 0 c.tokens.toList c.index ∧
      c.index ≤ text.toList.length ∧
      (c.atEnd = true → c.index = text.toList.length) ∧
      (Token.texts c.tokens.toList).toList = meaning escapes (text.toList.take c.index) := by
  intro c
  have reached : Before (start escapes text) c := before_performAll (.refl _) moves
  have inside : c.index ≤ text.toList.length := index_le_of_before reached
  have covers : Covers escapes 0 (text.toList.take c.index) c.tokens.toList := by
    have nothing : Covers escapes c.index ((text.toList.drop c.index).take 0) [] := .nil
    simpa using covers_take_of_before reached nothing
  have tiles := covers.tiles (isRead_of_before reached)
  rw [List.length_take_of_le inside, Nat.zero_add] at tiles
  refine ⟨tiles, inside, fun atEnd => ?_, covers.texts_eq⟩
  exact Nat.le_antisymm inside (List.drop_eq_nil_iff.mp (drop_of_atEnd reached atEnd))

/-- A number is one token, or three characters where only quotes are looked for. -/
example :
    ((start true "1.5").performAll [.next]).tokens.toList.map Token.text = ["1.5"] ∧
      ((start true "1.5").performAll (.replicate 3 (.nextOf [.singleQuote]))).tokens.toList.map
        Token.text = ["1", ".", "5"] := by
  decide

end Cursor

end MessageExpr
