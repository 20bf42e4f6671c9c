import MessageExpr.Proofs.Condition.Walk
import MessageExpr.Proofs.Condition.Written
import MessageExpr.Proofs.Token.Word

/-!
# Walking over written blocks

A cursor in front of the inside of a written block passes over all of it, up to the token that
stops the block, and records tokens that stand for the children of the block.

## Main definitions

* `Cursor.Faces` — what a cursor has read and what lies ahead
* `PassedTo` — a cursor after the inside of a block that stands for some nodes

## Main results

* `Cursor.Faces.nextOf` — what lies ahead after a token
* `skipQuoted_content` — the inside of a written block is passed over
-/

namespace MessageExpr

namespace Cursor

/-- The cursor reads escapes, and has read the first part of its text. -/
structure Faces (c : Cursor) (front ahead : List Char) : Prop where
  escapes : c.escapes = true
  text : c.text = front ++ ahead
  index : c.index = front.length

variable {c : Cursor} {front ahead : List Char}

theorem faces_start (text : List Char) :
    (start true (String.ofList text)).Faces [] text :=
  ⟨rfl, by simp [start], rfl⟩

/-- The token that the cursor reads next is read from what lies ahead. -/
theorem Faces.readAt (h : c.Faces front ahead) (filter : List TokenKind) :
    Token.readAt c.escapes filter c.text c.index =
      Token.read true filter front.getLast? front.length ahead := by
  rw [h.escapes, h.text, h.index, Token.readAt, List.drop_left]
  congr 1
  by_cases empty : front = []
  · simp [empty]
  · have pos : front.length ≠ 0 := by simpa using empty
    rw [if_neg pos, List.getLast?_eq_getElem?, List.getElem?_append_left (by omega)]

/-- What lies ahead after a token. -/
theorem Faces.nextOf {word rest : List Char} (h : c.Faces front (word ++ rest))
    {filter : List TokenKind} {kind : TokenKind} {text : String}
    (read : Token.read true filter front.getLast? front.length (word ++ rest) =
      ⟨kind, text, front.length, word.length⟩) (notEnd : kind ≠ .endOfLine) :
    (c.nextOf filter).current = some ⟨kind, text, front.length, word.length⟩ ∧
      (c.nextOf filter).tokens.toList =
        c.tokens.toList ++ [⟨kind, text, front.length, word.length⟩] ∧
      (c.nextOf filter).Faces (front ++ word) rest := by
  have token := (h.readAt filter).trans read
  refine ⟨?_, ?_, h.escapes, ?_, ?_⟩
  · simp only [Cursor.nextOf, token]
  · simp [Cursor.nextOf, token, Token.isEnd, notEnd]
  · rw [Cursor.nextOf, h.text, List.append_assoc]
  · simp only [Cursor.nextOf, token]
    simp [h.index]

/-- With nothing ahead the end is read. -/
theorem Faces.nextOf_nil (h : c.Faces front []) (filter : List TokenKind) :
    (c.nextOf filter).atEnd = true ∧ (c.nextOf filter).tokens = c.tokens ∧
      (c.nextOf filter).Faces front [] := by
  have token := (h.readAt filter).trans (by rw [Token.read])
  refine ⟨?_, ?_, h.escapes, h.text, ?_⟩
  · simp [Cursor.nextOf, token, atEnd, Token.endOfLine, Token.isEnd]
  · simp [Cursor.nextOf, token, Token.endOfLine, Token.isEnd]
  · simp only [Cursor.nextOf, token, Token.endOfLine]
    exact h.index

end Cursor

namespace Condition

open Written

/-! ## Texts -/

/-- The literal of some tokens of a text. -/
def ofTexts : List Token → List Node
  | [] => []
  | first :: rest => [.literal first (String.join ((first :: rest).map Token.text))]

theorem joinText_ofTexts (token : Token) (tokens : List Token) {nodes : List Node}
    (apart : ∀ token text, nodes.head? ≠ some (.literal token text)) :
    Node.joinText token (ofTexts tokens ++ nodes) = ofTexts (token :: tokens) ++ nodes := by
  cases tokens with
  | cons second rest =>
    simp only [ofTexts, List.singleton_append, Node.joinText, List.map_cons, String.join_cons]
  | nil =>
    simp only [ofTexts, List.nil_append, List.map_cons, List.map_nil, String.join_cons,
      String.join_nil, String.append_empty, List.singleton_append]
    unfold Node.joinText
    split
    · rename_i other text rest
      exact absurd rfl (apart other text)
    · rfl

/-- The tokens of a text inside a block become a literal. -/
theorem Inside.texts {stop : TokenKind} {front tokens : List Token} {nodes : List Node}
    (text : ∀ t ∈ front, t.kind ≠ stop ∧ t.kind ≠ .functionStart) (h : Inside stop tokens nodes)
    (apart : ∀ token text, nodes.head? ≠ some (.literal token text)) :
    Inside stop (front ++ tokens) (ofTexts front ++ nodes) := by
  induction front with
  | nil => exact h
  | cons t front ih =>
    obtain ⟨other, plain⟩ := text t (by simp)
    have inside := ih fun t mem => text t (List.mem_cons_of_mem _ mem)
    rw [← joinText_ofTexts t front apart]
    exact .text other plain inside

/-- A kind of token that stops a block, with its character. -/
structure Stops (stop : TokenKind) (c : Char) : Prop where
  mem : ⟨stop, [c]⟩ ∈ Token.marks
  notStart : stop ≠ .functionStart

theorem stops_functionEnd : Stops .functionEnd '\x7d' := ⟨by decide, by decide⟩

theorem stops_quote (mark : QuoteMark) : Stops mark.kind mark.char := by
  cases mark <;> exact ⟨by decide, by decide⟩

theorem Stops.cases {stop : TokenKind} {c : Char} (h : Stops stop c) :
    isSpecial c = true ∧ stop.isText = false ∧ stop ≠ .endOfLine := by
  have mem := h.mem
  simp only [Token.marks, List.mem_cons, Spelling.mk.injEq, List.cons.injEq, List.not_mem_nil,
    or_false] at mem
  rcases mem with ⟨rfl, rfl, _⟩ | ⟨rfl, rfl, _⟩ | ⟨rfl, rfl, _⟩ | ⟨rfl, rfl, _⟩ | ⟨rfl, rfl, _⟩ <;>
    exact ⟨by decide, by decide, by decide⟩

/-- A text inside a block is passed over, up to the special character after it. -/
theorem skipQuoted_text {stop : TokenKind} (isStop : stop.isText = false)
    (filter : List TokenKind) {special : Char} (isSpecial' : isSpecial special = true)
    {rest : List Char} (s : List Char) {c : Cursor} {front : List Char}
    (h : c.Faces front (escaped s ++ special :: rest)) :
    ∃ (d : Cursor) (tokens : List Token), skipQuoted stop filter (c.nextOf filter) =
        skipQuoted stop filter (d.nextOf filter) ∧
      d.tokens.toList = c.tokens.toList ++ tokens ∧
      d.Faces (front ++ escaped s) (special :: rest) ∧
      (∀ t ∈ tokens, t.kind.isText = true) ∧
      String.join (tokens.map Token.text) = String.ofList s ∧ (tokens = [] ↔ s = []) := by
  induction length : s.length using Nat.strongRecOn generalizing s c front with
  | ind n ih =>
    subst length
    by_cases empty : s = []
    · subst empty
      exact ⟨c, [], rfl, by simp, by simpa [escaped] using h, by simp, rfl, by simp⟩
    -- One token takes a part of the text that is not empty, and the rest is left to the induction.
    obtain ⟨word, back, kind, rfl, nonempty, read, isText⟩ :=
      exists_read_escaped filter front.getLast? front.length empty
        (special :: rest) (by simpa using isSpecial')
    have notEnd : kind ≠ .endOfLine := by
      rintro rfl
      cases isText
    rw [escaped_append, List.append_assoc] at h read
    obtain ⟨current, recorded, ahead⟩ := h.nextOf read notEnd
    have shorter : back.length < (word ++ back).length := by
      have := List.length_pos_iff.mpr nonempty
      simpa using this
    obtain ⟨d, tokens, passed, recorded', ahead', text, joined, -⟩ :=
      ih _ shorter back ahead rfl
    refine ⟨d, ⟨kind, String.ofList word, front.length, (escaped word).length⟩ :: tokens, ?_, ?_,
      ?_, ?_, ?_, by simp [nonempty]⟩
    · rw [skipQuoted_of_text current, passed]
      · simp [Token.isEnd, notEnd]
      · rintro rfl
        rw [isStop] at isText
        cases isText
      · rintro rfl
        cases isText
    · rw [recorded', recorded]
      simp
    · rw [escaped_append, ← List.append_assoc]
      exact ahead'
    · simpa [isText] using text
    · rw [List.map_cons, String.join_cons, joined, ← String.ofList_append]

private theorem unplaced_ofTexts {tokens : List Token} {s : List Char}
    (joined : String.join (tokens.map Token.text) = String.ofList s)
    (empty : tokens = [] ↔ s = []) : (ofTexts tokens).map Node.unplaced = literal s := by
  cases tokens with
  | nil => simp [ofTexts, literal, empty.mp rfl]
  | cons first rest =>
    have nonempty : s ≠ [] := fun none => absurd (empty.mpr none) (by simp)
    simp [ofTexts, literal, nonempty, Node.unplaced, ← joined]

/-! ## Blocks -/

/-- The cursor has passed over the inside of a block from `c` on: it is at the token that stops
the block, and the tokens between stand for the children, at their own places. -/
structure PassedTo (stop : TokenKind) (c d : Cursor) (children : List Node)
    (front rest : List Char) : Prop where
  ahead : d.Faces front rest
  tokens : ∃ inner close nodes, close.kind = stop ∧ d.current = some close ∧
    d.tokens.toList = c.tokens.toList ++ (inner ++ [close]) ∧
    Inside stop inner nodes ∧ nodes.map Node.unplaced = children

/-- The mark of a block is read. -/
theorem read_mark {kind : TokenKind} {text : List Char} (mem : ⟨kind, text⟩ ∈ Token.marks)
    {filter : List TokenKind} (allowed : allows filter kind = true) {c : Cursor}
    {front rest : List Char} (h : c.Faces front (text ++ rest)) :
    ∃ token, token.kind = kind ∧ token.unplaced = tokenOf kind text ∧
      (c.nextOf filter).current = some token ∧
      (c.nextOf filter).tokens.toList = c.tokens.toList ++ [token] ∧
      (c.nextOf filter).Faces (front ++ text) rest := by
  have read := Token.read_mark front.getLast? front.length rest mem allowed
  have notEnd : kind ≠ .endOfLine := (Token.length_pos_of_mem_spellings _
    ((by decide : ∀ s ∈ Token.marks, s ∈ spellings) _ mem)).2
  obtain ⟨current, recorded, ahead⟩ := h.nextOf read notEnd
  exact ⟨_, rfl, rfl, current, recorded, ahead⟩

theorem read_mark_next {kind : TokenKind} {text : List Char} (mem : ⟨kind, text⟩ ∈ Token.marks)
    {c : Cursor} {front rest : List Char} (h : c.Faces front (text ++ rest)) :
    ∃ token, token.kind = kind ∧ token.unplaced = tokenOf kind text ∧
      c.next.current = some token ∧ c.next.tokens.toList = c.tokens.toList ++ [token] ∧
      c.next.Faces (front ++ text) rest :=
  read_mark mem (Token.allows_nil kind) h

theorem mem_marks (mark : CallMark) : ⟨.functionStart, mark.text⟩ ∈ Token.marks := by
  cases mark <;> decide

private theorem plain_of_isText {stop : TokenKind} (isStop : stop.isText = false)
    {tokens : List Token}
    (text : ∀ t ∈ tokens, t.kind.isText = true) :
    ∀ t ∈ tokens, t.kind ≠ stop ∧ t.kind ≠ .functionStart := by
  intro t mem
  have isText := text t mem
  constructor
  · rintro rfl
    rw [isStop] at isText
    cases isText
  · intro isStart
    rw [isStart] at isText
    cases isText

/-- The inside of a written block is passed over, up to the token that stops the block. -/
theorem skipQuoted_content (content : Content) {stop : TokenKind} {ch : Char}
    (stops : Stops stop ch) {filter : List TokenKind} (allowedStop : allows filter stop = true)
    (allowedStart : allows filter .functionStart = true) {c : Cursor} {front rest : List Char}
    (h : c.Faces front (content.printed ++ ch :: rest)) :
    PassedTo stop c (skipQuoted stop filter (c.nextOf filter)) content.nodes
      (front ++ content.printed ++ [ch]) rest := by
  induction content generalizing stop ch filter c front rest with
  | text t =>
    obtain ⟨special, isStop, -⟩ := stops.cases
    obtain ⟨d, tokens, passed, recorded, ahead, text, joined, empty⟩ :=
      skipQuoted_text isStop filter special t h
    obtain ⟨close, kind, -, current, recorded', ahead'⟩ := read_mark stops.mem allowedStop ahead
    -- The text runs up to the token that stops the block, and its tokens are one literal.
    rw [passed, skipQuoted_of_stop current kind]
    refine ⟨ahead', tokens, close, ofTexts tokens, kind, current, ?_, ?_,
      unplaced_ofTexts joined empty⟩
    · rw [recorded', recorded, List.append_assoc]
    · have plain := plain_of_isText isStop text
      simpa using Inside.texts plain .nil (by simp)
  | call t mark inner more ihInner ihMore =>
    obtain ⟨-, isStop, -⟩ := stops.cases
    -- The mark of a function starts with a special character, where the text before it stops.
    obtain ⟨special, others, same, isSpecial'⟩ : ∃ special others,
        mark.text = special :: others ∧ isSpecial special = true := by
      cases mark <;> exact ⟨_, _, rfl, rfl⟩
    have parts : (Content.call t mark inner more).printed ++ ch :: rest = escaped t ++
        special :: (others ++ (inner.printed ++ '\x7d' :: (more.printed ++ ch :: rest))) := by
      simp [Content.printed, same]
    rw [parts] at h
    obtain ⟨d, tokens, passed, recorded, ahead, text, joined, empty⟩ :=
      skipQuoted_text isStop filter isSpecial' t h
    rw [← List.cons_append, ← same] at ahead
    obtain ⟨start, isStart, unplaced, current, started, inFront⟩ :=
      read_mark (mem_marks mark) allowedStart ahead
    -- The function inside is passed over first, then what stands after it.
    have inside : PassedTo .functionEnd (d.nextOf filter)
        (skipQuoted .functionEnd [] ((d.nextOf filter).nextOf [])) inner.nodes _ _ :=
      ihInner stops_functionEnd rfl rfl inFront
    have after := ihMore stops allowedStop allowedStart inside.ahead
    obtain ⟨beyond, tokens'', close'', nodes'', kind'', current'', recorded'', inside'', same''⟩ :=
      after
    obtain ⟨-, tokens', close', nodes', kind', -, recorded', inside', same'⟩ := inside
    rw [passed, skipQuoted_of_start current isStart stops.notStart]
    refine ⟨?_, tokens ++ (start :: tokens' ++ close' :: tokens''), close'',
      ofTexts tokens ++ .block .function .function start nodes' :: nodes'', kind'', current'', ?_,
      ?_, ?_⟩
    · simpa [Content.printed, Cursor.next] using beyond
    · rw [Cursor.next, recorded'', recorded', started, recorded]
      simp
    · exact Inside.texts (plain_of_isText isStop text) (.function isStart kind' inside' inside'')
        (by simp)
    · simp [Content.nodes, unplaced_ofTexts joined empty, Node.unplaced, Node.unplacedAll_eq,
        unplaced, same', same'']

end Condition

end MessageExpr
