import MessageExpr.Proofs.Condition.Meant
import MessageExpr.Proofs.Condition.Operands
import MessageExpr.Proofs.Node.Seated
import MessageExpr.Proofs.Token.Known

/-!
# Paths over a condition

The grammar of conditions as a grammar of tokens. A step is a token together with the kinds that
were looked for when it was read, because inside of quotes few kinds are. Which lists of steps lead
over a condition can be said without a text: the tokens have to be there, and it does not matter
where.

## Main definitions

* `Step` — a token and the kinds that were looked for
* `Interior`, `Operand` — the steps over the inside of a block, and over an operand
* `Path` — the steps over a condition

## Main results

* `Path.exists_row` — the tokens of a path are a row whose operators have operands that they accept
* `Path.append` — a path goes on after white space
* `Path.respaced` — the white space in a path may be other white space
-/

namespace MessageExpr.Condition

/-- A token and the kinds that were looked for when it was read. -/
structure Step where
  filter : List TokenKind
  token : Token

/-! ## What a path is made of -/

/-- The steps over the inside of a block, with the token that stops it. Inside of functions every
kind is looked for. -/
inductive Interior : TokenKind → List TokenKind → List Step → Prop where
  | close {stop filter close} : close.kind = stop → Interior stop filter [⟨filter, close⟩]
  | text {stop filter token steps} : token.kind ≠ stop → token.kind ≠ .functionStart →
      Interior stop filter steps → Interior stop filter (⟨filter, token⟩ :: steps)
  | function {stop filter start inner steps} : start.kind = .functionStart →
      Interior .functionEnd [] inner → Interior stop filter steps →
      Interior stop filter (⟨filter, start⟩ :: inner ++ steps)

/-- The kinds of tokens that are an operand alone. -/
def valueKinds : List TokenKind := [.numericValue, .booleanValue, .nullValue]

/-- The steps over an operand after the token that it starts with. -/
inductive Operand : Token → List Step → Prop where
  | value {token} : token.kind ∈ valueKinds → Operand token []
  | negative {sign number} : sign.kind = .minus → number.kind = .numericValue →
      Operand sign [⟨[], number⟩]
  | function {start inner} : start.kind = .functionStart → Interior .functionEnd [] inner →
      Operand start inner
  | quote {start inner} : start.kind.isQuote = true →
      Interior start.kind (quoteFilter start.kind) inner → Operand start inner

/-- The step is over white space. -/
def Step.IsSpace (step : Step) : Prop := step.filter = [] ∧ step.token.kind = .whitespace

/-- All steps are over white space. -/
def Blank (steps : List Step) : Prop := ∀ step ∈ steps, step.IsSpace

/-- The first step is over white space, if there is one. -/
def Spaced (steps : List Step) : Prop := ∀ step ∈ steps.head?, step.IsSpace

/-- The kinds of tokens that start an operand on the right of an operator. -/
def allowedAfter (operator : Token) : List TokenKind :=
  match operator.kind with
  | .binaryOperator => ((BinaryOperator.ofSpelling? operator.text).map rightKinds).getD []
  | .logicalOperator => operandKinds.filter (· ≠ .minus)
  | _ => []

/-- The kinds of operators that stand between operands. -/
def betweenKinds : List TokenKind := [.binaryOperator, .logicalOperator]

/-- The steps over a condition. It is whole unless an operator at the end lacks its operand. -/
inductive Path (whole : Bool) : List Step → Prop where
  | nil : whole = true → Path whole []
  | space {token steps} : token.kind = .whitespace → Path whole steps →
      Path whole (⟨[], token⟩ :: steps)
  | operand {start more steps} : Operand start more → Path whole steps →
      Path whole (⟨[], start⟩ :: more ++ steps)
  | unary {token steps} : token.kind = .unaryOperator → Spaced steps → Path whole steps →
      Path whole (⟨[], token⟩ :: steps)
  | between {operator spaces start more steps} : operator.kind ∈ betweenKinds →
      Blank spaces → spaces ≠ [] → start.kind ∈ allowedAfter operator → Operand start more →
      Spaced steps → Path whole steps →
      Path whole (⟨[], operator⟩ :: spaces ++ (⟨[], start⟩ :: more ++ steps))
  | bare {operator spaces} : whole = false → operator.kind ∈ betweenKinds →
      Blank spaces → spaces ≠ [] → Path whole (⟨[], operator⟩ :: spaces)

section basics

variable {steps steps' : List Step} {step : Step} {whole : Bool}

theorem blank_cons : Blank (step :: steps) ↔ step.IsSpace ∧ Blank steps := List.forall_mem_cons

private theorem blank_append : Blank (steps ++ steps') ↔ Blank steps ∧ Blank steps' :=
  List.forall_mem_append

theorem Blank.spaced (h : Blank steps) : Spaced steps :=
  fun step mem => h step (List.mem_of_mem_head? mem)

theorem Spaced.append (h : Spaced steps) (h' : Spaced steps') : Spaced (steps ++ steps') := by
  cases steps with
  | nil => exact h'
  | cons step rest => exact h

/-- A path may start with white space. -/
theorem Path.spaces (blank : Blank steps) (h : Path whole steps') :
    Path whole (steps ++ steps') := by
  induction steps with
  | nil => exact h
  | cons step rest ih =>
    obtain ⟨⟨any, space⟩, blankRest⟩ := blank_cons.mp blank
    obtain ⟨filter, token⟩ := step
    obtain rfl : filter = [] := any
    exact .space space (ih blankRest)

theorem mem_operandKinds_of_allowedAfter {operator : Token} {kind : TokenKind}
    (h : kind ∈ allowedAfter operator) : kind ∈ operandKinds := by
  unfold allowedAfter at h
  split at h
  · cases known : BinaryOperator.ofSpelling? operator.text with
    | none =>
      rw [known] at h
      cases h
    | some found =>
      rw [known] at h
      exact rightKinds_subset found kind h
  · exact (List.mem_filter.mp h).1
  · cases h

theorem plain_of_valueKinds : ∀ kind ∈ valueKinds,
    kind ∈ operandKinds ∧ opensAfter [] kind = [] ∧ kind ≠ .character := by
  decide

theorem Operand.mem_operandKinds {start : Token} (h : Operand start steps) :
    start.kind ∈ operandKinds := by
  cases h with
  | value mem => exact (plain_of_valueKinds _ mem).1
  | negative isSign => rw [isSign]; decide
  | function isStart => rw [isStart]; decide
  | quote isQuote =>
    have among : ∀ kind : TokenKind, kind.isQuote = true → kind ∈ operandKinds := by
      intro kind
      cases kind <;> decide
    exact among _ isQuote

end basics

/-! ## Rows of paths -/

/-- The inside of a block and the token that stops it. -/
theorem Interior.exists_inside {stop : TokenKind} {filter : List TokenKind} {steps : List Step}
    (h : Interior stop filter steps) :
    ∃ inner close children, steps.map Step.token = inner ++ [close] ∧ close.kind = stop ∧
      Inside stop inner children := by
  induction h with
  | @close _ _ close isStop => exact ⟨[], close, [], rfl, isStop, .nil⟩
  | @text _ _ token _ other plain _ ih =>
    obtain ⟨inner, close, children, same, isStop, inside⟩ := ih
    exact ⟨token :: inner, close, _, by simp [same], isStop, .text other plain inside⟩
  | @function _ _ start _ _ isStart _ _ ihInner ih =>
    obtain ⟨inner, close, children, same, isEnd, inside⟩ := ihInner
    obtain ⟨inner', close', children', same', isStop, inside'⟩ := ih
    exact ⟨start :: inner ++ close :: inner', close', _, by simp [same, same'], isStop,
      .function isStart isEnd inside inside'⟩

/-- A token that is an operand alone is a node of its own. -/
theorem exists_leaf_of_mem_valueKinds {token : Token} (mem : token.kind ∈ valueKinds)
    (read : token.IsRead) : ∃ node, Leaf token node := by
  simp only [valueKinds, List.mem_cons, List.not_mem_nil, or_false] at mem
  rcases mem with kind | kind | kind
  · obtain ⟨node, made⟩ := ofNumber_of_isRead read kind false
    exact ⟨_, by simpa only [Leaf, kind] using made⟩
  · exact ⟨.boolean token, by simp only [Leaf, kind]⟩
  · exact ⟨.null token, by simp only [Leaf, kind]⟩

/-- An operand is a row of one node. -/
theorem Operand.exists_row {start : Token} {more : List Step} (h : Operand start more)
    (read : start.IsRead) (readMore : ∀ step ∈ more, step.token.IsRead) :
    ∃ node, Row (start :: more.map Step.token) [node] := by
  cases h with
  | value mem =>
    obtain ⟨node, leaf⟩ := exists_leaf_of_mem_valueKinds mem read
    exact ⟨node, .leaf leaf .nil⟩
  | negative isSign isNumber =>
    obtain ⟨node, made⟩ := ofNumber_of_isRead (readMore _ List.mem_cons_self) isNumber true
    exact ⟨_, .negative isSign isNumber made .nil⟩
  | function isStart interior =>
    obtain ⟨inner, close, children, same, isEnd, inside⟩ := interior.exists_inside
    exact ⟨_, by simpa [same] using Row.function isStart isEnd inside .nil⟩
  | quote isQuote interior =>
    obtain ⟨inner, close, children, same, isStop, inside⟩ := interior.exists_inside
    exact ⟨_, by simpa [same] using Row.quote isQuote isStop inside .nil⟩

/-- An operator between operands is a node that lets the operands that are allowed after it come
after it. -/
theorem exists_operator {token : Token} (read : token.IsRead) (mem : token.kind ∈ betweenKinds) :
    ∃ operator, Leaf token operator ∧ operator.IsBare [.binary, .logical] ∧
      ∀ {start rest node}, Row (start :: rest) [node] → start.kind ∈ allowedAfter token →
        operator.Seats node := by
  simp only [betweenKinds, List.mem_cons, List.not_mem_nil, or_false] at mem
  rcases mem with kind | kind
  · obtain ⟨operator, known, made⟩ := ofBinary_of_isRead read kind
    refine ⟨.binary operator token none none, by simpa only [Leaf, kind] using made,
      .binary (by simp), fun row allowed => ?_⟩
    simp only [allowedAfter, kind, known] at allowed
    exact row.accepts_of_mem_rightKinds allowed
  · obtain ⟨operator, made⟩ := ofLogical_of_isRead read kind
    refine ⟨.logical operator token none none, by simpa only [Leaf, kind] using made,
      .logical (by simp), fun row allowed => ?_⟩
    exact row.isSome_parameter? (mem_operandKinds_of_allowedAfter allowed)

theorem Blank.row {steps : List Step} (h : Blank steps) : Row (steps.map Step.token) [] :=
  Row.spaces fun token mem => by
    obtain ⟨step, memStep, rfl⟩ := List.mem_map.mp mem
    exact (h step memStep).2

/-- The tokens of a path are a row whose operators have operands that they accept on their right.
If it is not whole, it ends with an operator without operands. -/
theorem Path.exists_row {whole : Bool} {steps : List Step} (h : Path whole steps)
    (read : ∀ step ∈ steps, step.token.IsRead) :
    ∃ nodes, Row (steps.map Step.token) nodes ∧ Seated nodes ∧
      (whole = false → ∃ n ∈ nodes.getLast?, n.IsBare [.binary, .logical]) := by
  -- What comes before an operand that is last so far may be followed by anything.
  have onward {front : List Token} {before : List Node} (row : Row front before)
      (seated : Seated before) (last : ∀ n ∈ before.getLast?, n.parameter?.isSome = true)
      {steps : List Step}
      (rest : ∃ nodes, Row (steps.map Step.token) nodes ∧ Seated nodes ∧
        (whole = false → ∃ n ∈ nodes.getLast?, n.IsBare [.binary, .logical])) :
      ∃ nodes, Row (front ++ steps.map Step.token) nodes ∧ Seated nodes ∧
        (whole = false → ∃ n ∈ nodes.getLast?, n.IsBare [.binary, .logical]) := by
    obtain ⟨nodes, row', seated', bare⟩ := rest
    refine ⟨_, row.append row', seated_append seated seated' last, fun hangs => ?_⟩
    obtain ⟨n, mem, isBare⟩ := bare hangs
    exact ⟨n, by simp [Option.mem_def.mp mem], isBare⟩
  induction h with
  | nil isWhole => exact ⟨[], .nil, .nil, by simp [isWhole]⟩
  | @space token _ kind _ ih =>
    have row : Row [token] [] := .space kind .nil
    exact onward row .nil (by simp) (ih (List.forall_mem_cons.mp read).2)
  | operand operand _ ih =>
    obtain ⟨readOperand, read⟩ := List.forall_mem_append.mp read
    obtain ⟨readStart, readMore⟩ := List.forall_mem_cons.mp readOperand
    obtain ⟨node, row⟩ := operand.exists_row readStart readMore
    have last := row.isSome_parameter? operand.mem_operandKinds
    simpa using onward row (.singleton _) (by simpa using last) (ih read)
  | @unary token _ kind _ _ ih =>
    obtain ⟨readToken, read⟩ := List.forall_mem_cons.mp read
    obtain ⟨operator, made⟩ := ofUnary_of_isRead readToken kind
    have leaf : Leaf token (.unary operator token none) := by
      simpa only [Leaf, kind] using made
    exact onward (.leaf leaf .nil) (.singleton _) (by simp [Node.parameter?]) (ih read)
  | @between token spaces _ _ _ mem blank _ allowed operand _ _ ih =>
    obtain ⟨readOperator, read⟩ := List.forall_mem_append.mp read
    obtain ⟨readOperand, read⟩ := List.forall_mem_append.mp read
    obtain ⟨readStart, readMore⟩ := List.forall_mem_cons.mp readOperand
    obtain ⟨operator, leaf, -, seats⟩ :=
      exists_operator (List.forall_mem_cons.mp readOperator).1 mem
    obtain ⟨node, row⟩ := operand.exists_row readStart readMore
    have last := row.isSome_parameter? operand.mem_operandKinds
    have both : Row (token :: spaces.map Step.token ++ _) [operator, node] :=
      (Row.leaf leaf blank.row).append row
    simpa using onward both (.cons_cons (seats row allowed) (.singleton _)) (by simpa using last)
      (ih read)
  | @bare token spaces _ mem blank =>
    obtain ⟨operator, leaf, bare, -⟩ := exists_operator (List.forall_mem_cons.mp read).1 mem
    exact ⟨[operator], .leaf leaf blank.row, .singleton _, fun _ => ⟨operator, rfl, bare⟩⟩

/-! ## Paths one after the other -/

/-- A whole path goes on after white space. -/
theorem Path.append {whole : Bool} {front back : List Step} (h : Path true front)
    (spaced : Spaced back) (h' : Path whole back) : Path whole (front ++ back) := by
  induction h with
  | nil => exact h'
  | space kind _ ih => exact .space kind ih
  | operand operand _ ih =>
    rw [List.append_assoc]
    exact .operand operand ih
  | unary kind spaced' _ ih => exact .unary kind (spaced'.append spaced) ih
  | between mem blank nonempty allowed operand spaced' _ ih =>
    simp only [List.append_assoc]
    exact .between mem blank nonempty allowed operand (spaced'.append spaced) ih
  | bare hangs => cases hangs

/-! ## White space in paths -/

/-- Blocks that are open before the inside of a block are open all over it, so that what is outside
of blocks comes after it. -/
theorem Interior.exists_after {stop : TokenKind} {filter : List TokenKind} {steps : List Step}
    (h : Interior stop filter steps) (other : stop ≠ .functionStart) {outer : List TokenKind}
    {rest pre post : List Step} (same : steps ++ rest = pre ++ post)
    (outside : opensAfterAll (stop :: outer) (pre.map Step.token) = []) :
    ∃ after, pre = steps ++ after ∧ rest = after ++ post ∧
      opensAfterAll outer (after.map Step.token) = [] := by
  -- Until the block is closed something is open, so that the first part cannot be over in it.
  induction h generalizing outer rest pre with
  | close isStop =>
    cases pre with
    | nil => cases outside
    | cons step pre =>
      obtain ⟨rfl, sameRest⟩ := List.cons.inj same
      rw [List.map_cons, opensAfterAll_cons, isStop, opensAfter_stop other] at outside
      exact ⟨pre, rfl, sameRest, outside⟩
  | text differs plain _ ih =>
    cases pre with
    | nil => cases outside
    | cons step pre =>
      obtain ⟨rfl, sameRest⟩ := List.cons.inj same
      rw [List.map_cons, opensAfterAll_cons, opensAfter_text differs plain] at outside
      obtain ⟨after, rfl, rest, outside⟩ := ih other sameRest outside
      exact ⟨after, rfl, rest, outside⟩
  | @function _ _ _ inner steps isStart _ _ ihInner ih =>
    cases pre with
    | nil => cases outside
    | cons step pre =>
      obtain ⟨rfl, sameRest⟩ := List.cons.inj same
      have sameInner : inner ++ (steps ++ rest) = pre ++ post := by simpa using sameRest
      rw [List.map_cons, opensAfterAll_cons, isStart, opensAfter_start] at outside
      obtain ⟨rest', rfl, sameOuter, outside⟩ := ihInner (by decide) sameInner outside
      obtain ⟨after, rfl, rest, outside⟩ := ih other sameOuter outside
      exact ⟨after, by simp, rest, outside⟩

/-- White space outside of blocks comes after an operand, not in it. -/
theorem Operand.exists_after {start : Token} {more rest pre post : List Step} {space : Step}
    (h : Operand start more) (same : ⟨[], start⟩ :: more ++ rest = pre ++ space :: post)
    (isSpace : space.token.kind = .whitespace) (outside : IsOutside (pre.map Step.token)) :
    ∃ after, pre = ⟨[], start⟩ :: more ++ after ∧ rest = after ++ space :: post ∧
      IsOutside (after.map Step.token) := by
  cases pre with
  | nil =>
    obtain ⟨rfl, -⟩ := List.cons.inj same
    have mem := h.mem_operandKinds
    rw [isSpace] at mem
    exact absurd mem (by decide)
  | cons step pre =>
    obtain ⟨rfl, sameRest⟩ := List.cons.inj same
    rw [IsOutside, List.map_cons, opensAfterAll_cons] at outside
    cases h with
    | value mem =>
      rw [(plain_of_valueKinds _ mem).2.1] at outside
      exact ⟨pre, rfl, sameRest, outside⟩
    | negative isSign isNumber =>
      rw [isSign, opensAfter_plain (by decide) rfl] at outside
      cases pre with
      | nil =>
        obtain ⟨rfl, -⟩ := List.cons.inj sameRest
        exact absurd (isNumber.symm.trans isSpace) (by decide)
      | cons step pre =>
        obtain ⟨rfl, sameAfter⟩ := List.cons.inj sameRest
        rw [List.map_cons, opensAfterAll_cons, isNumber, opensAfter_plain (by decide) rfl]
          at outside
        exact ⟨pre, rfl, sameAfter, outside⟩
    | function isStart interior =>
      rw [isStart, opensAfter_start] at outside
      obtain ⟨after, rfl, rest, outside⟩ := interior.exists_after (by decide) sameRest outside
      exact ⟨after, rfl, rest, outside⟩
    | quote isQuote interior =>
      rw [opensAfter_quote isQuote] at outside
      obtain ⟨after, rfl, rest, outside⟩ :=
        interior.exists_after (not_start_of_isQuote isQuote).1 sameRest outside
      exact ⟨after, rfl, rest, outside⟩

section respaced

variable {pre post spaces : List Step} {space : Step}

theorem Spaced.respaced (h : Spaced (pre ++ space :: post)) (blank : Blank spaces)
    (nonempty : spaces ≠ []) : Spaced (pre ++ spaces ++ post) := by
  cases pre with
  | nil =>
    obtain ⟨step, rest, rfl⟩ := List.exists_cons_of_ne_nil nonempty
    exact blank.spaced
  | cons step pre => exact h

theorem Blank.opensAfterAll_eq (h : Blank spaces) :
    opensAfterAll [] (spaces.map Step.token) = [] := by
  induction spaces with
  | nil => rfl
  | cons step rest ih =>
    obtain ⟨⟨-, isSpace⟩, blank⟩ := blank_cons.mp h
    rw [List.map_cons, opensAfterAll_cons, isSpace, opensAfter_plain (by decide) rfl, ih blank]

/-- The token that stops a block closes it. -/
theorem Interior.opensAfterAll_eq {stop : TokenKind} {filter : List TokenKind} {steps : List Step}
    (h : Interior stop filter steps) (other : stop ≠ .functionStart) (outer : List TokenKind) :
    opensAfterAll (stop :: outer) (steps.map Step.token) = outer := by
  induction h generalizing outer with
  | close isStop =>
    rw [List.map_cons, opensAfterAll_cons, isStop, opensAfter_stop other]
    rfl
  | text differs plain _ ih =>
    rw [List.map_cons, opensAfterAll_cons, opensAfter_text differs plain, ih other]
  | function isStart _ _ ihInner ih =>
    rw [List.map_append, List.map_cons, List.cons_append, opensAfterAll_cons, isStart,
      opensAfter_start, opensAfterAll_append, ihInner (by decide), ih other]

theorem Operand.isOutside {start : Token} {more : List Step} (h : Operand start more) :
    IsOutside (start :: more.map Step.token) := by
  rw [IsOutside, opensAfterAll_cons]
  cases h with
  | value mem => exact (plain_of_valueKinds _ mem).2.1
  | negative isSign isNumber =>
    rw [isSign, opensAfter_plain (by decide) rfl, List.map_singleton, opensAfterAll_cons, isNumber]
    rfl
  | function isStart interior =>
    rw [isStart, opensAfter_start, interior.opensAfterAll_eq (by decide)]
  | quote isQuote interior =>
    rw [opensAfter_quote isQuote, interior.opensAfterAll_eq (not_start_of_isQuote isQuote).1]

/-- White space outside of blocks, after the first token, comes after that one. -/
theorem exists_cons_of_isOutside {token : Token} {steps : List Step}
    (same : ⟨[], token⟩ :: steps = pre ++ space :: post) (isSpace : space.token.kind = .whitespace)
    (other : token.kind ≠ .whitespace) (plain : opensAfter [] token.kind = [])
    (outside : IsOutside (pre.map Step.token)) :
    ∃ after, pre = ⟨[], token⟩ :: after ∧ steps = after ++ space :: post ∧
      IsOutside (after.map Step.token) := by
  cases pre with
  | nil =>
    obtain ⟨rfl, -⟩ := List.cons.inj same
    exact absurd isSpace other
  | cons step pre =>
    obtain ⟨rfl, sameRest⟩ := List.cons.inj same
    rw [IsOutside, List.map_cons, opensAfterAll_cons, plain] at outside
    exact ⟨pre, rfl, sameRest, outside⟩

theorem plain_of_betweenKinds : ∀ kind ∈ betweenKinds,
    kind ≠ .whitespace ∧ opensAfter [] kind = [] ∧ kind ≠ .character := by
  decide

/-- After a path no block is open. -/
theorem Path.isOutside {whole : Bool} {steps : List Step} (h : Path whole steps) :
    IsOutside (steps.map Step.token) := by
  induction h with
  | nil => rfl
  | space kind _ ih | unary kind _ _ ih =>
    rw [IsOutside, List.map_cons, opensAfterAll_cons, kind]
    exact ih
  | operand operand _ ih =>
    rw [IsOutside, List.map_append, opensAfterAll_append, List.map_cons, operand.isOutside]
    exact ih
  | between mem blank _ _ operand _ _ ih =>
    rw [IsOutside, List.map_append, opensAfterAll_append, List.map_cons, opensAfterAll_cons,
      (plain_of_betweenKinds _ mem).2.1, blank.opensAfterAll_eq, List.map_append,
      opensAfterAll_append, List.map_cons, operand.isOutside]
    exact ih
  | bare _ mem blank =>
    rw [IsOutside, List.map_cons, opensAfterAll_cons, (plain_of_betweenKinds _ mem).2.1,
      blank.opensAfterAll_eq]

theorem forall_getLast?_append {α : Type} {P : α → Prop} {l l' : List α}
    (h : ∀ a ∈ l.getLast?, P a) (h' : ∀ a ∈ l'.getLast?, P a) : ∀ a ∈ (l ++ l').getLast?, P a := by
  intro a mem
  rw [List.getLast?_append] at mem
  cases last : l'.getLast? with
  | none => exact h a (by simpa [last] using mem)
  | some b => exact h' a (by simpa [last] using mem)

private theorem forall_getLast?_cons {α : Type} {P : α → Prop} {a : α} {l : List α} (h : P a)
    (h' : ∀ b ∈ l.getLast?, P b) : ∀ b ∈ (a :: l).getLast?, P b := by
  rw [← List.singleton_append]
  exact forall_getLast?_append (by simpa using h) h'

theorem Blank.kind_getLast? (h : Blank spaces) :
    ∀ last ∈ spaces.getLast?, last.token.kind ≠ .character := by
  intro last mem
  rw [(h last (List.mem_of_getLast? mem)).2]
  decide

theorem Interior.kind_getLast? {stop : TokenKind} {filter : List TokenKind} {steps : List Step}
    (h : Interior stop filter steps) : ∀ last ∈ steps.getLast?, last.token.kind = stop := by
  intro last mem
  obtain ⟨inner, close, -, same, isStop, -⟩ := h.exists_inside
  have token : (steps.map Step.token).getLast? = some last.token := by
    rw [List.getLast?_map, Option.mem_def.mp mem, Option.map_some]
  rw [same, List.getLast?_concat, Option.some.injEq] at token
  rw [← token, isStop]

/-- No operand ends with a single character, as characters have a meaning inside of blocks only. -/
theorem Operand.kind_getLast? {start : Token} {more : List Step} (h : Operand start more) :
    ∀ last ∈ (⟨[], start⟩ :: more : List Step).getLast?, last.token.kind ≠ .character := by
  have block {stop : TokenKind} {filter : List TokenKind} (interior : Interior stop filter more)
      (other : stop ≠ .character) :
      ∀ last ∈ (⟨[], start⟩ :: more : List Step).getLast?, last.token.kind ≠ .character := by
    intro last mem
    cases more with
    | nil => cases interior
    | cons step more =>
      rw [List.getLast?_cons_cons] at mem
      rw [interior.kind_getLast? last mem]
      exact other
  cases h with
  | value mem => simpa using (plain_of_valueKinds _ mem).2.2
  | negative _ isNumber => simp [isNumber]
  | function _ interior => exact block interior (by decide)
  | quote isQuote interior =>
    refine block interior fun character => ?_
    rw [character] at isQuote
    cases isQuote

/-- No path ends with a single character. -/
theorem Path.kind_getLast? {whole : Bool} {steps : List Step} (h : Path whole steps) :
    ∀ last ∈ steps.getLast?, last.token.kind ≠ .character := by
  induction h with
  | nil => simp
  | space kind _ ih => exact forall_getLast?_cons (by simp [kind]) ih
  | operand operand _ ih => exact forall_getLast?_append operand.kind_getLast? ih
  | unary kind _ _ ih => exact forall_getLast?_cons (by simp [kind]) ih
  | between mem blank _ _ operand _ _ ih =>
    have rest := forall_getLast?_append operand.kind_getLast? ih
    have spaces := forall_getLast?_append blank.kind_getLast? rest
    exact forall_getLast?_cons (plain_of_betweenKinds _ mem).2.2 spaces
  | bare _ mem blank =>
    exact forall_getLast?_cons (plain_of_betweenKinds _ mem).2.2 blank.kind_getLast?

/-- White space outside of blocks in a path does not come after a single character, and may be other
white space. -/
theorem Path.respaced {whole : Bool} (h : Path whole (pre ++ space :: post))
    (isSpace : space.token.kind = .whitespace) (outside : IsOutside (pre.map Step.token)) :
    (∀ last ∈ pre.getLast?, last.token.kind ≠ .character) ∧
      ∀ {spaces}, Blank spaces → spaces ≠ [] → Path whole (pre ++ spaces ++ post) := by
  -- The white space is in what comes after each element, unless it is the element or in its gap.
  generalize same : pre ++ space :: post = steps at h
  replace same := same.symm
  induction h generalizing pre with
  | nil => simp at same
  | @space token _ kind path ih =>
    cases pre with
    | nil =>
      obtain ⟨-, rfl⟩ := List.cons.inj same
      exact ⟨by simp, fun blank _ => path.spaces blank⟩
    | cons step pre =>
      obtain ⟨rfl, sameRest⟩ := List.cons.inj same
      rw [IsOutside, List.map_cons, opensAfterAll_cons, kind, opensAfter_plain (by decide) rfl]
        at outside
      obtain ⟨last, path⟩ := ih outside sameRest
      refine ⟨forall_getLast?_cons (by simp [kind]) last, fun blank nonempty => ?_⟩
      exact .space kind (path blank nonempty)
  | operand operand _ ih =>
    obtain ⟨after, rfl, same, outside⟩ := operand.exists_after same isSpace outside
    obtain ⟨last, path⟩ := ih outside same
    refine ⟨forall_getLast?_append operand.kind_getLast? last, fun blank nonempty => ?_⟩
    simpa using Path.operand operand (path blank nonempty)
  | unary kind spaced _ ih =>
    obtain ⟨after, rfl, rfl, outside⟩ :=
      exists_cons_of_isOutside same isSpace (by simp [kind]) (by rw [kind]; rfl) outside
    obtain ⟨last, path⟩ := ih outside rfl
    refine ⟨forall_getLast?_cons (by simp [kind]) last, fun blank nonempty => ?_⟩
    exact .unary kind (spaced.respaced blank nonempty) (path blank nonempty)
  | @between operator gap start more steps mem blankGap nonemptyGap allowed operand spaced rest
      ih =>
    obtain ⟨other, plain, text⟩ := plain_of_betweenKinds _ mem
    obtain ⟨after, rfl, sameRest, outside⟩ :=
      exists_cons_of_isOutside same isSpace other plain outside
    -- The white space stands after the start of the operand, or before it.
    rcases List.append_eq_append_iff.mp sameRest with
      ⟨later, rfl, sameLater⟩ | ⟨gap', rfl, sameLater⟩
    · rw [IsOutside, List.map_append, opensAfterAll_append, blankGap.opensAfterAll_eq] at outside
      obtain ⟨after, rfl, rfl, outside⟩ := operand.exists_after sameLater isSpace outside
      obtain ⟨last, path⟩ := ih outside rfl
      refine ⟨?_, fun blank nonempty => ?_⟩
      · have lastOperand := forall_getLast?_append operand.kind_getLast? last
        exact forall_getLast?_cons text
          (forall_getLast?_append blankGap.kind_getLast? lastOperand)
      · simpa using Path.between mem blankGap nonemptyGap allowed operand
          (spaced.respaced blank nonempty) (path blank nonempty)
    · cases gap' with
      | nil =>
        have sameStart : ⟨[], start⟩ :: more ++ steps = [] ++ space :: post := sameLater.symm
        obtain ⟨after, none, -⟩ := operand.exists_after sameStart isSpace rfl
        cases none
      | cons step gap' =>
        obtain ⟨rfl, rfl⟩ := List.cons.inj sameLater
        obtain ⟨blankBefore, blankAfter⟩ := blank_append.mp blankGap
        refine ⟨?_, fun {spaces} blank nonempty => ?_⟩
        · exact forall_getLast?_cons text blankBefore.kind_getLast?
        · have blankGap : Blank (after ++ spaces ++ gap') :=
            blank_append.mpr ⟨blank_append.mpr ⟨blankBefore, blank⟩, (blank_cons.mp blankAfter).2⟩
          simpa using Path.between mem blankGap (by simp [nonempty]) allowed operand spaced rest
  | @bare operator gap hangs mem blankGap =>
    obtain ⟨other, plain, text⟩ := plain_of_betweenKinds _ mem
    obtain ⟨after, rfl, rfl, outside⟩ := exists_cons_of_isOutside same isSpace other plain outside
    obtain ⟨blankBefore, blankAfter⟩ := blank_append.mp blankGap
    refine ⟨?_, fun blank nonempty => ?_⟩
    · exact forall_getLast?_cons text blankBefore.kind_getLast?
    · exact .bare hangs mem
        (blank_append.mpr ⟨blank_append.mpr ⟨blankBefore, blank⟩, (blank_cons.mp blankAfter).2⟩)
        (by simp [nonempty])

end respaced

end MessageExpr.Condition
