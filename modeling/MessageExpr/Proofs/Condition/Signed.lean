import MessageExpr.Proofs.Condition.InOrder
import MessageExpr.Proofs.Condition.Reads
import MessageExpr.Proofs.Token.Longest
import MessageExpr.Proofs.Value.Whole

/-!
# Numbers and their signs

A sign and the digits after it are two tokens that become one node. The sign is not lost, and it
goes nowhere else: in the nodes of a condition a number is negative exactly where a minus sign
stands directly before its digits. A run of digits alone, or after a minus sign, is such a number,
and its value is exact wherever 64 bits can hold it.

## Main definitions

* `Node.numbers` — the numbers in a node
* `Numbered` — where the numbers of nodes stand in a row of tokens

## Main results

* `Path.exists_numbered` — where the numbers of a condition stand among its tokens
* `Number.read?_of_spelled` — the value of a run of digits
* `parse_numbers` — digits are read as numbers, and which numbers of a condition are negative
-/

namespace MessageExpr

/-! ## The numbers in nodes -/

namespace Node

mutual

/-- The numbers in a node, in the order in which they were written. -/
def numbers : Node → List Node
  | number token value negative => [number token value negative]
  | block _ _ _ children => numbersAll children
  | unary _ _ left => numbersOperand left
  | binary _ _ left right => numbersOperand left ++ numbersOperand right
  | logical _ _ left right => numbersOperand left ++ numbersOperand right
  | literal _ _ | closing _ _ _ | boolean _ | null _ => []

/-- The numbers in nodes, in the order in which they were written. -/
def numbersAll : List Node → List Node
  | [] => []
  | node :: rest => node.numbers ++ numbersAll rest

/-- The numbers in an operand, if there is one. -/
def numbersOperand : Option Node → List Node
  | none => []
  | some node => node.numbers

end

private theorem numbersAll_eq_flatMap (nodes : List Node) :
    numbersAll nodes = nodes.flatMap numbers := by
  induction nodes with
  | nil => rfl
  | cons node rest ih => rw [numbersAll, ih, List.flatMap_cons]

private theorem numbersAll_append (front back : List Node) :
    numbersAll (front ++ back) = numbersAll front ++ numbersAll back := by
  simp only [numbersAll_eq_flatMap, List.flatMap_append]

private theorem readsInOrder_numbers : ReadsInOrder numbers where
  unary _ _ _ := by simp [numbers, numbersOperand]
  binary _ _ _ _ := by simp [numbers, numbersOperand]
  logical _ _ _ _ := by simp [numbers, numbersOperand]

end Node

/-! ## The values of digits -/

namespace Decimal

variable {t : List Char} {n : Int}

theorem Spelled.not_mem_point (h : Spelled t n) : '.' ∉ t := by
  have apart : ∀ {digits}, IsDigits digits → '.' ∉ digits :=
    fun isDigits mem => absurd (isDigits.2 _ mem) (by decide)
  cases h with
  | plain digits => exact apart digits
  | plus digits => simpa using apart digits
  | minus digits => simpa using apart digits

end Decimal

namespace Number

/-- The number that an integer is read as: the integer itself where 64 bits can hold it, and the
nearest double elsewhere. -/
def ofInt (n : Int) : Number :=
  if Decimal.Fits n then .integer (Int64.ofInt n) else .float (Decimal.nearest n)

variable {n : Int}

private theorem ofInt_of_fits (h : Decimal.Fits n) :
    ∃ k : Int64, k.toInt = n ∧ ofInt n = .integer k :=
  ⟨Int64.ofInt n, Decimal.toInt_ofInt_of_fits h, if_pos h⟩

private theorem ofInt_of_not_fits (h : ¬Decimal.Fits n) :
    ofInt n = .float (Decimal.nearest n) := if_neg h

theorem read?_of_spelled {t : List Char} (h : Decimal.Spelled t n) :
    Number.read? t = some (ofInt n) := by
  have noPoint : t.contains '.' = false := by simpa using h.not_mem_point
  have whole : Decimal.word? t = Decimal.toWord? n := by
    rw [Decimal.word?, Decimal.integer?_eq_some_iff.mpr h]
    rfl
  rw [Number.read?, noPoint, whole]
  by_cases fits : Decimal.Fits n
  · rw [Decimal.toWord?_of_fits fits, ofInt, if_pos fits]
    rfl
  · have nonzero : n ≠ 0 := by
      rintro rfl
      exact fits (by decide)
    rw [Decimal.toWord?_of_not_fits fits, ofInt_of_not_fits fits]
    simp [Decimal.float?_of_spelled h nonzero]

end Number

namespace Condition

/-! ## Where numbers stand among tokens -/

/-- The kinds of tokens outside of blocks that may stand before a number and do not end with a
minus sign. -/
def unsignedKinds : List TokenKind :=
  [.whitespace, .numericValue, .booleanValue, .nullValue, .functionEnd, .singleQuote, .doubleQuote]

/-- The node is the number of one of some tokens. It is negative if the token before is a minus
sign, and if it is not, that token is of another kind. -/
def IsNumberOf (tokens : List Token) (n : Node) : Prop :=
  ∃ pre token post value negative, tokens = pre ++ token :: post ∧ token.kind = .numericValue ∧
    n = .number token value negative ∧
    if negative then ∃ sign ∈ pre.getLast?, sign.kind = .minus
    else ∀ last ∈ pre.getLast?, last.kind ∈ unsignedKinds

/-- All numbers in nodes are numbers of some tokens. -/
def Numbered (tokens : List Token) (nodes : List Node) : Prop :=
  ∀ n ∈ Node.numbersAll nodes, IsNumberOf tokens n

section numbered

variable {tokens front back : List Token} {nodes nodes' : List Node} {node : Node} {token : Token}

theorem Numbered.of_eq_nil (none : Node.numbersAll nodes = []) : Numbered tokens nodes := by
  intro n mem
  rw [none] at mem
  cases mem

/-- A number can be negative by what stands before it only, so tokens may be put before the others
if they do not end where a number starts, or end with another kind of token. -/
theorem Numbered.append (h : Numbered front nodes) (h' : Numbered back nodes')
    (apart : (∀ last ∈ front.getLast?, last.kind ∈ unsignedKinds) ∨
      ∀ head ∈ back.head?, head.kind ≠ .numericValue) :
    Numbered (front ++ back) (nodes ++ nodes') := by
  intro n mem
  rw [Node.numbersAll_append] at mem
  rcases List.mem_append.mp mem with mem | mem
  · obtain ⟨pre, token, post, value, negative, rfl, rest⟩ := h n mem
    exact ⟨pre, token, post ++ back, value, negative, by simp, rest⟩
  · obtain ⟨pre, token, post, value, negative, rfl, isNumber, same, sign⟩ := h' n mem
    refine ⟨front ++ pre, token, post, value, negative, by simp, isNumber, same, ?_⟩
    cases negative with
    | true =>
      obtain ⟨sign, last, isSign⟩ := sign
      exact ⟨sign, by simp [Option.mem_def.mp last], isSign⟩
    | false =>
      cases pre with
      | nil =>
        rcases apart with ends | starts
        · simpa using ends
        · exact absurd isNumber (starts token rfl)
      | cons first pre =>
        rw [List.getLast?_append_cons]
        exact sign

theorem Numbered.spaces (h : Numbered tokens nodes) (space : token.kind = .whitespace) :
    Numbered (token :: tokens) nodes := by
  have alone : Numbered [token] [] := .of_eq_nil rfl
  exact alone.append h (.inl (by simp [space, unsignedKinds]))

/-- A token that is a node of its own has no sign. -/
theorem Leaf.numbered (h : Leaf token node) : Numbered [token] [node] := by
  rcases h.forms with ⟨-, rfl⟩ | ⟨-, rfl⟩ | ⟨kind, value, rfl⟩ | ⟨-, _, rfl⟩ | ⟨-, _, rfl⟩ |
    ⟨-, _, rfl⟩
  case inr.inr.inl =>
    intro n mem
    obtain rfl := List.mem_singleton.mp mem
    exact ⟨[], token, [], value, false, rfl, kind, rfl, by simp⟩
  all_goals exact .of_eq_nil rfl

/-- Inside of blocks nothing is read as a number. -/
theorem Inside.numbersAll_eq {stop : TokenKind} (h : Inside stop tokens nodes) :
    Node.numbersAll nodes = [] := by
  induction h with
  | nil => rfl
  | text _ _ _ ih =>
    unfold Node.joinText
    split
    · exact ih
    · exact ih
  | function _ _ _ _ ihInner ih => rw [Node.numbersAll, Node.numbers, ihInner, ih, List.append_nil]

end numbered

/-! ## Numbers on paths -/

private theorem mem_unsignedKinds_of_isQuote {kind : TokenKind} (h : kind.isQuote = true) :
    kind ∈ unsignedKinds := by
  cases kind <;> simp [TokenKind.isQuote] at h <;> decide

/-- No operand ends with a sign. -/
theorem Operand.mem_unsignedKinds {start : Token} {more : List Step} (h : Operand start more) :
    ∀ last ∈ (start :: more.map Step.token).getLast?, last.kind ∈ unsignedKinds := by
  have block {stop : TokenKind} {filter : List TokenKind} (interior : Interior stop filter more)
      (among : stop ∈ unsignedKinds) :
      ∀ last ∈ (start :: more.map Step.token).getLast?, last.kind ∈ unsignedKinds := by
    obtain ⟨inner, close, -, same, rfl, -⟩ := interior.exists_inside
    rw [same, ← List.cons_append, List.getLast?_concat]
    simpa using among
  cases h with
  | value mem =>
    have among : ∀ kind ∈ valueKinds, kind ∈ unsignedKinds := by decide
    simpa using among _ mem
  | negative _ isNumber => simp [isNumber, unsignedKinds]
  | function _ interior => exact block interior (by decide)
  | quote isQuote interior => exact block interior (mem_unsignedKinds_of_isQuote isQuote)

/-- An operand is a row of one node, which may be a number with or without a sign. -/
theorem Operand.exists_numbered {start : Token} {more : List Step} (h : Operand start more)
    (read : start.IsRead) (readMore : ∀ step ∈ more, step.token.IsRead) :
    ∃ node, Row (start :: more.map Step.token) [node] ∧
      Numbered (start :: more.map Step.token) [node] := by
  cases h with
  | value mem =>
    obtain ⟨node, leaf⟩ := exists_leaf_of_mem_valueKinds mem read
    exact ⟨node, .leaf leaf .nil, leaf.numbered⟩
  | @negative number isSign isNumber =>
    obtain ⟨value, made⟩ := ofNumber_of_isRead (readMore _ List.mem_cons_self) isNumber true
    refine ⟨_, .negative isSign isNumber made .nil, fun n mem => ?_⟩
    obtain rfl := List.mem_singleton.mp mem
    exact ⟨[start], number, [], _, true, rfl, isNumber, rfl, start, rfl, isSign⟩
  | function isStart interior =>
    obtain ⟨inner, close, children, same, isEnd, inside⟩ := interior.exists_inside
    refine ⟨_, by simpa [same] using Row.function isStart isEnd inside .nil, .of_eq_nil ?_⟩
    rw [Node.numbersAll, Node.numbers, inside.numbersAll_eq]
    rfl
  | quote isQuote interior =>
    obtain ⟨inner, close, children, same, isStop, inside⟩ := interior.exists_inside
    refine ⟨_, by simpa [same] using Row.quote isQuote isStop inside .nil, .of_eq_nil ?_⟩
    rw [Node.numbersAll, Node.numbers, inside.numbersAll_eq]
    rfl

theorem Spaced.not_number {steps : List Step} (h : Spaced steps) :
    ∀ head ∈ (steps.map Step.token).head?, head.kind ≠ .numericValue := by
  intro head mem
  rw [List.head?_map] at mem
  obtain ⟨step, first, rfl⟩ := Option.mem_map.mp mem
  simp [(h step first).2]

/-- What ends with white space ends with no sign. -/
theorem Blank.mem_unsignedKinds {spaces : List Step} (h : Blank spaces) (nonempty : spaces ≠ [])
    (token : Token) :
    ∀ last ∈ (token :: spaces.map Step.token).getLast?, last.kind ∈ unsignedKinds := by
  obtain ⟨space, rest, rfl⟩ := List.exists_cons_of_ne_nil nonempty
  intro last mem
  rw [List.map_cons, List.getLast?_cons_cons, ← List.map_cons, List.getLast?_map] at mem
  obtain ⟨step, final, rfl⟩ := Option.mem_map.mp mem
  rw [(h step (List.mem_of_getLast? final)).2]
  decide

theorem Leaf.numbered_blank {token : Token} {node : Node} {spaces : List Step}
    (h : Leaf token node) (blank : Blank spaces) :
    Numbered (token :: spaces.map Step.token) [node] := by
  have gap : Numbered (spaces.map Step.token) [] := .of_eq_nil rfl
  exact h.numbered.append gap (.inr blank.spaced.not_number)

/-- In the row of a path the numbers are signed by what stands before them. -/
theorem Path.exists_numbered {whole : Bool} {steps : List Step} (h : Path whole steps)
    (read : ∀ step ∈ steps, step.token.IsRead) :
    ∃ nodes, Row (steps.map Step.token) nodes ∧ Numbered (steps.map Step.token) nodes := by
  induction h with
  | nil => exact ⟨[], .nil, .of_eq_nil rfl⟩
  | space kind _ ih =>
    obtain ⟨nodes, row, numbered⟩ := ih (List.forall_mem_cons.mp read).2
    exact ⟨nodes, .space kind row, numbered.spaces kind⟩
  | operand operand _ ih =>
    obtain ⟨readOperand, read⟩ := List.forall_mem_append.mp read
    obtain ⟨readStart, readMore⟩ := List.forall_mem_cons.mp readOperand
    obtain ⟨node, row, numbered⟩ := operand.exists_numbered readStart readMore
    obtain ⟨nodes, row', numbered'⟩ := ih read
    rw [List.map_append]
    exact ⟨_, row.append row', numbered.append numbered' (.inl operand.mem_unsignedKinds)⟩
  | @unary token steps kind spaced _ ih =>
    obtain ⟨readToken, read⟩ := List.forall_mem_cons.mp read
    obtain ⟨operator, made⟩ := ofUnary_of_isRead readToken kind
    have leaf : Leaf token (.unary operator token none) := by simpa only [Leaf, kind] using made
    obtain ⟨nodes, row, numbered⟩ := ih read
    -- One of these operators ends with a minus sign, and white space has to follow it.
    exact ⟨_, .leaf leaf row, leaf.numbered.append numbered (.inr spaced.not_number)⟩
  | @between token spaces _ _ steps mem blank nonempty _ operand _ _ ih =>
    obtain ⟨readOperator, read⟩ := List.forall_mem_append.mp read
    obtain ⟨readOperand, read⟩ := List.forall_mem_append.mp read
    obtain ⟨readStart, readMore⟩ := List.forall_mem_cons.mp readOperand
    obtain ⟨operator, leaf, -, -⟩ := exists_operator (List.forall_mem_cons.mp readOperator).1 mem
    obtain ⟨node, row, numbered⟩ := operand.exists_numbered readStart readMore
    obtain ⟨nodes, row', numbered'⟩ := ih read
    have ends := blank.mem_unsignedKinds nonempty token
    refine ⟨[operator] ++ ([node] ++ nodes), ?_, ?_⟩
    · simpa using (Row.leaf leaf blank.row).append (row.append row')
    · simpa using (leaf.numbered_blank blank).append
        (numbered.append numbered' (.inl operand.mem_unsignedKinds)) (.inl ends)
  | @bare token spaces _ mem blank =>
    obtain ⟨operator, leaf, -, -⟩ := exists_operator (List.forall_mem_cons.mp read).1 mem
    exact ⟨[operator], .leaf leaf blank.row, leaf.numbered_blank blank⟩

/-! ## What stands before a number in the text -/

private theorem not_mem_of_unsignedKinds :
    ∀ s ∈ spellings, s.kind ∈ unsignedKinds → '-' ∉ s.text := by
  decide

private theorem not_mem_of_number? {t digits : List Char} (h : number? t = some digits) :
    '-' ∉ digits := by
  obtain ⟨whole, after, -, isWhole, isAfter, either⟩ := eq_digits_of_number? h
  have apart : ∀ part : List Char, (∀ c ∈ part, c.isDigit = true) → '-' ∉ part :=
    fun part isDigit mem => absurd (isDigit _ mem) (by decide)
  rcases either with rfl | rfl
  · exact apart _ isWhole
  · simp [apart _ isWhole, apart _ isAfter]

/-- No minus sign is in a token that may stand before a number without a sign. -/
theorem not_mem_text_of_isRead {token : Token} (h : token.IsRead)
    (mem : token.kind ∈ unsignedKinds) : '-' ∉ token.text.toList := by
  have others : ∀ kind ∈ unsignedKinds, kind ≠ .character := by decide
  rcases h.number_or_character_or_spelling with
    ⟨-, t, digits, found, text⟩ | character | ⟨s, memSpellings, kind, text⟩
  · rw [text, String.toList_ofList]
    exact not_mem_of_number? found
  · exact absurd character (others _ mem)
  · rw [text, String.toList_ofList]
    exact not_mem_of_unsignedKinds s memSpellings (kind ▸ mem)

section reads

variable {escapes : Bool} {t : List Char} {i k : Nat} {steps : List Step}

theorem Reads.isRead (h : Reads escapes t i steps k) : ∀ step ∈ steps, step.token.IsRead := by
  induction steps generalizing i with
  | nil => simp
  | cons step rest ih =>
    obtain ⟨inside, read, reads⟩ := h
    exact List.forall_mem_cons.mpr ⟨read ▸ Token.isRead_readAt escapes step.filter inside, ih reads⟩

/-- Before the place where a token that is no single character ends stands its last character. -/
theorem Reads.before?_eq {last : Step} (h : Reads escapes t i (steps ++ [last]) k)
    (kind : last.token.kind ≠ .character) :
    before? t k = last.token.text.toList.getLast? := by
  obtain ⟨j, -, inside, read, rfl⟩ := reads_append.mp h
  have positive := (Token.length_pos_of_readAt escapes last.filter inside).1
  obtain ⟨piece, split, length, text⟩ :=
    (Token.stands_readAt escapes last.filter inside).2.exists_piece
  rw [read] at positive split length text
  have place : j + last.token.length - 1 = j + (piece.length - 1) := by omega
  rw [text kind, List.getLast?_eq_getElem?, before?, if_neg (by omega), place, ← List.getElem?_drop,
    split, List.getElem?_append_left (by omega)]

/-- A token that is no single character stands in the text where it says. -/
theorem Reads.prefix_drop {step : Step} {more : List Step}
    (h : Reads escapes t i (step :: more) k) (kind : step.token.kind ≠ .character) :
    step.token.index = i ∧ step.token.text.toList <+: t.drop i := by
  obtain ⟨inside, read, -⟩ := h
  obtain ⟨index, stands⟩ := Token.stands_readAt escapes step.filter inside
  obtain ⟨piece, split, -, text⟩ := stands.exists_piece
  rw [read] at index text
  exact ⟨index, by rw [split, text kind]; exact List.prefix_append _ _⟩

/-- In the text a number has a minus sign before it if and only if it is negative. -/
theorem IsNumberOf.sign {value : Number} {token : Token} {negative : Bool}
    (h : IsNumberOf (steps.map Step.token) (.number token value negative))
    (reads : Reads escapes t 0 steps k) :
    token.text.toList <+: t.drop token.index ∧
      (negative = true ↔ before? t token.index = some '-') := by
  obtain ⟨pre, token, post, value, negative, split, isNumber, same, sign⟩ := h
  obtain ⟨rfl, rfl, rfl⟩ := Node.number.inj same
  obtain ⟨before, rest, rfl, rfl, splitRest⟩ := List.map_eq_append_iff.mp split
  obtain ⟨step, after, rfl, rfl, rfl⟩ := List.map_eq_cons_iff.mp splitRest
  obtain ⟨j, readsBefore, readsRest⟩ := reads_append.mp reads
  obtain ⟨index, stands⟩ := readsRest.prefix_drop (by simp [isNumber])
  rw [index]
  refine ⟨stands, ?_⟩
  rcases List.eq_nil_or_concat before with rfl | ⟨front, last, rfl⟩
  · -- At the start of the text nothing stands before the number.
    obtain rfl : 0 = j := readsBefore
    cases negative with
    | true =>
      obtain ⟨sign, none, -⟩ := sign
      cases none
    | false => simp [before?]
  · rw [List.concat_eq_append] at sign readsBefore
    have read := readsBefore.isRead last (by simp)
    have final : ((front ++ [last]).map Step.token).getLast? = some last.token := by simp
    rw [final] at sign
    cases negative with
    | true =>
      obtain ⟨sign, found, isSign⟩ := sign
      obtain rfl := Option.some.inj found
      have spelled : last.token.text = "-" := text_of_onlyText? read (by rw [isSign]; rfl)
      simp [readsBefore.before?_eq (by simp [isSign]), spelled]
    | false =>
      have among : last.token.kind ∈ unsignedKinds := sign _ rfl
      have other : last.token.kind ≠ .character := by
        intro character
        rw [character] at among
        exact absurd among (by decide)
      rw [readsBefore.before?_eq other]
      simp only [Bool.false_eq_true, false_iff]
      exact fun minus => not_mem_text_of_isRead read among (List.mem_of_getLast? minus)

end reads

/-- In the nodes of a condition a number stands at its token, and it is negative if and only if a
minus sign stands directly before that. -/
theorem sign_of_parse {escapes : Bool} {text : String} {nodes : List Node}
    (h : parse escapes text = .ok nodes) {token : Token} {value : Number} {negative : Bool}
    (mem : .number token value negative ∈ Node.numbersAll nodes) :
    token.text.toList <+: text.toList.drop token.index ∧
      (negative = true ↔ before? text.toList token.index = some '-') := by
  obtain ⟨found, flat, walked, row, apart, linked⟩ := exists_row_of_parse h
  obtain ⟨steps, -, path, reads, walked', -, -⟩ := exists_path_of_parse h
  obtain rfl : steps.map Step.token = found := Except.ok.inj (walked'.symm.trans walked)
  obtain ⟨flat', row', numbered⟩ := path.exists_numbered reads.isRead
  obtain rfl := row.unique row'
  have same : Node.numbersAll nodes = Node.numbersAll flat := by
    rw [Node.numbersAll_eq_flatMap, Node.numbersAll_eq_flatMap]
    exact flatMap_of_linkOperators Node.readsInOrder_numbers row apart linked
  exact (numbered _ (same ▸ mem)).sign reads

/-! ## Digits alone -/

section digits

variable {digits : List Char} (escapes : Bool) (h : Decimal.IsDigits digits)

include h

private theorem readAt_digits (front : List Char) :
    Token.readAt escapes [] (front ++ digits) front.length =
      ⟨.numericValue, String.ofList digits, front.length, digits.length⟩ := by
  have edge : Token.Edge ([] : List Char).head? := .inl rfl
  have read (before : Option Char) := Token.read_number before front.length h.1 h.2 edge
  simp only [List.append_nil] at read
  obtain ⟨c, rest, rfl⟩ := List.exists_cons_of_ne_nil h.1
  have noSlash : c ≠ '\\' := by
    rintro rfl
    exact absurd (h.2 _ List.mem_cons_self) (by decide)
  rw [Token.readAt, List.drop_left, Token.read_of_ne_backslash noSlash, read]

private theorem readAt_minus : Token.readAt escapes [] ('-' :: digits) 0 = ⟨.minus, "-", 0, 1⟩ := by
  obtain ⟨c, rest, rfl⟩ := List.exists_cons_of_ne_nil h.1
  rw [Token.readAt, List.drop_zero, Token.read_of_ne_backslash (by decide),
    Token.read_minus _ _ (h.2 c List.mem_cons_self)]

end digits

/-- A text that is one operand and no operator is read as the node of this operand. -/
theorem parse_of_operand {escapes : Bool} {text : String} {start : Token} {more : List Step}
    {node : Node} (operand : Operand start more)
    (reads : Reads escapes text.toList 0 (⟨[], start⟩ :: more) text.toList.length)
    (row : Row (start :: more.map Step.token) [node]) :
    parse escapes text = linkOperators [node] := by
  have path : Path true (⟨[], start⟩ :: more) := by
    simpa using Path.operand operand (.nil rfl)
  exact parse_of_isRow (tokens_of_reads path reads) row

/-- Digits alone are read as the number that they spell. -/
theorem parse_digits (escapes : Bool) {digits : List Char} (h : Decimal.IsDigits digits) :
    parse escapes (String.ofList digits) = .ok [.number
      ⟨.numericValue, String.ofList digits, 0, digits.length⟩
      (.ofInt (Nat.ofDigitChars 10 digits 0 : Nat)) false] := by
  generalize same : (⟨.numericValue, String.ofList digits, 0, digits.length⟩ : Token) = token
  have operand : Operand token [] := .value (by simp [← same, valueKinds])
  have reads : Reads escapes (String.ofList digits).toList 0 [⟨[], token⟩]
      (String.ofList digits).toList.length := by
    rw [String.toList_ofList, ← same]
    exact ⟨List.length_pos_of_ne_nil h.1, readAt_digits escapes h [], Nat.zero_add _⟩
  have leaf : Leaf token (.number token (.ofInt (Nat.ofDigitChars 10 digits 0 : Nat)) false) := by
    simp [Leaf, Node.ofNumber, ← same, Number.read?_of_spelled (.plain h)]
  exact parse_of_operand operand reads (.leaf leaf .nil)

/-- Digits after a minus sign are read as one negative number. -/
theorem parse_minus_digits (escapes : Bool) {digits : List Char} (h : Decimal.IsDigits digits) :
    parse escapes (String.ofList ('-' :: digits)) = .ok [.number
      ⟨.numericValue, String.ofList digits, 1, digits.length⟩
      (.ofInt (-(Nat.ofDigitChars 10 digits 0 : Nat))) true] := by
  generalize same : (⟨.numericValue, String.ofList digits, 1, digits.length⟩ : Token) = token
  have isNumber : token.kind = .numericValue := by rw [← same]
  have operand : Operand ⟨.minus, "-", 0, 1⟩ [⟨[], token⟩] := .negative rfl isNumber
  have reads : Reads escapes (String.ofList ('-' :: digits)).toList 0
      [⟨[], ⟨.minus, "-", 0, 1⟩⟩, ⟨[], token⟩] (String.ofList ('-' :: digits)).toList.length := by
    have positive := List.length_pos_of_ne_nil h.1
    rw [String.toList_ofList, ← same]
    exact ⟨Nat.succ_pos _, readAt_minus escapes h, Nat.succ_lt_succ positive,
      readAt_digits escapes h ['-'], Nat.add_comm _ _⟩
  have made : Node.ofNumber token true =
      .ok (.number token (.ofInt (-(Nat.ofDigitChars 10 digits 0 : Nat))) true) := by
    simp [Node.ofNumber, ← same, Number.read?_of_spelled (.minus h)]
  exact parse_of_operand operand reads (.negative rfl isNumber made .nil)

/-- Digits, alone or directly after a minus sign, are read as one number. It is the integer that
they denote as long as 64 bits can hold it, which is one further with the sign, and beyond that the
nearest double. In any condition a number is negative if and only if the character before its digits
is a minus sign. -/
theorem parse_numbers (escapes : Bool) :
    (∀ digits n, Decimal.IsDigits digits → Nat.ofDigitChars 10 digits 0 = n → ∃ node value,
      parse escapes (String.ofList digits) = .ok [node] ∧
      node = .number ⟨.numericValue, String.ofList digits, 0, digits.length⟩ value false ∧
      node.parameter? = some .numericValue ∧
      (n ≤ 2 ^ 63 - 1 → ∃ k : Int64, k.toInt = n ∧ value = .integer k) ∧
      (2 ^ 63 - 1 < n → value = .float (Decimal.nearest n))) ∧
    (∀ digits n, Decimal.IsDigits digits → Nat.ofDigitChars 10 digits 0 = n → ∃ node value,
      parse escapes (String.ofList ('-' :: digits)) = .ok [node] ∧
      node = .number ⟨.numericValue, String.ofList digits, 1, digits.length⟩ value true ∧
      node.parameter? = some .minusValue ∧
      (n ≤ 2 ^ 63 → ∃ k : Int64, k.toInt = -n ∧ value = .integer k) ∧
      (2 ^ 63 < n → value = .float (Decimal.nearest (-n)))) ∧
    ∀ text nodes, parse escapes text = .ok nodes →
      ∀ token value negative, .number token value negative ∈ Node.numbersAll nodes →
        token.text.toList <+: text.toList.drop token.index ∧
        (negative = true ↔ ∃ i, token.index = i + 1 ∧ text.toList[i]? = some '-') := by
  refine ⟨?_, ?_, ?_⟩
  · rintro digits n h rfl
    refine ⟨_, _, parse_digits escapes h, rfl, rfl, fun small => ?_, fun large => ?_⟩
    · exact Number.ofInt_of_fits ⟨by omega, by omega⟩
    · exact Number.ofInt_of_not_fits fun fits => by
        have := fits.2
        omega
  · rintro digits n h rfl
    refine ⟨_, _, parse_minus_digits escapes h, rfl, rfl, fun small => ?_, fun large => ?_⟩
    · exact Number.ofInt_of_fits ⟨by omega, by omega⟩
    · exact Number.ofInt_of_not_fits fun fits => by
        have := fits.1
        omega
  · intro text nodes parsed token value negative mem
    rw [← before?_eq_some_iff]
    exact sign_of_parse parsed mem

/-- The digits of the least integer are one too many without the sign. Of two numbers in a condition
the one with a minus sign before it is negative. -/
theorem parse_numbers_least :
    (∃ token, parse true "9223372036854775808" =
      .ok [.number token (.float (Decimal.nearest 9223372036854775808)) false]) ∧
    (∃ token, ∃ k : Int64, k.toInt = -9223372036854775808 ∧
      parse true "-9223372036854775808" = .ok [.number token (.integer k) true]) ∧
    ∃ nodes, parse true "$\x7ba\x7d > -5 && $\x7bb\x7d == 5" = .ok nodes ∧
      (Node.numbersAll nodes).length = 2 ∧
      ∀ token value negative, .number token value negative ∈ Node.numbersAll nodes →
        (negative = true ↔ ∃ i, token.index = i + 1 ∧
          "$\x7ba\x7d > -5 && $\x7bb\x7d == 5".toList[i]? = some '-') := by
  have digits : Decimal.IsDigits "9223372036854775808".toList :=
    ⟨by decide, List.all_eq_true.mp (by decide +kernel)⟩
  have value : Nat.ofDigitChars 10 "9223372036854775808".toList 0 = 9223372036854775808 := by
    decide +kernel
  have two : (parse true "$\x7ba\x7d > -5 && $\x7bb\x7d == 5").map (fun nodes =>
      (Node.numbersAll nodes).length) = .ok 2 := by
    decide +kernel
  obtain ⟨plain, signed, signs⟩ := parse_numbers true
  refine ⟨?_, ?_, ?_⟩
  · obtain ⟨_, _, parsed, rfl, -, -, large⟩ := plain _ _ digits value
    rw [large (by decide)] at parsed
    exact ⟨_, parsed⟩
  · obtain ⟨_, _, parsed, rfl, -, small, -⟩ := signed _ _ digits value
    obtain ⟨k, same, rfl⟩ := small (by decide)
    exact ⟨_, k, same, parsed⟩
  · obtain ⟨nodes, parsed, length⟩ := map_eq_ok.mp two
    exact ⟨nodes, parsed, length, fun token value negative mem =>
      (signs _ nodes parsed token value negative mem).2⟩

end Condition

end MessageExpr
