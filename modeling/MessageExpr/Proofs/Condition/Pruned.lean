import Mathlib.Data.List.Forall2
import MessageExpr.Proofs.Condition.InOrder
import MessageExpr.Proofs.Condition.Open

/-!
# White space in literals

Pruning leaves the white space inside of blocks, and this is the white space that literals are made
of: each literal is gathered from tokens that stand together inside of a block, and all other tokens
inside of blocks start or end a function. Nothing outside of blocks becomes part of a literal, and
linking moves no literal.

## Main definitions

* `Node.literals` — the literals in a node, in the order in which they were written
* `Node.IsTextOf` — a literal that is made of some tokens
* `Gathered` — the tokens that the literals in nodes are made of

## Main results

* `Row.exists_gathered` — the literals of a row have all its white space that has a meaning
* `prune_spec` — what pruning keeps, and where it is found in the nodes of a condition
-/

namespace MessageExpr

/-! ## The literals in nodes -/

namespace Node

mutual

/-- The literals in a node, in the order in which they were written. -/
def literals : Node → List Node
  | literal token text => [literal token text]
  | block _ _ _ children => literalsAll children
  | unary _ _ left => literalsOperand left
  | binary _ _ left right => literalsOperand left ++ literalsOperand right
  | logical _ _ left right => literalsOperand left ++ literalsOperand right
  | closing _ _ _ | number _ _ _ | boolean _ | null _ => []

/-- The literals in nodes, in the order in which they were written. -/
def literalsAll : List Node → List Node
  | [] => []
  | node :: rest => node.literals ++ literalsAll rest

/-- The literals in an operand, if there is one. -/
def literalsOperand : Option Node → List Node
  | none => []
  | some node => node.literals

end

private theorem literalsAll_eq_flatMap (nodes : List Node) :
    literalsAll nodes = nodes.flatMap literals := by
  induction nodes with
  | nil => rfl
  | cons node rest ih => rw [literalsAll, ih, List.flatMap_cons]

private theorem literalsAll_append (front back : List Node) :
    literalsAll (front ++ back) = literalsAll front ++ literalsAll back := by
  simp only [literalsAll_eq_flatMap, List.flatMap_append]

private theorem readsInOrder_literals : ReadsInOrder literals where
  unary _ _ _ := by simp [literals, literalsOperand]
  binary _ _ _ _ := by simp [literals, literalsOperand]
  logical _ _ _ _ := by simp [literals, literalsOperand]

/-- A literal that is made of some tokens: it stands at the first of them and has their texts. -/
def IsTextOf (n : Node) (run : List Token) : Prop :=
  ∃ first more, run = first :: more ∧ n = .literal first (Token.texts run)

end Node

namespace Condition

/-! ## What literals are made of -/

/-- The runs of tokens that the literals in nodes are made of. They stand together among the tokens,
and all white space is in them. -/
structure Gathered (tokens : List Token) (nodes : List Node) (runs : List (List Token)) : Prop where
  literals : List.Forall₂ Node.IsTextOf (Node.literalsAll nodes) runs
  together : ∀ run ∈ runs, run <:+: tokens
  inOrder : runs.flatten.Sublist tokens
  spaces : tokens.filter (·.kind = .whitespace) = runs.flatten.filter (·.kind = .whitespace)

namespace Gathered

variable {tokens tokens' : List Token} {nodes nodes' : List Node} {runs runs' : List (List Token)}
variable {token : Token} {node : Node}

private theorem nil : Gathered [] [] [] where
  literals := .nil
  together := by simp
  inOrder := List.Sublist.refl _
  spaces := rfl

theorem append (h : Gathered tokens nodes runs) (h' : Gathered tokens' nodes' runs') :
    Gathered (tokens ++ tokens') (nodes ++ nodes') (runs ++ runs') where
  literals := by
    rw [Node.literalsAll_append]
    exact List.rel_append h.literals h'.literals
  together := by
    refine List.forall_mem_append.mpr ⟨fun run mem => ?_, fun run mem => ?_⟩
    · exact (h.together run mem).trans (List.prefix_append _ _).isInfix
    · exact (h'.together run mem).trans (List.suffix_append _ _).isInfix
  inOrder := by
    rw [List.flatten_append]
    exact h.inOrder.append h'.inOrder
  spaces := by
    rw [List.filter_append, List.flatten_append, List.filter_append, h.spaces, h'.spaces]

/-- A token that is no white space need not be in a literal. -/
theorem mark (printed : token.kind ≠ .whitespace) : Gathered [token] [] [] where
  literals := .nil
  together := by simp
  inOrder := List.nil_sublist _
  spaces := by simp [printed]

/-- A node without literals in it. -/
theorem of_literals_eq_nil (none : node.literals = []) : Gathered [] [node] [] where
  literals := by
    rw [Node.literalsAll, none]
    exact .nil
  together := by simp
  inOrder := List.Sublist.refl _
  spaces := rfl

/-- The literals in a block are those in its children. -/
theorem block {form : BlockForm} {kind : BlockKind} (h : Gathered tokens nodes runs)
    (start : Token) : Gathered tokens [.block form kind start nodes] runs where
  literals := by
    rw [Node.literalsAll, Node.literals, Node.literalsAll, List.append_nil]
    exact h.literals
  together := h.together
  inOrder := h.inOrder
  spaces := h.spaces

/-- The tokens that start and end a block are in no literal. -/
theorem enclosed {form : BlockForm} {kind : BlockKind} {start close : Token}
    (inner : Gathered tokens nodes runs) (h : Gathered tokens' nodes' runs')
    (opens : start.kind ≠ .whitespace) (closes : close.kind ≠ .whitespace) :
    Gathered (start :: (tokens ++ close :: tokens')) (.block form kind start nodes :: nodes')
      (runs ++ runs') :=
  (mark opens).append ((inner.block start).append ((mark closes).append h))

/-- A text is the first part of the literal that comes next, if one does. -/
theorem joinText (h : Gathered tokens nodes runs)
    (leads : ∀ first text rest, nodes = .literal first text :: rest →
      ∃ run others, runs = run :: others ∧ run <+: tokens) (token : Token) :
    ∃ run others, Gathered (token :: tokens) (Node.joinText token nodes) (run :: others) ∧
      run <+: token :: tokens := by
  unfold Node.joinText
  split
  · rename_i first text rest
    -- The token is put in front of the run of the literal, which has to come first as well.
    obtain ⟨run, others, rfl, front⟩ := leads first text rest rfl
    refine ⟨token :: run, others, ?_, List.cons_prefix_cons.mpr ⟨rfl, front⟩⟩
    obtain ⟨⟨_, _, _, made⟩, literals⟩ := List.forall₂_cons.mp h.literals
    obtain ⟨-, rfl⟩ := Node.literal.inj made
    exact {
      literals := List.forall₂_cons.mpr ⟨⟨token, run, rfl, rfl⟩, literals⟩
      together := List.forall_mem_cons.mpr ⟨(List.cons_prefix_cons.mpr ⟨rfl, front⟩).isInfix,
        fun other mem => (h.together other (List.mem_cons_of_mem _ mem)).trans
          (List.suffix_cons _ _).isInfix⟩
      inOrder := h.inOrder.cons_cons token
      spaces := by
        rw [List.flatten_cons, List.cons_append, List.filter_cons, List.filter_cons, h.spaces,
          List.flatten_cons] }
  · refine ⟨[token], runs, ?_, ⟨tokens, rfl⟩⟩
    have one : Gathered [token] [.literal token token.text] [[token]] := {
      literals := .cons ⟨token, [], rfl, by simp [Token.texts]⟩ .nil
      together := by simp
      inOrder := List.Sublist.refl _
      spaces := rfl }
    exact one.append h

end Gathered

/-- The tokens in a block are gathered in the literals of its children. -/
theorem Inside.exists_gathered {stop : TokenKind} {tokens : List Token} {nodes : List Node}
    (h : Inside stop tokens nodes) : ∃ runs, Gathered tokens nodes runs ∧
      ∀ first text rest, nodes = .literal first text :: rest →
        ∃ run others, runs = run :: others ∧ run <+: tokens := by
  induction h with
  | nil => exact ⟨[], .nil, by simp⟩
  | @text _ token _ _ _ _ _ ih =>
    obtain ⟨runs, gathered, leads⟩ := ih
    obtain ⟨run, others, gathered, front⟩ := gathered.joinText leads token
    exact ⟨run :: others, gathered, fun _ _ _ _ => ⟨run, others, rfl, front⟩⟩
  | @function _ start _ _ close _ _ isStart isEnd _ _ ihInner ih =>
    obtain ⟨runs, gathered, -⟩ := ihInner
    obtain ⟨runs', gathered', -⟩ := ih
    exact ⟨runs ++ runs', gathered.enclosed gathered' (by simp [isStart]) (by simp [isEnd]), nofun⟩

theorem Leaf.gathered {token : Token} {node : Node} (h : Leaf token node) :
    Gathered [token] [node] [] := by
  have both : token.kind ≠ .whitespace ∧ node.literals = [] := by
    rcases h.forms with ⟨kind, rfl⟩ | ⟨kind, rfl⟩ | ⟨kind, _, rfl⟩ | ⟨kind, _, rfl⟩ |
      ⟨kind, _, rfl⟩ | ⟨kind, _, rfl⟩ <;> exact ⟨by simp [kind], rfl⟩
  exact (Gathered.mark both.1).append (.of_literals_eq_nil both.2)

/-- The literals of a row have all its white space that has a meaning. -/
theorem Row.exists_gathered {tokens : List Token} {nodes : List Node} (h : Row tokens nodes) :
    ∃ runs, Gathered (meant [] tokens) nodes runs := by
  induction h with
  | nil => exact ⟨[], .nil⟩
  | space kind _ ih =>
    rw [meant_space kind]
    exact ih
  | leaf leaf _ ih =>
    obtain ⟨runs, gathered⟩ := ih
    rw [leaf.meant]
    exact ⟨runs, leaf.gathered.append gathered⟩
  | @negative sign token node tokens nodes isSign isNumber made _ ih =>
    obtain ⟨runs, gathered⟩ := ih
    have signed : Gathered [sign] [] [] := .mark (by simp [isSign])
    have number : Gathered [token] [] [] := .mark (by simp [isNumber])
    obtain ⟨value, rfl⟩ := exists_number_of_ofNumber made
    have plain : Gathered [] [.number token value true] [] := .of_literals_eq_nil rfl
    rw [meant_plain (by simp [isSign]) (by simp [isSign]) (by rw [isSign]; rfl),
      meant_plain (by simp [isNumber]) (by simp [isNumber]) (by rw [isNumber]; rfl)]
    exact ⟨runs, signed.append (number.append (plain.append gathered))⟩
  | @function start inner children close tokens nodes isStart isEnd inside _ ih =>
    obtain ⟨runs, gathered, -⟩ := inside.exists_gathered
    obtain ⟨runs', gathered'⟩ := ih
    rw [List.cons_append, meant_start isStart, inside.meant_append, meant_stop isEnd (by decide)]
    exact ⟨runs ++ runs', gathered.enclosed gathered' (by simp [isStart]) (by simp [isEnd])⟩
  | @quote start inner children close tokens nodes isQuote same inside _ ih =>
    obtain ⟨runs, gathered, -⟩ := inside.exists_gathered
    obtain ⟨runs', gathered'⟩ := ih
    have closes : close.kind.isQuote = true := same ▸ isQuote
    rw [List.cons_append, meant_quote isQuote, inside.meant_append,
      meant_stop same (not_start_of_isQuote isQuote).1]
    exact ⟨runs ++ runs', gathered.enclosed gathered' (ne_whitespace_of_isQuote isQuote)
      (ne_whitespace_of_isQuote closes)⟩

/-! ## Conditions -/

variable {escapes : Bool} {text : String} {nodes : List Node}

/-- The literals in the nodes of a condition have all the white space that pruning keeps. -/
theorem exists_gathered_of_parse (h : parse escapes text = .ok nodes) :
    ∃ found runs, tokens escapes text = .ok found ∧ Gathered (prune found) nodes runs := by
  obtain ⟨found, flat, walked, row, apart, linked⟩ := exists_row_of_parse h
  obtain ⟨runs, gathered⟩ := row.exists_gathered
  have same : Node.literalsAll nodes = Node.literalsAll flat := by
    rw [Node.literalsAll_eq_flatMap, Node.literalsAll_eq_flatMap]
    exact flatMap_of_linkOperators Node.readsInOrder_literals row apart linked
  rw [← prune_eq_meant] at gathered
  exact ⟨found, runs, walked, { gathered with literals := same ▸ gathered.literals }⟩

/-- Of any tokens, pruning keeps all that is no white space, in order, and it keeps white space
exactly where the tokens before it leave a function or a quote open; doing it again changes nothing.
When a condition is read, the white space that is kept of its tokens is exactly the white space
among the tokens that the literals in its nodes are made of. -/
theorem prune_spec (given : List Token) (escapes : Bool) (text : String) (nodes : List Node) :
    (prune given).Sublist given ∧
    (prune given).filter (·.kind ≠ .whitespace) = given.filter (·.kind ≠ .whitespace) ∧
    prune given = (given.zipIdx.filter fun placed =>
      placed.1.kind ≠ .whitespace ∨ IsOpen (given.take placed.2)).map (·.1) ∧
    prune (prune given) = prune given ∧
    (parse escapes text = .ok nodes → ∃ found runs, tokens escapes text = .ok found ∧
      List.Forall₂ Node.IsTextOf (Node.literalsAll nodes) runs ∧
      (∀ run ∈ runs, run <:+: prune found) ∧ runs.flatten.Sublist (prune found) ∧
      (prune found).filter (·.kind = .whitespace) =
        runs.flatten.filter (·.kind = .whitespace)) := by
  refine ⟨prune_sublist given, filter_prune given, prune_eq_filter given, prune_prune given, ?_⟩
  intro parsed
  obtain ⟨found, runs, walked, gathered⟩ := exists_gathered_of_parse parsed
  exact ⟨found, runs, walked, gathered.literals, gathered.together, gathered.inOrder,
    gathered.spaces⟩

/-- Of five times white space the two in a function are kept, and found in a literal. -/
theorem prune_spec_spaced :
    ∃ nodes found runs, parse true "$\x7bbody.get( 1 )\x7d == 'a b' " = .ok nodes ∧
      tokens true "$\x7bbody.get( 1 )\x7d == 'a b' " = .ok found ∧
      List.Forall₂ Node.IsTextOf (Node.literalsAll nodes) runs ∧
      found.countP (·.kind = .whitespace) = 5 ∧
      runs.flatten.countP (·.kind = .whitespace) = 2 := by
  have isOk : (parse true "$\x7bbody.get( 1 )\x7d == 'a b' ").isOk = true := by
    decide +kernel
  have counts : (tokens true "$\x7bbody.get( 1 )\x7d == 'a b' ").map (fun found =>
      (found.countP (·.kind = .whitespace), (prune found).countP (·.kind = .whitespace))) =
        .ok (5, 2) := by
    decide +kernel
  obtain ⟨nodes, parsed⟩ := exists_of_isOk isOk
  obtain ⟨found, runs, walked, literals, -, -, spaces⟩ := (prune_spec [] _ _ _).2.2.2.2 parsed
  rw [walked] at counts
  obtain ⟨all, kept⟩ := Prod.mk.inj (Except.ok.inj counts)
  rw [List.countP_eq_length_filter, spaces, ← List.countP_eq_length_filter] at kept
  exact ⟨nodes, found, runs, parsed, walked, literals, all, kept⟩

end Condition

end MessageExpr
