import MessageExpr.Proofs.Condition.Reads

/-!
# White space without a meaning

White space may be put in at the ends of a condition, and beside white space that stands outside of
quotes and functions. The condition keeps its nodes then, those after the gap at their later places:
an operator of two words is still one word, and an operand is still set apart.

## Main definitions

* `IsGap` — a place where white space has no meaning
* `inserted`, `movedFrom` — a text that was put into another one, and the places after it

## Main results

* `parse_respaced` — white space outside of blocks may be other white space
* `parse_inserted` — white space put into a gap leaves the nodes as they are
-/

namespace MessageExpr.Condition

variable {escapes : Bool}

/-! ## Gaps -/

/-- A place where white space has no meaning: at the ends of the text, and beside white space that
was recorded outside of blocks. -/
inductive IsGap (escapes : Bool) (text : String) : Nat → Prop where
  | start : IsGap escapes text 0
  | finish : IsGap escapes text text.length
  | before {front space back} : tokens escapes text = .ok (front ++ space :: back) →
      space.kind = .whitespace → IsOutside front → IsGap escapes text space.index
  | after {front space back} : tokens escapes text = .ok (front ++ space :: back) →
      space.kind = .whitespace → IsOutside front →
      IsGap escapes text (space.index + space.length)

/-- The text with another text put in at a place. -/
def inserted (text : String) (place : Nat) (w : String) : String :=
  String.ofList (text.toList.take place ++ w.toList ++ text.toList.drop place)

/-- Where a place is after so many characters were put in. -/
def movedFrom (place count i : Nat) : Nat := if i < place then i else i + count

private theorem relocated_of_lt {place : Nat} {steps : List Step}
    (earlier : ∀ step ∈ steps, step.token.index < place) (count : Nat) :
    steps.map (Step.relocated (movedFrom place count)) = steps := by
  refine (List.map_congr_left fun step mem => ?_).trans (List.map_id _)
  have stays : movedFrom place count step.token.index = step.token.index :=
    if_pos (earlier step mem)
  rw [Step.relocated, Token.relocated, stays]
  rfl

private theorem relocated_of_le {place : Nat} {steps : List Step}
    (later : ∀ step ∈ steps, place ≤ step.token.index) (count : Nat) :
    steps.map (Step.relocated (movedFrom place count)) =
      steps.map (Step.relocated (· + count)) := by
  refine List.map_congr_left fun step mem => ?_
  have moves : movedFrom place count step.token.index = step.token.index + count :=
    if_neg (Nat.not_lt.mpr (later step mem))
  rw [Step.relocated, Token.relocated, moves]
  rfl

/-! ## White space in texts -/

private theorem edge_head_append {u : List Char} (blank : ∀ b ∈ u, b ∈ Token.spaces)
    (nonempty : u ≠ [])
    (rest : List Char) : Token.Edge (u ++ rest).head? := by
  obtain ⟨b, u, rfl⟩ := List.exists_cons_of_ne_nil nonempty
  exact Token.edge_cons (blank b List.mem_cons_self) _

private theorem edge_getLast?_append {u : List Char} (blank : ∀ b ∈ u, b ∈ Token.spaces)
    (nonempty : u ≠ []) (front : List Char) : Token.Edge (front ++ u).getLast? := by
  rw [List.getLast?_append_of_ne_nil _ nonempty]
  exact .inr ⟨u.getLast nonempty, blank _ (List.getLast_mem nonempty),
    List.getLast?_eq_some_getLast nonempty⟩

private theorem subset_spaces_of_mem_spellings : ∀ s ∈ spellings, s.kind = .whitespace →
    s.text.length = 1 ∧ s.text ⊆ Token.spaces := by
  decide

/-- White space is read where one character of it stands. -/
theorem exists_space_of_readAt {filter : List TokenKind} {t : List Char} {i : Nat}
    (inside : i < t.length)
    (isSpace : (Token.readAt escapes filter t i).kind = .whitespace) :
    ∃ b rest, b ∈ Token.spaces ∧ t = t.take i ++ b :: rest ∧
      (Token.readAt escapes filter t i).index = i ∧
      (Token.readAt escapes filter t i).length = 1 := by
  obtain ⟨index, stands⟩ := Token.stands_readAt escapes filter inside
  obtain ⟨piece, whole, length, text⟩ := stands.exists_piece
  obtain ⟨s, mem, kind, spelled⟩ := (Token.isRead_readAt escapes filter inside).exists_spelling
    (by rw [isSpace]; decide) (by rw [isSpace]; decide)
  obtain ⟨single, blank⟩ := subset_spaces_of_mem_spellings s mem (kind.trans isSpace)
  have same : s.text = piece := by
    rw [← text (by rw [isSpace]; decide), spelled, String.toList_ofList]
  obtain ⟨b, only⟩ := List.length_eq_one_iff.mp single
  refine ⟨b, t.drop (i + (Token.readAt escapes filter t i).length), blank (by simp [only]), ?_,
    index, ?_⟩
  · rw [← same, only, List.singleton_append] at whole
    rw [← whole, List.take_append_drop]
  · rw [← length, ← same, single]

/-! ## Nodes -/

section nodes

variable {nodes : List Node}

/-- The nodes of tokens that have the same meaning as a row. -/
theorem parse_of_meant {text : String} {found tokens' : List Token} {flat : List Node}
    (walked : tokens escapes text = .ok found) (same : meant [] found = meant [] tokens')
    (row : Row tokens' flat) : parse escapes text = linkOperators flat := by
  obtain ⟨front, made, blocks⟩ := row.blocks
  rw [prune_eq_meant, ← same, ← prune_eq_meant] at made
  simp only [parse, walked, made, blocks, bind, Except.bind, linkOperators]

/-- The tokens of steps around white space mean what the steps do, whatever white space it is. -/
theorem meant_around {front gap : List Step} (outside : IsOutside (front.map Step.token))
    (blank : ∀ step ∈ gap, step.token.kind = .whitespace) (back : List Step) :
    meant [] ((front ++ gap ++ back).map Step.token) =
      meant [] (front.map Step.token) ++ meant [] (back.map Step.token) := by
  rw [List.map_append, List.map_append]
  refine meant_spaced outside (fun token mem => ?_) _
  obtain ⟨step, memSteps, rfl⟩ := List.mem_map.mp mem
  exact blank step memSteps

/-- A condition whose steps have other white space in a gap, and are behind it at later places, has
the same nodes at these places. -/
theorem parse_of_gap {text : String} {front gap back spaces : List Step} {flat : List Node}
    {place count : Nat} (row : Row ((front ++ gap ++ back).map Step.token) flat)
    (linked : linkOperators flat = .ok nodes) (outside : IsOutside (front.map Step.token))
    (blankGap : ∀ step ∈ gap, step.token.kind = .whitespace)
    (earlier : ∀ step ∈ front, step.token.index < place)
    (later : ∀ step ∈ back, place ≤ step.token.index) (blank : Blank spaces)
    (path : Path true (front ++ spaces ++ back.map (Step.relocated (· + count))))
    (reads : Reads escapes text.toList 0
      (front ++ spaces ++ back.map (Step.relocated (· + count))) text.toList.length) :
    parse escapes text = .ok (nodes.map (Node.relocated (movedFrom place count))) := by
  have parts : (front ++ gap ++ back).map (Step.relocated (movedFrom place count)) =
      front ++ gap.map (Step.relocated (movedFrom place count)) ++
        back.map (Step.relocated (· + count)) := by
    rw [List.map_append, List.map_append, relocated_of_lt earlier, relocated_of_le later]
  have blankGap' : ∀ step ∈ gap.map (Step.relocated (movedFrom place count)),
      step.token.kind = .whitespace := by
    intro step mem
    obtain ⟨s, memGap, rfl⟩ := List.mem_map.mp mem
    exact blankGap s memGap
  -- The old row at the new places is a row of the new tokens, as only their white space differs.
  have row := row.relocated (movedFrom place count)
  rw [← tokens_relocated, parts] at row
  have same := (meant_around outside (fun step mem => (blank step mem).2) _).trans
    (meant_around outside blankGap' (back.map (Step.relocated (· + count)))).symm
  rw [parse_of_meant (tokens_of_reads path reads) same row]
  exact linkOperators_relocated _ linked

/-- White space before a condition. -/
theorem parse_spaces_append {text w : String} (blank : ∀ b ∈ w.toList, b ∈ Token.spaces)
    (h : parse escapes text = .ok nodes) :
    parse escapes (w ++ text) =
      .ok (nodes.map (Node.relocated (movedFrom 0 w.toList.length))) := by
  obtain ⟨steps, flat, path, reads, -, row, linked⟩ := exists_path_of_parse h
  have edge : Token.Edge w.toList.getLast? := by
    by_cases nonempty : w.toList = []
    · exact .inl (List.getLast?_eq_none_iff.mpr nonempty)
    · exact edge_getLast?_append blank nonempty []
  have gap : Reads escapes ([] ++ w.toList ++ text.toList) 0 _ w.toList.length :=
    reads_spaces blank [] text.toList
  have row' : Row (([] ++ [] ++ steps : List Step).map Step.token) flat := row
  refine parse_of_gap row' linked rfl (by simp) (by simp) (by simp)
    (blank_spaces 0 w.toList) (.spaces (blank_spaces 0 w.toList) (path.relocated _)) ?_
  rw [String.toList_append]
  exact gap.append (reads.preceded edge)

/-- White space after a condition. -/
theorem parse_append_spaces {text w : String} (blank : ∀ b ∈ w.toList, b ∈ Token.spaces)
    (h : parse escapes text = .ok nodes) :
    parse escapes (text ++ w) =
      .ok (nodes.map (Node.relocated (movedFrom text.toList.length w.toList.length))) := by
  obtain ⟨steps, flat, path, reads, -, row, linked⟩ := exists_path_of_parse h
  have edge : Token.Edge w.toList.head? := by
    by_cases nonempty : w.toList = []
    · exact .inl (List.head?_eq_none_iff.mpr nonempty)
    · simpa using edge_head_append blank nonempty []
  have blankGap := blank_spaces text.toList.length w.toList
  have gap : Reads escapes (text.toList ++ w.toList ++ []) _ _ _ :=
    reads_spaces blank text.toList []
  have reads' := (reads.followed path.kind_getLast? edge).append (List.append_nil _ ▸ gap)
  have path' : Path true (steps ++ Step.spaces text.toList.length w.toList) :=
    path.append blankGap.spaced (by simpa using Path.spaces blankGap (.nil rfl : Path true []))
  have row' : Row ((steps ++ [] ++ [] : List Step).map Step.token) flat := by simpa using row
  refine parse_of_gap row' linked path.isOutside (by simp)
    (fun step mem => (reads.index step mem).2) (by simp) blankGap (by simpa using path') ?_
  rw [String.toList_append]
  simpa using reads'

/-- White space outside of blocks may be other white space. -/
theorem parse_of_respaced {text text' : String} {front rest u : List Char} {b : Char}
    {place count : Nat} {before after : List Step} {step : Step} {flat : List Node}
    (path : Path true (before ++ step :: after)) (isSpace : step.token.kind = .whitespace)
    (outside : IsOutside (before.map Step.token))
    (row : Row ((before ++ step :: after).map Step.token) flat)
    (linked : linkOperators flat = .ok nodes) (whole : text.toList = front ++ b :: rest)
    (mem : b ∈ Token.spaces) (whole' : text'.toList = front ++ u ++ rest)
    (blank : ∀ b ∈ u, b ∈ Token.spaces) (length : u.length = count + 1)
    (first : front.length ≤ place) (last : place ≤ front.length + 1)
    (reads : Reads escapes text.toList 0 before front.length)
    (reads' : Reads escapes text.toList (front.length + 1) after text.toList.length) :
    parse escapes text' = .ok (nodes.map (Node.relocated (movedFrom place count))) := by
  have nonempty : u ≠ [] := List.ne_nil_of_length_eq_add_one length
  have earlier : ∀ s ∈ before, s.token.index < place := fun s memBefore =>
    Nat.lt_of_lt_of_le (reads.index s memBefore).2 first
  have later : ∀ s ∈ after, place ≤ s.token.index := fun s memAfter =>
    last.trans (reads'.index s memAfter).1
  have path := path.relocated (movedFrom place count)
  rw [List.map_append, List.map_cons, relocated_of_lt earlier, relocated_of_le later] at path
  obtain ⟨lastKind, respaced⟩ := path.respaced isSpace outside
  -- The part before stays where it is, and the part after it is moved behind the new white space.
  rw [whole] at reads reads'
  have readsBefore := reads.change_back (isFinished_of_reads reads lastKind)
    (Token.edge_cons mem rest) (edge_head_append blank nonempty rest)
  rw [← List.append_assoc] at readsBefore
  have single : front ++ b :: rest = front ++ [b] ++ rest := by simp
  have one : front.length + 1 = (front ++ [b]).length := by simp
  rw [single, one] at reads'
  have longer : (front ++ u).length = (front ++ [b]).length + count := by
    rw [List.length_append, length, List.length_append, List.length_singleton]
    omega
  have readsAfter := reads'.change_front (Token.edge_append mem front)
    (edge_getLast?_append blank nonempty front) longer
  have reads := (readsBefore.append (reads_spaces blank front rest)).append readsAfter
  have row : Row ((before ++ [step] ++ after).map Step.token) flat := by simpa using row
  rw [← whole'] at reads
  exact parse_of_gap row linked outside (by simpa using isSpace) earlier later
    (blank_spaces front.length u)
    (respaced (blank_spaces front.length u) (spaces_ne_nil _ nonempty)) reads

/-- White space that was recorded outside of blocks is one character of the text. The condition with
other white space in place of it has the same nodes, those after it at their later places. -/
theorem parse_respaced {text : String} {before after : List Token} {space : Token}
    (h : parse escapes text = .ok nodes)
    (walked : tokens escapes text = .ok (before ++ space :: after))
    (isSpace : space.kind = .whitespace) (outside : IsOutside before) :
    space.length = 1 ∧ ∃ front b back, text.toList = front ++ b :: back ∧
      front.length = space.index ∧ b ∈ Token.spaces ∧
      ∀ {text' : String} {u : List Char} {place count : Nat}, text'.toList = front ++ u ++ back →
        (∀ b ∈ u, b ∈ Token.spaces) → u.length = count + 1 → front.length ≤ place →
        place ≤ front.length + 1 →
        parse escapes text' = .ok (nodes.map (Node.relocated (movedFrom place count))) := by
  obtain ⟨steps, flat, path, reads, walked', row, linked⟩ := exists_path_of_parse h
  obtain ⟨front, rest, rfl, rfl, more⟩ :=
    List.map_eq_append_iff.mp (Except.ok.inj (walked'.symm.trans walked))
  obtain ⟨step, back, rfl, rfl, rfl⟩ := List.map_eq_cons_iff.mp more
  -- The white space is a step of the path, which splits the text into two parts around it.
  obtain ⟨k, readsFront, inside, read, readsBack⟩ := reads_append.mp reads
  obtain ⟨b, t', mem, whole, index, length⟩ := exists_space_of_readAt inside (by rwa [read])
  rw [read] at index length
  have here : k = (text.toList.take k).length := by
    rw [List.length_take]
    omega
  rw [length] at readsBack
  generalize text.toList.take k = t at whole here
  subst here
  exact ⟨length, t, b, t', whole, index.symm, mem,
    fun whole' blank lengthU first last => parse_of_respaced path isSpace outside row linked whole
      mem whole' blank lengthU first last readsFront readsBack⟩

/-- White space put into a gap of a condition leaves its nodes as they are, but for the places of
those after the gap. -/
theorem parse_inserted {text w : String} {place : Nat} (h : parse escapes text = .ok nodes)
    (gap : IsGap escapes text place) (blank : ∀ b ∈ w.toList, b ∈ Token.spaces) :
    parse escapes (inserted text place w) =
      .ok (nodes.map (Node.relocated (movedFrom place w.length))) := by
  rw [← String.length_toList]
  cases gap with
  | start =>
    have whole : inserted text 0 w = w ++ text := by
      apply String.toList_injective
      simp [inserted]
    rw [whole]
    exact parse_spaces_append blank h
  | finish =>
    have whole : inserted text text.length w = text ++ w := by
      apply String.toList_injective
      simp [inserted, ← String.length_toList]
    rw [whole, ← String.length_toList]
    exact parse_append_spaces blank h
  | before walked isSpace outside =>
    obtain ⟨-, front, b, back, whole, index, mem, parsed⟩ := parse_respaced h walked isSpace outside
    -- The character of white space stays behind the new white space.
    rw [← index]
    refine parsed (u := w.toList ++ [b]) ?_ ?_ (by simp) (Nat.le_refl _) (Nat.le_succ _)
    · simp [inserted, whole]
    · simpa [or_imp, forall_and] using ⟨blank, mem⟩
  | after walked isSpace outside =>
    obtain ⟨length, front, b, back, whole, index, mem, parsed⟩ :=
      parse_respaced h walked isSpace outside
    rw [← index, length]
    have split : front ++ b :: back = (front ++ [b]) ++ back := by simp
    have one : front.length + 1 = (front ++ [b]).length := by simp
    refine parsed (u := b :: w.toList) ?_ ?_ (by simp) (Nat.le_succ _) (Nat.le_refl _)
    · rw [inserted, String.toList_ofList, whole, split, one, List.take_left, List.drop_left]
      simp
    · simpa using ⟨mem, blank⟩

theorem parse_inserted_word :
    ∃ nodes, parse true "$\x7ba\x7d not in '1 2'" = .ok nodes ∧
      IsGap true "$\x7ba\x7d not in '1 2'" 5 ∧
      parse true "$\x7ba\x7d \t\nnot in '1 2'" =
        .ok (nodes.map (Node.relocated (movedFrom 5 2))) := by
  have isOk : (parse true "$\x7ba\x7d not in '1 2'").isOk = true := by
    decide +kernel
  have walked : tokens true "$\x7ba\x7d not in '1 2'" =
      .ok ([⟨.functionStart, "$\x7b", 0, 2⟩, ⟨.character, "a", 2, 1⟩,
          ⟨.functionEnd, "\x7d", 3, 1⟩] ++
        ⟨.whitespace, " ", 4, 1⟩ ::
          [⟨.binaryOperator, "not in", 5, 6⟩, ⟨.whitespace, " ", 11, 1⟩, ⟨.singleQuote, "'", 12, 1⟩,
            ⟨.character, "1", 13, 1⟩, ⟨.character, " ", 14, 1⟩, ⟨.character, "2", 15, 1⟩,
            ⟨.singleQuote, "'", 16, 1⟩]) := by
    decide +kernel
  obtain ⟨nodes, parsed⟩ := exists_of_isOk isOk
  have gap : IsGap true "$\x7ba\x7d not in '1 2'" 5 := .after walked rfl (by decide)
  have text : inserted "$\x7ba\x7d not in '1 2'" 5 "\t\n" = "$\x7ba\x7d \t\nnot in '1 2'" := by
    decide +kernel
  have spaced := parse_inserted parsed gap (w := "\t\n") (by simp [Token.spaces])
  exact ⟨nodes, parsed, gap, text ▸ spaced⟩

end nodes

end MessageExpr.Condition
