import MessageExpr.Proofs.Node.Nested
import MessageExpr.Proofs.Node.WellFormed

/-!
# Nested blocks written out

Block linking goes through a flat list once, with the blocks that are open on a stack. What it has
read is at every point a nested list, followed for each open block by its start and a nested list of
what the block holds so far. So it accepts the lists that a grammar of well-nested blocks describes,
and it undoes the writing out of a block as its start, its children and its end.

## Main definitions

* `Node.flattened`, `flattenedAll` — nested nodes written out
* `Contents`, `WellNested` — the grammar of well-nested lists
* `Opened` — what has been read when some blocks are open

## Main results

* `linkBlocks_eq_ok_iff_nested` — block linking gives the nested list that a flat list stands for,
  and no other
* `linkBlocks_undoes_flattening` — block linking accepts the well-nested lists, and undoes writing
  out
-/

namespace MessageExpr

namespace Node

/-- The token of every closing node that is written out. -/
def stopToken : Token := ⟨.functionEnd, "", 0, 0⟩

/-- A node that is known by the kind of block only, if it closes one. -/
def withoutStopToken : Node → Node
  | closing form kind _ => closing form kind stopToken
  | node => node

mutual

/-- A nested node written out: a block as its start, its children and its end. -/
def flattened : Node → List Node
  | block form kind token children =>
    block form kind token [] :: flattenedAll children ++ [closing form kind stopToken]
  | node => [node]

/-- Nested nodes written out one after the other. -/
def flattenedAll : List Node → List Node
  | [] => []
  | node :: rest => node.flattened ++ flattenedAll rest

end

/-- A node of a flat list: what opens or closes a block has the form of its kind, and what opens one
has no children yet. -/
def IsFlat : Node → Prop
  | block form kind _ children => form = kind.form ∧ children = []
  | closing form kind _ => form = kind.form
  | _ => True

/-- A node of a nested list: a block that has the form of its kind and holds what it may hold, or a
node that has nothing to do with blocks. -/
inductive IsTree : Node → Prop where
  | plain {n} : n.isMark = false → IsTree n
  | block {kind token children} : (∀ c ∈ children, c.Held) →
      IsTree (.block kind.form kind token children)

end Node

open Node

/-! ## The grammar -/

/-- What may stand between the start and the end of a block: literals, and whole functions. -/
inductive Contents : List Node → Prop where
  | nil : Contents []
  | literal {token text flat} : Contents flat → Contents (.literal token text :: flat)
  | function {token stop inner flat} : Contents inner → Contents flat →
      Contents (.block .function .function token [] :: inner ++
        .closing .function .function stop :: flat)

/-- A list in which every block that is opened is closed by an end of its kind, with its contents in
between, and every end closes a block. -/
inductive WellNested : List Node → Prop where
  | nil : WellNested []
  | plain {n flat} : n.isMark = false → WellNested flat → WellNested (n :: flat)
  | block {kind token stop inner flat} : Contents inner → WellNested flat →
      WellNested (.block kind.form kind token [] :: inner ++ .closing kind.form kind stop :: flat)

variable {flat flat' nested nested' read piece : List Node} {n : Node} {nest nest' : Nest}

private theorem isContent_of_form {kind : BlockKind} {token : Token} {children : List Node}
    (h : (Node.block kind.form kind token children).isContent = true) : kind = .function := by
  cases kind <;> first | rfl | cases h

theorem forall_isFlat_block_iff {form form' : BlockForm} {kind : BlockKind} {token stop : Token}
    {inner : List Node} :
    (∀ n ∈ .block form kind token [] :: inner ++ .closing form' kind stop :: flat, n.IsFlat) ↔
      form = kind.form ∧ form' = kind.form ∧ (∀ n ∈ inner, n.IsFlat) ∧ ∀ n ∈ flat, n.IsFlat := by
  simp only [List.cons_append, List.forall_mem_cons, List.forall_mem_append, IsFlat, and_true]
  exact and_congr_right fun _ => and_left_comm

/-- What stands for nodes that a block may hold are contents of a block. -/
theorem contents_of_nested (h : Nested flat nested) (content : ∀ n ∈ nested, n.isContent = true)
    (isFlat : ∀ n ∈ flat, n.IsFlat) : Contents flat := by
  induction h with
  | nil => exact .nil
  | @node n flat nested plain _ ih =>
    obtain ⟨head, content⟩ := List.forall_mem_cons.mp content
    have rest := ih content (List.forall_mem_cons.mp isFlat).2
    cases n with
    | literal => exact .literal rest
    | block | closing => cases plain
    | unary | binary | logical | number | boolean | null => cases head
  | @block form form' kind token stop inner children flat nested inside _ _ ihInner ihFlat =>
    obtain ⟨head, others⟩ := List.forall_mem_cons.mp content
    obtain ⟨rfl, rfl, flatInner, flatRest⟩ := forall_isFlat_block_iff.mp isFlat
    obtain rfl := isContent_of_form head
    exact .function (ihInner inside flatInner) (ihFlat others flatRest)

private theorem wellNested_of_nested (h : Nested flat nested) (isFlat : ∀ n ∈ flat, n.IsFlat) :
    WellNested flat := by
  induction h with
  | nil => exact .nil
  | node plain _ ih => exact .plain plain (ih (List.forall_mem_cons.mp isFlat).2)
  | block inside inner _ _ ih =>
    obtain ⟨rfl, rfl, flatInner, flatRest⟩ := forall_isFlat_block_iff.mp isFlat
    exact .block (contents_of_nested inner inside flatInner) (ih flatRest)

theorem Contents.exists_nested (h : Contents flat) :
    ∃ nested, Nested flat nested ∧ ∀ n ∈ nested, n.isContent = true := by
  induction h with
  | nil => exact ⟨[], .nil, nofun⟩
  | literal _ ih =>
    obtain ⟨nested, h, content⟩ := ih
    exact ⟨_, .node rfl h, List.forall_mem_cons.mpr ⟨rfl, content⟩⟩
  | function _ _ ihInner ih =>
    obtain ⟨children, inner, inside⟩ := ihInner
    obtain ⟨nested, h, content⟩ := ih
    exact ⟨_, .block inside inner h, List.forall_mem_cons.mpr ⟨rfl, content⟩⟩

theorem WellNested.exists_nested (h : WellNested flat) : ∃ nested, Nested flat nested := by
  induction h with
  | nil => exact ⟨[], .nil⟩
  | plain plain _ ih =>
    obtain ⟨nested, h⟩ := ih
    exact ⟨_, .node plain h⟩
  | block inner _ ih =>
    obtain ⟨children, inner, inside⟩ := inner.exists_nested
    obtain ⟨nested, h⟩ := ih
    exact ⟨_, .block inside inner h⟩

/-! ## The stack -/

theorem Nested.append (h : Nested flat nested) (h' : Nested flat' nested') :
    Nested (flat ++ flat') (nested ++ nested') := by
  induction h with
  | nil => exact h'
  | node plain _ ih => exact .node plain ih
  | block inside inner _ _ ih =>
    rw [List.append_assoc, List.cons_append]
    exact .block inside inner ih

/-- What has been read: a nested list, and for each open block its start and a nested list of what
it holds so far. -/
inductive Opened : List Node → Nest → Prop where
  | outside {read done} : Nested read done → Opened read ⟨done, []⟩
  | inside {before inner form kind token children done outer} : Opened before ⟨done, outer⟩ →
      (∀ c ∈ children, c.isContent = true) → Nested inner children →
      Opened (before ++ .block form kind token [] :: inner) ⟨done, ⟨kind, token, children⟩ :: outer⟩

/-- A node that has been read is added where it is allowed. -/
theorem Opened.add (h : Opened read nest) (made : Nested piece [n])
    (added : nest.add n = .ok nest') : Opened (read ++ piece) nest' := by
  cases h with
  | outside done =>
    cases added
    exact .outside (done.append made)
  | inside before content inner =>
    by_cases allowed : n.isContent = true
    · rw [Nest.add_eq_ok _ n (.inr allowed)] at added
      cases added
      rw [List.append_assoc, List.cons_append]
      refine .inside before ?_ (inner.append made)
      exact List.forall_mem_append.mpr ⟨content, List.forall_mem_singleton.mpr allowed⟩
    · simp only [Nest.add, if_neg allowed] at added
      cases added

/-- One step reads one node. -/
theorem Opened.step (h : Opened read nest) (isFlat : n.IsFlat) (stepped : nest.step n = .ok nest') :
    Opened (read ++ [n]) nest' := by
  cases n with
  | block form kind token children =>
    obtain ⟨-, rfl⟩ := isFlat
    cases stepped
    exact .inside h nofun .nil
  | closing form kind stop =>
    cases h with
    | outside => cases stepped
    | @inside before inner form' kind' token children done outer before' content inner' =>
      by_cases same : kind' = kind
      · subst same
        simp only [Nest.step, if_true] at stepped
        -- The block with its end is one nested node for what is around it.
        have made : Nested (.block form' kind' token [] :: inner ++ [.closing form kind' stop])
            [.block kind'.form kind' token children] := .block content inner' .nil
        simpa using before'.add made stepped
      · simp only [Nest.step, if_neg same] at stepped
        cases stepped
  | literal | unary | binary | logical | number | boolean | null =>
    exact h.add (.node rfl .nil) stepped

/-- Going through a list reads it. -/
theorem Opened.foldlM (h : Opened read nest) (isFlat : ∀ n ∈ flat, n.IsFlat)
    (run : flat.foldlM Nest.step nest = .ok nest') : Opened (read ++ flat) nest' := by
  induction flat generalizing read nest with
  | nil =>
    cases run
    rwa [List.append_nil]
  | cons n flat ih =>
    obtain ⟨head, isFlat⟩ := List.forall_mem_cons.mp isFlat
    rw [List.foldlM_cons] at run
    obtain ⟨next, stepped, run⟩ := bind_eq_ok.mp run
    have more := ih (h.step head stepped) isFlat run
    rwa [List.append_assoc] at more

/-- Block linking gives the nested list that a flat list stands for, and no other. -/
theorem linkBlocks_eq_ok_iff_nested (isFlat : ∀ n ∈ flat, n.IsFlat) :
    linkBlocks flat = .ok nested ↔ Nested flat nested := by
  constructor
  · intro linked
    obtain ⟨nest, run, finished⟩ := bind_eq_ok.mp linked
    cases Opened.foldlM (.outside .nil) isFlat run with
    | outside done =>
      cases finished
      exact done
    | inside => cases finished
  · exact linkBlocks_of_nested

/-! ## Writing out -/

theorem flattened_of_isMark_eq_false (plain : n.isMark = false) : n.flattened = [n] := by
  cases n with
  | block | closing => cases plain
  | _ => simp only [flattened]

private theorem withoutStopToken_of_isMark_eq_false (plain : n.isMark = false) :
    n.withoutStopToken = n := by
  cases n with
  | closing => cases plain
  | _ => rfl

/-- Written out, a nested list is the flat one that stands for it, but for the tokens of ends. -/
theorem map_withoutStopToken_of_nested (h : Nested flat nested) (isFlat : ∀ n ∈ flat, n.IsFlat) :
    flat.map withoutStopToken = flattenedAll nested := by
  induction h with
  | nil => rw [flattenedAll, List.map_nil]
  | node plain _ ih =>
    rw [List.map_cons, flattenedAll, withoutStopToken_of_isMark_eq_false plain,
      flattened_of_isMark_eq_false plain, ih (List.forall_mem_cons.mp isFlat).2,
      List.singleton_append]
  | block _ _ _ ihInner ih =>
    obtain ⟨rfl, rfl, flatInner, flatRest⟩ := forall_isFlat_block_iff.mp isFlat
    rw [flattenedAll, flattened, ← ihInner flatInner, ← ih flatRest]
    simp [withoutStopToken]

theorem Node.Held.isContent (h : n.Held) : n.isContent = true := by
  cases h <;> rfl

private theorem held_of_nested (h : Nested flat nested)
    (content : ∀ n ∈ nested, n.isContent = true) :
    ∀ n ∈ nested, n.Held := by
  induction h with
  | nil => nofun
  | @node n flat nested plain _ ih =>
    obtain ⟨head, others⟩ := List.forall_mem_cons.mp content
    refine List.forall_mem_cons.mpr ⟨?_, ih others⟩
    cases n with
    | literal => exact .literal
    | block | closing => cases plain
    | unary | binary | logical | number | boolean | null => cases head
  | block inside _ _ ihInner ih =>
    obtain ⟨head, others⟩ := List.forall_mem_cons.mp content
    obtain rfl := isContent_of_form head
    exact List.forall_mem_cons.mpr ⟨.function (ihInner inside), ih others⟩

private theorem isTree_of_nested (h : Nested flat nested) : ∀ n ∈ nested, n.IsTree := by
  induction h with
  | nil => nofun
  | node plain _ ih => exact List.forall_mem_cons.mpr ⟨.plain plain, ih⟩
  | block inside inner _ _ ih =>
    exact List.forall_mem_cons.mpr ⟨.block (held_of_nested inner inside), ih⟩

/-! ## Reading what is written out -/

/-- Whatever a node is written out as, whichever tokens the ends have, stands for the node. -/
def Node.IsRecovered (n : Node) : Prop :=
  ∀ flat, flat.map withoutStopToken = n.flattened → Nested flat [n] ∧ ∀ m ∈ flat, m.IsFlat

private theorem isRecovered_all (each : ∀ n ∈ nested, n.IsRecovered)
    (same : flat.map withoutStopToken = flattenedAll nested) :
    Nested flat nested ∧ ∀ m ∈ flat, m.IsFlat := by
  induction nested generalizing flat with
  | nil =>
    rw [flattenedAll, List.map_eq_nil_iff] at same
    subst same
    exact ⟨.nil, nofun⟩
  | cons n nested ih =>
    obtain ⟨head, each⟩ := List.forall_mem_cons.mp each
    rw [flattenedAll, List.map_eq_append_iff] at same
    obtain ⟨front, back, rfl, first, others⟩ := same
    obtain ⟨made, isFlat⟩ := head front first
    obtain ⟨made', isFlat'⟩ := ih each others
    exact ⟨made.append made', List.forall_mem_append.mpr ⟨isFlat, isFlat'⟩⟩

/-- Only ends lose something without their tokens. -/
theorem eq_of_withoutStopToken {m : Node} (same : m.withoutStopToken = n)
    (open_ : n.isClosing = false) : m = n := by
  cases m with
  | closing =>
    subst same
    cases open_
  | _ => exact same

private theorem isRecovered_of_isMark_eq_false (plain : n.isMark = false) : n.IsRecovered := by
  intro flat same
  rw [flattened_of_isMark_eq_false plain, List.map_eq_singleton_iff] at same
  obtain ⟨m, rfl, same⟩ := same
  have open_ : n.isClosing = false := by
    cases n with
    | closing => cases plain
    | _ => rfl
  obtain rfl := eq_of_withoutStopToken same open_
  refine ⟨.node plain .nil, List.forall_mem_singleton.mpr ?_⟩
  cases m with
  | block | closing => cases plain
  | _ => trivial

private theorem isRecovered_block {kind : BlockKind} {token : Token} {children : List Node}
    (content : ∀ c ∈ children, c.isContent = true) (each : ∀ c ∈ children, c.IsRecovered) :
    (Node.block kind.form kind token children).IsRecovered := by
  intro flat same
  rw [flattened, List.cons_append, List.map_eq_cons_iff] at same
  obtain ⟨start, rest, rfl, start', same⟩ := same
  obtain ⟨inner, last, rfl, inner', last'⟩ := List.map_eq_append_iff.mp same
  obtain ⟨close, rfl, close'⟩ := List.map_eq_singleton_iff.mp last'
  obtain rfl := eq_of_withoutStopToken start' rfl
  obtain ⟨made, isFlat⟩ := isRecovered_all each inner'
  cases close with
  | closing form kind' stop =>
    cases close'
    exact ⟨.block content made .nil, forall_isFlat_block_iff.mpr ⟨rfl, rfl, isFlat, nofun⟩⟩
  | _ => cases close'

theorem Node.Held.isRecovered (h : n.Held) : n.IsRecovered := by
  induction h with
  | literal => exact isRecovered_of_isMark_eq_false rfl
  | function held ih =>
    exact @isRecovered_block .function _ _ (fun c mem => (held c mem).isContent) ih

theorem Node.IsTree.isRecovered (h : n.IsTree) : n.IsRecovered := by
  cases h with
  | plain plain => exact isRecovered_of_isMark_eq_false plain
  | block held =>
    exact isRecovered_block (fun c mem => (held c mem).isContent)
      fun c mem => (held c mem).isRecovered

/-! ## Written out with its ends -/

/-- The ends that are written out have no tokens to lose. -/
theorem map_flattenedAll (each : ∀ n ∈ nested, n.flattened.map withoutStopToken = n.flattened) :
    (flattenedAll nested).map withoutStopToken = flattenedAll nested := by
  induction nested with
  | nil => rw [flattenedAll, List.map_nil]
  | cons n nested ih =>
    obtain ⟨head, each⟩ := List.forall_mem_cons.mp each
    rw [flattenedAll, List.map_append, head, ih each]

private theorem map_flattened_block {form : BlockForm} {kind : BlockKind} {token : Token}
    {children : List Node}
    (each : ∀ c ∈ children, c.flattened.map withoutStopToken = c.flattened) :
    (Node.block form kind token children).flattened.map withoutStopToken =
      (Node.block form kind token children).flattened := by
  rw [flattened, List.map_append, List.map_cons, map_flattenedAll each]
  rfl

private theorem map_flattened_of_isMark_eq_false (plain : n.isMark = false) :
    n.flattened.map withoutStopToken = n.flattened := by
  rw [flattened_of_isMark_eq_false plain, List.map_singleton,
    withoutStopToken_of_isMark_eq_false plain]

theorem Node.Held.map_flattened (h : n.Held) : n.flattened.map withoutStopToken = n.flattened := by
  induction h with
  | literal => exact map_flattened_of_isMark_eq_false rfl
  | function held ih => exact map_flattened_block ih

theorem Node.IsTree.map_flattened (h : n.IsTree) :
    n.flattened.map withoutStopToken = n.flattened := by
  cases h with
  | plain plain => exact map_flattened_of_isMark_eq_false plain
  | block held => exact map_flattened_block fun c mem => (held c mem).map_flattened

private theorem linkBlocks_eq_ok_iff_flattened :
    (∀ n ∈ flat, n.IsFlat) ∧ linkBlocks flat = .ok nested ↔
      (∀ n ∈ nested, n.IsTree) ∧ flat.map withoutStopToken = flattenedAll nested := by
  constructor
  · rintro ⟨isFlat, linked⟩
    have h := (linkBlocks_eq_ok_iff_nested isFlat).mp linked
    exact ⟨isTree_of_nested h, map_withoutStopToken_of_nested h isFlat⟩
  · rintro ⟨trees, same⟩
    obtain ⟨h, isFlat⟩ := isRecovered_all (fun n mem => (trees n mem).isRecovered) same
    exact ⟨isFlat, (linkBlocks_eq_ok_iff_nested isFlat).mpr h⟩

/-- Block linking accepts exactly the well-nested lists. What it gives is the nested list that is
written out as the list that it was given, when ends are known by the kind of block that they close,
and every nested list that is written out is given back. -/
theorem linkBlocks_undoes_flattening (flat nested : List Node) :
    ((∀ n ∈ flat, n.IsFlat) → ((∃ nested, linkBlocks flat = .ok nested) ↔ WellNested flat)) ∧
      ((∀ n ∈ flat, n.IsFlat) ∧ linkBlocks flat = .ok nested ↔
        (∀ n ∈ nested, n.IsTree) ∧ flat.map withoutStopToken = flattenedAll nested) ∧
      ((∀ n ∈ nested, n.IsTree) → linkBlocks (flattenedAll nested) = .ok nested) := by
  refine ⟨fun isFlat => ?_, linkBlocks_eq_ok_iff_flattened, fun trees => ?_⟩
  · simp only [linkBlocks_eq_ok_iff_nested isFlat]
    constructor
    · rintro ⟨nested, h⟩
      exact wellNested_of_nested h isFlat
    · exact WellNested.exists_nested
  · have same := map_flattenedAll fun n mem => (trees n mem).map_flattened
    exact (linkBlocks_eq_ok_iff_flattened.mpr ⟨trees, same⟩).2

/-- What stands for `"a${b}"` is nested as a quote that holds a literal and a function. -/
theorem linkBlocks_undoes_flattening_quote :
    linkBlocks (flattenedAll [.block .quote .doubleQuote ⟨.doubleQuote, "\"", 0, 1⟩
        [.literal ⟨.character, "a", 1, 1⟩ "a",
          .block .function .function ⟨.functionStart, "$\x7b", 2, 2⟩
            [.literal ⟨.character, "b", 4, 1⟩ "b"]]]) =
      .ok [.block .quote .doubleQuote ⟨.doubleQuote, "\"", 0, 1⟩
        [.literal ⟨.character, "a", 1, 1⟩ "a",
          .block .function .function ⟨.functionStart, "$\x7b", 2, 2⟩
            [.literal ⟨.character, "b", 4, 1⟩ "b"]]] := by
  have function : (Node.block .function .function ⟨.functionStart, "$\x7b", 2, 2⟩
      [.literal ⟨.character, "b", 4, 1⟩ "b"]).Held :=
    .function (List.forall_mem_singleton.mpr .literal)
  refine (linkBlocks_undoes_flattening [] _).2.2 (List.forall_mem_singleton.mpr ?_)
  refine @IsTree.block .doubleQuote _ _ (List.forall_mem_cons.mpr ⟨.literal, ?_⟩)
  exact List.forall_mem_singleton.mpr function

end MessageExpr
