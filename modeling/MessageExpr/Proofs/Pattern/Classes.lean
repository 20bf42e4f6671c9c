import MessageExpr.Proofs.Pattern.Parts

/-!
# Classes before an end

A class between brackets is read in the same way before either end of a text. What is looked at
ahead, for a range, an operation or the name of a class between colons, does not reach beyond the
first character of the end, which is no part of any of them.

## Main results

* `namedClass?_append` — a named class does not begin before an end and end behind it
* `Ending.within_classItem`, `Ending.within_classRest` — the items of a class and what follows them
* `Ending.within_bracket` — a class between brackets
-/

namespace MessageExpr.Pattern

open Reader

variable {t w : List Char}

/-! ## Named classes -/

theorem Closes.after?_append (closes : Closes w) {start : List Char} (notMem : ')' ∉ start) :
    Text.after? start (t ++ w) = (Text.after? start t).map (· ++ w) := by
  rw [Text.after?, Text.after?, closes.isPrefixOf_append notMem]
  split
  · rename_i starts
    have le : start.length ≤ t.length := (List.isPrefixOf_iff_prefix.mp starts).length_le
    rw [List.drop_append_of_le_length le]
    rfl
  · rfl

/-- The first colon stands before an end or in it. -/
theorem splitOnce?_colon_append (t : List Char) :
    (∃ before after, ∀ w, Text.splitOnce? [':'] (t ++ w) = some (before, after ++ w)) ∨
      ∀ w, Text.splitOnce? [':'] (t ++ w) =
        (Text.splitOnce? [':'] w).map fun parts => (t ++ parts.1, parts.2) := by
  induction t with
  | nil =>
    refine .inr fun w => ?_
    rw [List.nil_append]
    exact Option.map_id'.symm
  | cons c t ih =>
    simp only [List.cons_append, Text.splitOnce?]
    by_cases isColon : c = ':'
    · refine .inl ⟨[], t, fun w => ?_⟩
      rw [isColon]
      rfl
    · have notPrefix (w : List Char) : [':'].isPrefixOf (c :: (t ++ w)) = false := by
        simp [List.isPrefixOf, Ne.symm isColon]
      simp only [notPrefix, Bool.false_eq_true, if_false]
      rcases ih with ⟨before, after, eq⟩ | eq
      · exact .inl ⟨c :: before, after, fun w => by rw [eq]; rfl⟩
      · refine .inr fun w => ?_
        rw [eq, Option.map_map]
        rfl

/-- No name of a class has a parenthesis in it. -/
theorem notMem_of_ofAsciiName? {name : List Char} {s : CharSet}
    (named : CharSet.ofAsciiName? (String.ofList name) = some s) : ')' ∉ name := by
  have plain : ∀ entry ∈ CharSet.asciiNames, ')' ∉ entry.1.toList := by decide
  obtain ⟨ranges, found, -⟩ := Option.map_eq_some_iff.mp named
  obtain ⟨before, after, eq, -⟩ := List.lookup_eq_some_iff.mp found
  have notMem := plain (String.ofList name, ranges) (by rw [eq]; simp)
  rwa [String.toList_ofList] at notMem

/-- The name of a class up to the bracket behind it, and what follows. -/
def className? (t : List Char) : Option (CharSet × List Char) := do
  let parts ← Text.splitOnce? [':'] t
  let s ← CharSet.ofAsciiName? (String.ofList parts.1)
  let rest ← Text.after? [']'] parts.2
  pure (s, rest)

theorem Closes.className?_append (closes : Closes w) :
    className? (t ++ w) = (className? t).map fun named => (named.1, named.2 ++ w) := by
  rcases splitOnce?_colon_append t with ⟨before, after, eq⟩ | eq
  · have eq' := eq []
    rw [List.append_nil, List.append_nil] at eq'
    rw [className?, className?, eq, eq']
    change (CharSet.ofAsciiName? _).bind _ = Option.map _ ((CharSet.ofAsciiName? _).bind _)
    cases CharSet.ofAsciiName? (String.ofList before) with
    | none => rfl
    | some s =>
      change (Text.after? [']'] (after ++ w)).bind _ =
        Option.map _ ((Text.after? [']'] after).bind _)
      rw [closes.after?_append (by decide)]
      cases Text.after? [']'] after <;> rfl
  · have eq' := eq []
    rw [List.append_nil] at eq'
    rw [className?, className?, eq, eq']
    rcases closes.cases with rfl | ⟨more, rfl⟩
    · rfl
    · change Option.bind (Option.map _ (Text.splitOnce? [':'] (')' :: more))) _ = none
      rw [Option.bind_eq_none_iff]
      intro parts found
      obtain ⟨inner, split, rfl⟩ := Option.map_eq_some_iff.mp found
      obtain ⟨last, -, rfl⟩ := Option.map_eq_some_iff.mp split
      -- A name that goes on into the end has its parenthesis.
      cases named : CharSet.ofAsciiName? (String.ofList (t ++ ')' :: last.1)) with
      | none => rfl
      | some s => exact absurd (notMem_of_ofAsciiName? named) (by simp)

private theorem namedClass?_eq (t : List Char) :
    namedClass? t = (Text.after? ['[', ':'] t).bind fun t =>
      if t.head? = some '^' then (className? t.tail).map fun named => (named.1, true, named.2)
      else (className? t).map fun named => (named.1, false, named.2) := by
  have put (negated : Bool) (t : List Char) :
      (do
        let parts ← Text.splitOnce? [':'] t
        let s ← CharSet.ofAsciiName? (String.ofList parts.1)
        let rest ← Text.after? [']'] parts.2
        pure (s, negated, rest)) =
      (className? t).map fun named => (named.1, negated, named.2) := by
    rw [className?]
    rcases Text.splitOnce? [':'] t with _ | ⟨name, rest⟩
    · rfl
    · simp only [Option.bind_eq_bind, Option.bind_some]
      cases CharSet.ofAsciiName? (String.ofList name) with
      | none => rfl
      | some s =>
        simp only [Option.bind_some]
        cases Text.after? [']'] rest <;> rfl
  rw [namedClass?]
  cases Text.after? ['[', ':'] t with
  | none => rfl
  | some t =>
    cases t with
    | nil => exact put false []
    | cons c t =>
      by_cases isMark : c = '^'
      · subst isMark
        exact put true t
      · have notMark : (c :: t).head? ≠ some '^' := fun eq => isMark (Option.some_inj.mp eq)
        refine Eq.trans ?_ ((put false (c :: t)).trans (if_neg notMark).symm)
        simp only [Option.bind_eq_bind, Option.bind_some]
        split
        · rename_i eq
          exact absurd (List.cons.inj eq).1 isMark
        · rfl

/-- A named class does not begin before an end and end behind it. -/
theorem Closes.namedClass?_append (closes : Closes w) :
    namedClass? (t ++ w) =
      (namedClass? t).map fun named => (named.1, named.2.1, named.2.2 ++ w) := by
  rw [namedClass?_eq, namedClass?_eq, closes.after?_append (by decide)]
  cases Text.after? ['[', ':'] t with
  | none => rfl
  | some t =>
    simp only [Option.map_some, Option.bind_some]
    by_cases isMark : t.head? = some '^'
    · obtain ⟨rest, rfl⟩ := List.head?_eq_some_iff.mp isMark
      have isMark' : ('^' :: rest ++ w).head? = some '^' := rfl
      rw [if_pos isMark, if_pos isMark', List.cons_append, List.tail_cons, List.tail_cons,
        closes.className?_append, Option.map_map, Option.map_map]
      rfl
    · have isMark' : (t ++ w).head? ≠ some '^' := by
        cases t with
        | nil => exact closes.head?_ne (by decide)
        | cons c t => exact isMark
      rw [if_neg isMark, if_neg isMark', closes.className?_append, Option.map_map, Option.map_map]
      rfl

private theorem suffix_of_after? {start rest : List Char}
    (found : Text.after? start t = some rest) :
    rest <:+ t ∧ rest.length + start.length ≤ t.length := by
  rw [Text.after?] at found
  split at found
  · rename_i starts
    have le : start.length ≤ t.length := (List.isPrefixOf_iff_prefix.mp starts).length_le
    cases found
    refine ⟨List.drop_suffix _ t, ?_⟩
    rw [List.length_drop]
    omega
  · cases found

private theorem suffix_of_splitOnce? {separator before after : List Char}
    (found : Text.splitOnce? separator t = some (before, after)) : after <:+ t := by
  induction t generalizing before with
  | nil =>
    rw [Text.splitOnce?] at found
    split at found
    · cases found
      exact List.suffix_rfl
    · cases found
  | cons c t ih =>
    rw [Text.splitOnce?] at found
    split at found
    · cases found
      exact List.drop_suffix _ _
    · obtain ⟨parts, later, eq⟩ := Option.map_eq_some_iff.mp found
      cases eq
      exact (ih later).trans (List.suffix_cons c t)

private theorem suffix_of_className? {s : CharSet} {rest : List Char}
    (named : className? t = some (s, rest)) : rest <:+ t := by
  obtain ⟨parts, split, named⟩ := Option.bind_eq_some_iff.mp named
  obtain ⟨s', -, named⟩ := Option.bind_eq_some_iff.mp named
  obtain ⟨rest', closed, eq⟩ := Option.bind_eq_some_iff.mp named
  cases eq
  exact (suffix_of_after? closed).1.trans (suffix_of_splitOnce? split)

/-- A named class takes characters away. -/
theorem suffix_of_namedClass? {named : CharSet × Bool × List Char}
    (found : namedClass? t = some named) : named.2.2 <:+ t ∧ named.2.2.length < t.length := by
  rw [namedClass?_eq] at found
  obtain ⟨inner, opened, found⟩ := Option.bind_eq_some_iff.mp found
  obtain ⟨suffix, shorter⟩ := suffix_of_after? opened
  have inside : named.2.2 <:+ inner := by
    split at found
    · obtain ⟨parts, read, rfl⟩ := Option.map_eq_some_iff.mp found
      exact (suffix_of_className? read).trans (List.tail_suffix inner)
    · obtain ⟨parts, read, rfl⟩ := Option.map_eq_some_iff.mp found
      exact suffix_of_className? read
  refine ⟨inside.trans suffix, Nat.lt_of_le_of_lt inside.length_le ?_⟩
  simp only [List.length_cons] at shorter
  omega

/-- The named class that stands here, and how many characters it has after its first one. -/
def namedHere? (t : List Char) : Option (CharSet × Bool × Nat) :=
  (namedClass? t).map fun named => (named.1, named.2.1, t.length - named.2.2.length - 1)

theorem Closes.namedHere?_append (closes : Closes w) : namedHere? (t ++ w) = namedHere? t := by
  rw [namedHere?, namedHere?, closes.namedClass?_append, Option.map_map]
  congr 1
  funext named
  simp only [Function.comp, List.length_append, Nat.add_sub_add_right]

/-! ## Looking ahead -/

/-- The character after the next one is that of the end at most if only one character stands before
it. -/
theorem Closes.afterSpace_append (closes : Closes w) (spread : Bool) (nonempty : t ≠ []) :
    afterSpace spread (t ++ w) = (afterSpace spread t).or w.head? := by
  obtain ⟨c, t, rfl⟩ := List.exists_cons_of_ne_nil nonempty
  cases spread with
  | false =>
    cases t with
    | nil => cases w <;> rfl
    | cons d t => rfl
  | true =>
    have blank : Unicode.isBlank ')' = false := by decide
    simp only [afterSpace, if_true, List.cons_append, List.drop_succ_cons, List.drop_zero,
      closes.dropWhile_append blank]
    rcases t.dropWhile Unicode.isBlank with _ | ⟨d, more⟩
    · rcases closes.cases with rfl | ⟨more, rfl⟩
      · rfl
      · rfl
    · by_cases isMark : d = '#'
      · subst isMark
        change ((more ++ w).dropWhile Unicode.isBlank).head? = _
        rw [closes.dropWhile_append blank, List.head?_append]
        rfl
      · simp [isMark]

/-- What comes after the next character is a certain one before either end, if that is no
parenthesis. -/
theorem Closes.afterSpace_beq (closes : Closes w) (spread : Bool) (nonempty : t ≠ []) {c : Char}
    (ne : c ≠ ')') :
    (afterSpace spread (t ++ w) == some c) = (afterSpace spread t == some c) := by
  rw [closes.afterSpace_append spread nonempty]
  cases afterSpace spread t with
  | none => exact beq_eq_false_iff_ne.mpr (closes.head?_ne ne)
  | some d => rfl

/-- Operations have two characters. -/
theorem operation?_cons_cons (c d : Char) (t : List Char) :
    operation? (c :: d :: t) = operation? [c, d] := by
  unfold operation?
  grind

/-- No operation begins before an end and goes on behind it. -/
theorem Closes.operation?_append (closes : Closes w) (nonempty : t ≠ []) :
    operation? (t ++ w) = operation? t := by
  obtain ⟨c, t, rfl⟩ := List.exists_cons_of_ne_nil nonempty
  cases t with
  | nil =>
    rcases closes.cases with rfl | ⟨more, rfl⟩
    · rfl
    · rw [List.singleton_append, operation?_cons_cons]
      simp [operation?]
  | cons d t => exact (operation?_cons_cons c d _).trans (operation?_cons_cons c d t).symm

namespace Ending

variable {e : Ending} {N : Nat}

/-! ## Items -/

private theorem within_classChar (c : Char) : e.Within N 0 0 (classChar c) (classChar c) :=
  .bind 0 (within_has _) fun _ => .bind 0 (within_require _) fun _ => within_pure _

private theorem within_endOfRange (a : Atom) : e.Within N 0 0 (endOfRange a) (endOfRange a) := by
  cases a with
  | literal c byte => exact within_classChar c
  | set s => exact within_failure
  | assertion a => exact within_failure

private theorem within_classAtom : e.WithinBut e.StuckAt N 0 1 classAtom classAtom := by
  refine within_look_bind Nat.one_pos fun c => .ite (fun _ => within_escape.mono) fun _ => ?_
  exact .bind 0 (within_drop 1) fun _ => within_pure _

/-- An item is read in the same way if something stands between it and the end. -/
theorem within_classItem : e.Within N 1 1 classItem classItem := by
  refine within_classAtom.bindBut 0 (fun first => ?_) ?_
  · refine .bind 0 within_skipSpace fun _ => within_look_bind Nat.one_pos fun c => ?_
    refine within_ask_ite
      (c := fun s => c != '-' || afterSpace (s.flags.contains .spread) s.rest == some ']' ||
        afterSpace (s.flags.contains .spread) s.rest == some '-') (fun s long => ?_) ?_ ?_
    · have nonempty : s.rest ≠ [] := List.ne_nil_of_length_pos (by omega)
      simp only [Scan.followedBy, e.closes.afterSpace_beq _ nonempty (by decide : ']' ≠ ')'),
        e.closes.afterSpace_beq _ nonempty (by decide : '-' ≠ ')'),
        e.closes_new.afterSpace_beq _ nonempty (by decide : ']' ≠ ')'),
        e.closes_new.afterSpace_beq _ nonempty (by decide : '-' ≠ ')')]
    · cases first with
      | literal c byte => exact .bind 0 (within_classChar c) fun _ => within_pure _
      | set s => exact within_pure _
      | assertion a => exact within_failure
    · refine .bind 0 within_bump fun _ => .bind 0 (within_endOfRange first) fun low => ?_
      refine within_classAtom.bindBut 0 (fun last => ?_) ?_
      · refine .bind 0 (within_endOfRange last) fun high => ?_
        exact .bind 0 (within_require _) fun _ => within_pure _
      · -- A range does not end with an assertion.
        rintro _ s b s' ⟨⟨a, rfl⟩, -⟩ ran -
        obtain ⟨_, _, ran, -⟩ := run_bind_eq_some.mp ran
        cases ran
  · -- An assertion is no item, and no range starts with one.
    rintro _ s b s' ⟨⟨a, rfl⟩, -⟩ ran -
    obtain ⟨_, _, -, ran⟩ := run_bind_eq_some.mp ran
    obtain ⟨c, _, -, ran⟩ := run_bind_eq_some.mp ran
    obtain ⟨_, _, -, ran⟩ := run_bind_eq_some.mp ran
    dsimp only at ran
    split at ran
    · cases ran
    · obtain ⟨_, _, -, ran⟩ := run_bind_eq_some.mp ran
      obtain ⟨_, _, ran, -⟩ := run_bind_eq_some.mp ran
      cases ran

/-! ## Whole classes -/

private theorem within_hyphens (N n n' : Nat) (enough : 0 < N → N + e.old.length ≤ n + 1)
    (enough' : N ≤ n' + 1) : e.Within N 1 0 (hyphens n) (hyphens n') := by
  refine within_upTo (F := hyphens) rfl (fun N n n' more => ?_) N n n' enough enough'
  rw [hyphens, hyphens]
  refine within_look_bind Nat.one_pos fun c => .ite (fun _ => ?_) fun _ => within_pure []
  exact .bind 0 within_bump fun _ => .bind 0 more fun _ => within_pure _

/-- The start of a class after the bracket and the sign of a negation. -/
def classStart (negated : Bool) : Reader Opened := do
  let items ← get >>= fun s => hyphens s.rest.length
  if items.isEmpty && (← look) == ']' then
    bump
    pure ⟨negated, none, [⟨.single ']', 0⟩]⟩
  else pure ⟨negated, none, items⟩

private theorem openClass_eq :
    openClass = (do
      bump
      let c ← look
      if c == '^' then do
        bump
        classStart (c == '^')
      else classStart (c == '^')) := rfl

private theorem within_classStart (negated : Bool) :
    e.Within N 1 0 (classStart negated) (classStart negated) := by
  refine .bind 0 (within_length within_hyphens) fun items => ?_
  refine within_look_bind Nat.one_pos fun c => ?_
  refine .ite (fun _ => ?_) fun _ => within_pure _
  exact .bind 0 within_bump fun _ => within_pure _

private theorem within_openClass : e.Within N 1 1 openClass openClass := by
  rw [openClass_eq]
  refine .bind 0 within_bump fun _ => within_look_bind Nat.one_pos fun c => ?_
  refine .ite (fun _ => ?_) fun _ => within_classStart _
  exact .bind 0 within_bump fun _ => within_classStart _

private theorem within_settle (opened : Opened) :
    e.Within N 0 0 (settle opened) (settle opened) := by
  unfold settle
  split
  · exact within_pure _
  · exact .bind 0 (within_fold _) fun _ => .bind 0 (within_fold _) fun _ => within_pure _

private theorem within_closeClass (opened : Opened) :
    e.Within N 0 0 (closeClass opened) (closeClass opened) :=
  .bind 0 (within_settle opened) fun _ => .bind 0 (within_fold _) fun _ =>
    .bind 0 (within_complementIf _ _) fun _ => within_pure _

/-- What is read of a class where a bracket opens another one in it, which may be a named one. -/
def classInner (n : Nat) (opened : Opened) (named : Option (CharSet × Bool × Nat)) :
    Reader Group :=
  named.elim
    (do
      let inner ← openClass
      let inner ← classRest n inner
      classRest n { opened with items := inner :: opened.items })
    fun named => do
      drop (named.2.2 + 1)
      let s ← complementIf named.2.1 (← fold named.1)
      classRest n { opened with items := ⟨s, 0⟩ :: opened.items }

/-- What is read of a class where no bracket stands, but perhaps an operation. -/
def classItems (n : Nat) (opened : Opened) (operation : Option SetOperation) : Reader Group :=
  operation.elim
    (do
      let item ← classItem
      classRest n { opened with items := item :: opened.items })
    fun operation => do
      drop 2
      let left ← settle opened
      classRest n { opened with pending := some (operation, left), items := [] }

private theorem classRest_succ (n : Nat) (opened : Opened) :
    classRest (n + 1) opened = (do
      skipSpace
      let c ← look
      if c = ']' then do
        drop 1
        closeClass opened
      else if c = '[' then do
        let s ← get
        classInner n opened (namedHere? s.rest)
      else do
        let s ← get
        classItems n opened (operation? s.rest)) := by
  rw [classRest]
  congr 1
  funext _
  refine StateT.ext fun s => ?_
  obtain ⟨_ | ⟨c, t⟩, flags, names⟩ := s
  · rfl
  · by_cases closing : c = ']'
    · subst closing
      rfl
    · rw [StateT.run_bind, StateT.run_get, pure_bind]
      change _ = (if c = ']' then _ else if c = '[' then _ else _ : Reader Group).run _
      rw [if_neg closing]
      by_cases opening : c = '['
      · subst opening
        rw [if_pos rfl, StateT.run_bind, StateT.run_get, pure_bind]
        cases named : namedClass? ('[' :: t) with
        | none =>
          simp only [classInner, namedHere?, named]
          rfl
        | some parts =>
          obtain ⟨set, negated, rest⟩ := parts
          obtain ⟨suffix, shorter⟩ := suffix_of_namedClass? named
          have dropped : (drop (('[' :: t).length - rest.length - 1 + 1)).run
              ⟨'[' :: t, flags, names⟩ = some ((), ⟨rest, flags, names⟩) := by
            have count :
                ('[' :: t).length - rest.length - 1 + 1 = ('[' :: t).length - rest.length :=
              Nat.sub_add_cancel (Nat.sub_pos_of_lt shorter)
            rw [count]
            exact congrArg (fun rest => some ((), (⟨rest, flags, names⟩ : Scan)))
              (List.suffix_iff_eq_drop.mp suffix).symm
          simp only [classInner, namedHere?, named, Option.map_some, Option.elim_some]
          refine Eq.trans ?_ (StateT.run_bind ..).symm
          rw [dropped]
          rfl
      · rw [if_neg opening, StateT.run_bind, StateT.run_get, pure_bind]
        dsimp only
        split
        · rename_i isNil
          cases isNil
        · rename_i isCons
          cases isCons
          exact absurd rfl closing
        · rename_i isCons
          cases isCons
          exact absurd rfl opening
        · cases operation? (c :: t) <;> rfl

/-- What follows in a class is read in the same way, with any bound that is large enough before the
new end. -/
theorem within_classRest (n n' : Nat) (opened : Opened) (enough : N ≤ n') :
    e.Within N 0 1 (classRest n opened) (classRest n' opened) := by
  induction n generalizing N n' opened with
  | zero => exact within_failure
  | succ n ih =>
    have step (n' : Nat) (enough : N - 1 ≤ n') :
        e.Within N 0 1 (classRest (n + 1) opened) (classRest (n' + 1) opened) := by
      rw [classRest_succ, classRest_succ]
      refine .bind 1 within_skipSpace fun _ => within_look_bind Nat.one_pos fun c => ?_
      refine .ite (fun _ => ?_) fun _ => .ite (fun _ => ?_) fun _ => ?_
      · exact .bind 0 (within_drop 1) fun _ => within_closeClass opened
      · refine within_ask (fun s _ => ?_) fun named => ?_
        · exact e.closes.namedHere?_append.trans e.closes_new.namedHere?_append.symm
        · cases named with
          | none =>
            refine .bind 1 within_openClass fun inner => ?_
            exact .bind 1 (ih n' inner (by omega)) fun inner => ih n' _ (by omega)
          | some named =>
            refine .bind 1 (within_drop _) fun _ => .bind 1 (within_fold _) fun s => ?_
            exact .bind 1 (within_complementIf _ s) fun s => ih n' _ (by omega)
      · refine within_ask (fun s long => ?_) fun operation => ?_
        · have nonempty : s.rest ≠ [] := List.ne_nil_of_length_pos (by omega)
          exact (e.closes.operation?_append nonempty).trans
            (e.closes_new.operation?_append nonempty).symm
        · cases operation with
          | none => exact .bind 1 within_classItem fun item => ih n' _ (by omega)
          | some operation =>
            refine .bind 1 (within_drop 2) fun _ => .bind 1 (within_settle opened) fun left => ?_
            exact ih n' _ (by omega)
    cases n' with
    | zero => exact (step 0 (by omega)).of_le enough
    | succ n' => exact step n' (by omega)

/-- A class between brackets with a bound on what follows its start. -/
def bracketUpTo (n : Nat) : Reader Part := do
  let opened ← openClass
  let group ← classRest n opened
  pure ⟨.one group.set, group.depth, true⟩

theorem within_bracket : e.Within N 0 2 bracket bracket := by
  have each (N n n' : Nat) (enough : N ≤ n' + 1) :
      e.Within N 0 2 (bracketUpTo n) (bracketUpTo n') := by
    refine .bind 1 within_openClass fun opened => ?_
    exact .bind 0 (within_classRest n n' opened (by omega)) fun _ => within_pure _
  exact within_length fun N n n' _ enough => each N n n' enough

end Ending

end MessageExpr.Pattern
