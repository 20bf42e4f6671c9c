import MessageExpr.Proofs.Except
import MessageExpr.Proofs.Library.Documented
import MessageExpr.Proofs.Pattern.Body
import MessageExpr.Proofs.Pattern.Spans

/-!
# Patterns keep what is documented

The patterns of this project are a library that keeps what libraries of regular expressions
document of groups and of the marks for the start and the end of a text. The reason is that a
pattern is read up to a closing parenthesis in the same way as up to the end of its text, so that it
means the same in a group as on its own.

## Main definitions

* `Pattern.Matches` — what the expression of a text matches
* `Pattern.ReadsUpTo` — a text is read in the same way up to whatever closes it

## Main results

* `Pattern.exists_readsUpTo` — what reading stops behind at a closing parenthesis
* `Pattern.documented` — these patterns keep what is documented
-/

namespace MessageExpr.Pattern

open PatternLibrary Reader

/-- The expression of a text matches what stands between two places. -/
def Matches (e t : String) (i j : Nat) : Prop :=
  i ≤ t.length ∧ ∃ p, read? e.toList = some p ∧ p.Spans t.toList.toArray i j

/-- A text is read as the same part, whatever closes it and however large the bound is. -/
def ReadsUpTo (t : List Char) (part : Part) : Prop :=
  ∃ flags names, ∀ n w, t.length < n → Closes w →
    (body n [] []).run ⟨t ++ w, [.unicode], []⟩ = some (part, ⟨w, flags, names⟩)

/-! ## Reading -/

section

variable {n : Nat} {branches parts : List Part} {t : List Char} {names : List (List Char)}

private theorem run_body_startMark :
    (body (n + 1) branches parts).run ⟨'^' :: t, [.unicode], names⟩ =
      (body n branches (⟨.assertion .textStart, 0, true⟩ :: parts)).run ⟨t, [.unicode], names⟩ := by
  rfl

private theorem run_body_endMark :
    (body (n + 1) branches parts).run ⟨'$' :: t, [.unicode], names⟩ =
      (body n branches (⟨.assertion .textEnd, 0, true⟩ :: parts)).run ⟨t, [.unicode], names⟩ := by
  rfl

theorem run_body_nil :
    (body (n + 1) [] parts).run ⟨[], [.unicode], names⟩ =
      some (row parts.reverse, ⟨[], [.unicode], names⟩) := by
  rfl

private theorem run_body_group :
    (body (n + 1) branches parts).run ⟨'(' :: '?' :: ':' :: t, [.unicode], names⟩ =
      (do
        let inner ← body n [] []
        require ((← peek) == some ')')
        modify fun s => { s with rest := s.rest.drop 1, flags := [.unicode] }
        body n branches (⟨inner.pattern, inner.depth + 1, true⟩ :: parts) : Reader Part).run
        ⟨t, [.unicode], names⟩ := by
  rfl

/-- Reading a group reads what is in it up to a closing parenthesis, and goes on after that. -/
theorem exists_run_of_group {part : Part} {s : Scan}
    (ran : (body (n + 1) branches parts).run ⟨'(' :: '?' :: ':' :: t, [.unicode], names⟩ =
      some (part, s)) :
    ∃ inner s' more, (body n [] []).run ⟨t, [.unicode], names⟩ = some (inner, s') ∧
      s'.rest = ')' :: more ∧
      (body n branches (⟨inner.pattern, inner.depth + 1, true⟩ :: parts)).run
        ⟨more, [.unicode], s'.names⟩ = some (part, s) := by
  rw [run_body_group] at ran
  obtain ⟨inner, s', ranInner, asked⟩ := run_bind_eq_some.mp ran
  obtain ⟨_, _, ⟨⟩, closed⟩ := run_bind_eq_some.mp asked
  obtain ⟨_, _, required, after⟩ := run_bind_eq_some.mp closed
  obtain ⟨closing, rfl⟩ := run_require required
  obtain ⟨_, _, ⟨⟩, ranRest⟩ := run_bind_eq_some.mp after
  obtain ⟨more, eq⟩ := List.head?_eq_some_iff.mp (beq_iff_eq.mp closing)
  simp only [eq, List.drop_succ_cons, List.drop_zero] at ranRest
  exact ⟨inner, _, more, ranInner, eq, ranRest⟩

end

/-- A pattern is read if reading goes on to the end and the parts are not nested too deeply. -/
theorem read?_eq_some_iff {t : List Char} {q : Pattern} :
    read? t = some q ↔
      ∃ part s, (body (t.length + 1) [] []).run ⟨t, [.unicode], []⟩ = some (part, s) ∧
        s.rest = [] ∧ part.depth ≤ maxDepth ∧ part.pattern = q := by
  rw [read?]
  change Option.bind _ _ = _ ↔ _
  rw [Option.bind_eq_some_iff, Prod.exists]
  refine exists_congr fun part => exists_congr fun s => and_congr_right fun _ => ?_
  rw [← and_assoc, ← List.isEmpty_iff, ← decide_eq_true_iff (p := part.depth ≤ maxDepth),
    ← Bool.and_eq_true]
  change (if _ then some part.pattern else none) = some q ↔ _
  rw [Option.ite_none_right_eq_some, Option.some_inj]

/-! ## Depths -/

private theorem le_foldl_max (l : List Nat) (start : Nat) :
    start ≤ l.foldl max start ∧ ∀ n ∈ l, n ≤ l.foldl max start := by
  induction l generalizing start with
  | nil => simp
  | cons m l ih =>
    obtain ⟨le, all⟩ := ih (max start m)
    refine ⟨Nat.le_trans (Nat.le_max_left _ _) le, ?_⟩
    simp only [List.mem_cons, List.foldl_cons, forall_eq_or_imp]
    exact ⟨Nat.le_trans (Nat.le_max_right _ _) le, all⟩

private theorem depth_le_row {parts : List Part} {p : Part} (mem : p ∈ parts) :
    p.depth ≤ (row parts).depth := by
  unfold row
  split
  · cases mem
  · rw [List.mem_singleton.mp mem]
  · have := (le_foldl_max (parts.map (·.depth)) 0).2 p.depth (List.mem_map_of_mem mem)
    dsimp only
    omega

private theorem depth_le_choice {first p : Part} {more : List Part} (mem : p ∈ first :: more) :
    p.depth ≤ (choice first more).depth := by
  unfold choice
  split
  · rw [List.mem_singleton.mp mem]
  · obtain ⟨le, all⟩ := le_foldl_max (more.map (·.depth)) first.depth
    dsimp only
    rcases List.mem_cons.mp mem with rfl | mem
    · omega
    · have := all p.depth (List.mem_map_of_mem mem)
      omega

/-- What is said about the answer of a reader, whenever it gives one. -/
def Ensures {α : Type} (Q : α → Prop) (r : Reader α) : Prop :=
  ∀ s a s', r.run s = some (a, s') → Q a

namespace Ensures

variable {α β : Type} {Q : α → Prop} {Q' : β → Prop} {r : Reader α} {f : α → Reader β}

private theorem bind (next : ∀ a, Ensures Q' (f a)) : Ensures Q' (r >>= f) := by
  intro s b s' ran
  obtain ⟨a, between, -, ran⟩ := run_bind_eq_some.mp ran
  exact next a between b s' ran

private theorem mono {Q₂ : α → Prop} (h : Ensures Q r) (weaker : ∀ a, Q a → Q₂ a) : Ensures Q₂ r :=
  fun s a s' ran => weaker a (h s a s' ran)

private theorem pure {a : α} (h : Q a) : Ensures Q (pure a) := by
  intro s b s' ran
  obtain ⟨rfl, -⟩ := run_pure_eq_some.mp ran
  exact h

private theorem failure : Ensures Q (failure : Reader α) := nofun

end Ensures

/-- The parts of a pattern are finished branches, or belong to the one that is being read. -/
def DepthLe (branches parts : List Part) (whole : Part) : Prop :=
  (∀ p ∈ branches, p.depth ≤ whole.depth) ∧ ∀ p ∈ parts, p.depth ≤ whole.depth

private theorem depthLe_of_row {branches parts : List Part} {whole : Part}
    (h : DepthLe (row parts.reverse :: branches) [] whole) : DepthLe branches parts whole := by
  refine ⟨fun p mem => h.1 p (List.mem_cons_of_mem _ mem), fun p mem => ?_⟩
  exact Nat.le_trans (depth_le_row (List.mem_reverse.mpr mem)) (h.1 _ List.mem_cons_self)

/-- A pattern is nested at least as deeply as any of its parts. -/
theorem ensures_depthLe_body (n : Nat) (branches parts : List Part) :
    Ensures (DepthLe branches parts) (body n branches parts) := by
  induction n generalizing branches parts with
  | zero => exact .failure
  | succ n ih =>
    have onto (part : Part) : Ensures (DepthLe branches parts) (body n branches (part :: parts)) :=
      (ih branches (part :: parts)).mono fun whole all =>
        ⟨all.1, fun p mem => all.2 p (List.mem_cons_of_mem part mem)⟩
    have group (flags : List Flag) :
        Ensures (DepthLe branches parts) (Ending.groupRest n branches parts flags) := by
      refine .bind fun isGroup => ?_
      split
      · exact .bind fun _ => .bind fun _ => .bind fun _ => .bind fun _ => onto _
      · exact onto _
    have finish (first : Part) (more : List Part)
        (eq : (row parts.reverse :: branches).reverse = first :: more) :
        Ensures (DepthLe branches parts) (pure (choice first more)) := by
      refine .pure (depthLe_of_row ⟨fun p mem => depth_le_choice ?_, nofun⟩)
      rwa [← eq, List.mem_reverse]
    rw [body]
    refine .bind fun _ => .bind fun c => ?_
    split
    · split
      · exact .failure
      · exact finish _ _ ‹_›
    · split
      · exact .failure
      · exact finish _ _ ‹_›
    · exact .bind fun _ => (ih _ []).mono fun whole => depthLe_of_row
    · exact .bind fun s => group s.flags
    · exact .bind fun part => onto part
    · split
      · cases parts with
        | nil => exact .failure
        | cons last parts =>
          refine .bind fun _ => .bind fun bounds => (ih _ _).mono fun whole all => ⟨all.1, ?_⟩
          -- The part that is repeated becomes part of a deeper one.
          obtain ⟨deeper, rest⟩ := List.forall_mem_cons.mp all.2
          exact List.forall_mem_cons.mpr ⟨Nat.le_of_succ_le deeper, rest⟩
      · exact .bind fun part => onto part

/-! ## What closes a text -/

/-- Where reading stops before a closing parenthesis, the text before it is read in the same way
whatever closes it. -/
theorem exists_readsUpTo {n : Nat} {t more : List Char} {part : Part} {s : Scan}
    (ran : (body n [] []).run ⟨t, [.unicode], []⟩ = some (part, s)) (stops : s.rest = ')' :: more) :
    ∃ front, t = front ++ ')' :: more ∧ ReadsUpTo front part := by
  have closes : Closes (')' :: more) := fun c first => (Option.some_inj.mp first).symm
  let nowhere : Ending := ⟨')' :: more, [], closes, nofun, Nat.succ_pos _⟩
  obtain ⟨k, -, dropped⟩ :=
    (nowhere.within_body (N := 0) n 0 [] [] (Nat.le_refl 0)).drops _ part s ran
  obtain ⟨front, rfl⟩ : ∃ front, t = front ++ ')' :: more :=
    ⟨t.take k, by rw [← stops, dropped, List.take_append_drop]⟩
  refine ⟨front, rfl, ?_⟩
  have cut (n' : Nat) (w : List Char) (enough : front.length < n') (closes' : Closes w) :=
    let e : Ending := ⟨')' :: more, w, closes, closes', Nat.succ_pos _⟩
    (e.within_body (N := n') n n' [] [] (Nat.le_refl _)).cut ⟨front, [.unicode], []⟩ part s
      enough ran (by rw [stops]; exact Nat.le_refl _) id
  obtain ⟨⟨rest, flags, names⟩, rfl, -⟩ := cut (front.length + 1) [] (Nat.lt_succ_self _) nofun
  obtain rfl : rest = [] := List.append_left_eq_self.mp stops
  refine ⟨flags, names, fun n' w enough closes' => ?_⟩
  -- What is left of the text before its end does not depend on the end.
  obtain ⟨⟨rest', flags', names'⟩, same, found⟩ := cut n' w enough closes'
  obtain ⟨eq, rfl, rfl⟩ := Scan.mk.inj same
  obtain rfl : [] = rest' := List.append_cancel_right eq
  exact found

namespace ReadsUpTo

variable {t w : List Char} {part : Part} {n : Nat}

private theorem read?_eq (h : ReadsUpTo t part) (shallow : part.depth ≤ maxDepth) :
    read? t = some part.pattern := by
  obtain ⟨flags, names, run⟩ := h
  have ran := run (t.length + 1) [] (Nat.lt_succ_self _) nofun
  rw [List.append_nil] at ran
  exact read?_eq_some_iff.mpr ⟨part, _, ran, rfl, shallow, rfl⟩

/-- A closing parenthesis after the text stops reading, so that the whole is no pattern. -/
theorem read?_append_eq_none (h : ReadsUpTo t part) (more : List Char) :
    read? (t ++ ')' :: more) = none := by
  obtain ⟨flags, names, run⟩ := h
  have closes : Closes (')' :: more) := fun c first => (Option.some_inj.mp first).symm
  refine Option.eq_none_iff_forall_ne_some.mpr fun p read => ?_
  obtain ⟨part', s, ran, isNil, -, -⟩ := read?_eq_some_iff.mp read
  rw [run _ _ (by simp only [List.length_append]; omega) closes] at ran
  cases ran
  cases isNil

/-- A group with the text in it is read as a part. -/
theorem run_body_group_eq (h : ReadsUpTo t part) (enough : t.length < n)
    (branches parts : List Part) :
    ∃ names, (body (n + 1) branches parts).run
        ⟨'(' :: '?' :: ':' :: (t ++ ')' :: w), [.unicode], []⟩ =
      (body n branches (⟨part.pattern, part.depth + 1, true⟩ :: parts)).run
        ⟨w, [.unicode], names⟩ := by
  obtain ⟨flags, names, run⟩ := h
  have closes : Closes (')' :: w) := fun c first => (Option.some_inj.mp first).symm
  refine ⟨names, ?_⟩
  rw [run_body_group, StateT.run_bind, run n _ enough closes]
  rfl

end ReadsUpTo

/-! ## Marks -/

/-- A pattern before the end of the text. -/
def closed (p : Pattern) : Pattern := .concat p (.concat (.assertion .textEnd) .empty)

/-- A pattern between the start and the end of the text. -/
def fenced (p : Pattern) : Pattern :=
  .concat (.assertion .textStart) (.concat p (.concat (.assertion .textEnd) .empty))

section

variable {p : Pattern} {text : Array Char} {i j : Nat}

private theorem holds_textStart_iff (inside : i ≤ text.size) :
    Assertion.textStart.holds (charBefore text i) text[i]? = true ↔ i = 0 := by
  rw [Assertion.holds, charBefore, Option.isNone_iff_eq_none]
  split
  · rename_i isStart
    exact iff_of_true rfl isStart
  · rename_i later
    refine iff_of_false (fun none => ?_) later
    have beyond := Array.getElem?_eq_none_iff.mp none
    omega

private theorem holds_textEnd_iff (inside : i ≤ text.size) :
    Assertion.textEnd.holds (charBefore text i) text[i]? = true ↔ i = text.size := by
  rw [Assertion.holds, Option.isNone_iff_eq_none, Array.getElem?_eq_none_iff]
  omega

private theorem spans_closed_iff (inside : i ≤ text.size) :
    (closed p).Spans text i j ↔ p.Spans text i j ∧ j = text.size := by
  constructor
  · rintro ⟨k, spans, _, ⟨rfl, atEnd⟩, rfl⟩
    exact ⟨spans, (holds_textEnd_iff (spans.le inside)).mp atEnd⟩
  · rintro ⟨spans, rfl⟩
    exact ⟨_, spans, _, ⟨rfl, (holds_textEnd_iff (Nat.le_refl _)).mpr rfl⟩, rfl⟩

private theorem spans_fenced_iff (inside : i ≤ text.size) :
    (fenced p).Spans text i j ↔ i = 0 ∧ (closed p).Spans text i j := by
  constructor
  · rintro ⟨_, ⟨rfl, atStart⟩, spans⟩
    exact ⟨(holds_textStart_iff inside).mp atStart, spans⟩
  · rintro ⟨rfl, spans⟩
    exact ⟨0, ⟨rfl, (holds_textStart_iff inside).mpr rfl⟩, spans⟩

end

/-- Where reading goes on to the end, the pattern is read unless it is nested too deeply. -/
theorem read?_eq_some_iff_of_run {t : List Char} {q : Pattern} {part : Part} {s : Scan}
    (ran : (body (t.length + 1) [] []).run ⟨t, [.unicode], []⟩ = some (part, s))
    (isNil : s.rest = []) : read? t = some q ↔ part.depth ≤ maxDepth ∧ part.pattern = q := by
  rw [read?_eq_some_iff]
  constructor
  · rintro ⟨part', s', ran', -, same⟩
    cases ran.symm.trans ran'
    exact same
  · exact fun same => ⟨part, s, ran, isNil, same⟩

namespace ReadsUpTo

variable {t : List Char} {part : Part} {q : Pattern}

/-- A group with the text in it. -/
theorem read?_grouped_iff (h : ReadsUpTo t part) :
    read? ('(' :: '?' :: ':' :: (t ++ [')'])) = some q ↔
      part.depth + 1 ≤ maxDepth ∧ part.pattern = q := by
  obtain ⟨names, run⟩ := h.run_body_group_eq (n := t.length + 4) (w := []) (by omega) [] []
  have length : ('(' :: '?' :: ':' :: (t ++ [')'])).length + 1 = t.length + 4 + 1 := by simp
  rw [run_body_nil, ← length] at run
  exact read?_eq_some_iff_of_run run rfl

/-- A group with the text in it before the mark for the end. -/
theorem read?_closed_iff (h : ReadsUpTo t part) :
    read? ('(' :: '?' :: ':' :: (t ++ [')', '$'])) = some q ↔
      part.depth + 1 < maxDepth ∧ closed part.pattern = q := by
  obtain ⟨names, run⟩ := h.run_body_group_eq (n := t.length + 5) (w := ['$']) (by omega) [] []
  have length : ('(' :: '?' :: ':' :: (t ++ [')', '$'])).length + 1 = t.length + 5 + 1 := by simp
  rw [run_body_endMark, run_body_nil, ← length] at run
  rw [read?_eq_some_iff_of_run run rfl]
  change 1 + max (max 0 (part.depth + 1)) 0 ≤ maxDepth ∧ _ ↔ _
  refine and_congr_left fun _ => ?_
  omega

/-- A group with the text in it between the marks. -/
theorem read?_fenced_iff (h : ReadsUpTo t part) :
    read? ('^' :: '(' :: '?' :: ':' :: (t ++ [')', '$'])) = some q ↔
      part.depth + 1 < maxDepth ∧ fenced part.pattern = q := by
  obtain ⟨names, run⟩ := h.run_body_group_eq (n := t.length + 5) (w := ['$']) (by omega) []
    [⟨.assertion .textStart, 0, true⟩]
  have length :
      ('^' :: '(' :: '?' :: ':' :: (t ++ [')', '$'])).length + 1 = t.length + 5 + 1 + 1 := by simp
  rw [run_body_endMark, run_body_nil, ← run_body_startMark, ← length] at run
  rw [read?_eq_some_iff_of_run run rfl]
  change 1 + max (max (max 0 0) (part.depth + 1)) 0 ≤ maxDepth ∧ _ ↔ _
  refine and_congr_left fun _ => ?_
  omega

end ReadsUpTo

/-! ## Expressions -/

theorem isExpression_iff {e : String} : IsExpression e ↔ ∃ p, read? e.toList = some p := by
  change (∀ report, build e ≠ .error (.malformed report)) ↔ _
  rw [build]
  cases read? e.toList with
  | none => simp
  | some p =>
    refine iff_of_true (fun report => ?_) ⟨p, rfl⟩
    dsimp only
    split <;> nofun

theorem toList_grouped (e : String) :
    (grouped e).toList = '(' :: '?' :: ':' :: (e.toList ++ [')']) := by
  simp [grouped, String.toList_append]

private theorem toList_grouped_endMark (e : String) :
    (grouped e ++ "$").toList = '(' :: '?' :: ':' :: (e.toList ++ [')', '$']) := by
  simp [grouped, String.toList_append]

private theorem toList_startMark_append (e : String) : ("^" ++ e).toList = '^' :: e.toList := by
  simp [String.toList_append]

private theorem matches_iff {e t : String} {p : Pattern} {i j : Nat}
    (read : read? e.toList = some p) :
    Matches e t i j ↔ i ≤ t.length ∧ p.Spans t.toList.toArray i j := by
  simp [Matches, read]

/-- An expression that can stand in a group is read up to whatever closes it. -/
theorem exists_readsUpTo_of_isGroupable {e : String} (h : IsGroupable e) :
    ∃ part, ReadsUpTo e.toList part ∧ part.depth + 1 ≤ maxDepth := by
  obtain ⟨p, alone⟩ := isExpression_iff.mp h.alone
  obtain ⟨q, inside⟩ := isExpression_iff.mp h.inside
  rw [toList_grouped] at inside
  obtain ⟨whole, s, ran, isNil, shallow, rfl⟩ := read?_eq_some_iff.mp inside
  obtain ⟨part, s', more, ranInner, stops, ranRest⟩ := exists_run_of_group ran
  obtain ⟨front, eq, reads⟩ := exists_readsUpTo ranInner stops
  have deeper := (ensures_depthLe_body _ _ _ _ _ _ ranRest).2 _ List.mem_cons_self
  -- The group is closed by the parenthesis after the expression.
  suffices same : front = e.toList from ⟨part, same ▸ reads, Nat.le_trans deeper shallow⟩
  rcases List.append_eq_append_iff.mp eq with ⟨between, front_eq, rest⟩ | ⟨between, text_eq, rest⟩
  · cases between with
    | nil => rw [front_eq, List.append_nil]
    | cons c between => simpa using (List.cons_eq_cons.mp rest).2
  · cases between with
    | nil => rw [text_eq, List.append_nil]
    | cons c between =>
      obtain rfl := (List.cons_eq_cons.mp rest).1
      rw [text_eq, reads.read?_append_eq_none] at alone
      cases alone

theorem ReadsUpTo.isGroupable {e : String} {part : Part} (h : ReadsUpTo e.toList part)
    (shallow : part.depth + 1 ≤ maxDepth) : IsGroupable e where
  alone := isExpression_iff.mpr ⟨_, h.read?_eq (Nat.le_of_succ_le shallow)⟩
  inside := by
    rw [isExpression_iff, toList_grouped]
    exact ⟨part.pattern, h.read?_grouped_iff.mpr ⟨shallow, rfl⟩⟩

/-- A pattern that is built is the one that is read. -/
theorem read?_of_build {e : String} {p : Pattern} (built : build e = .ok p) :
    read? e.toList = some p := by
  rw [build] at built
  cases read : read? e.toList with
  | none => rw [read] at built; cases built
  | some q =>
    rw [read] at built
    dsimp only at built
    split at built
    · cases built
    · cases built
      rfl

/-- The patterns of this project keep what libraries of regular expressions document. -/
theorem documented : Documented Matches where
  isMatch_iff {e p} compiled t := by
    simp only [matches_iff (read?_of_build compiled)]
    refine occursIn_iff.trans ?_
    simp only [exists_and_left]
    rfl
  exists_group {rest} h := by
    obtain ⟨q, read⟩ := isExpression_iff.mp h
    have opened : ("^(?:" ++ rest).toList = '^' :: '(' :: '?' :: ':' :: rest.toList := by
      simp [String.toList_append]
    rw [opened] at read
    obtain ⟨whole, s, ran, isNil, shallow, rfl⟩ := read?_eq_some_iff.mp read
    rw [List.length_cons, run_body_startMark] at ran
    obtain ⟨part, s', more, ranInner, stops, ranRest⟩ := exists_run_of_group ran
    obtain ⟨front, eq, reads⟩ := exists_readsUpTo ranInner stops
    have deeper := (ensures_depthLe_body _ _ _ _ _ _ ranRest).2 _ List.mem_cons_self
    refine ⟨String.ofList front, String.ofList more, String.ext ?_, ?_⟩
    · simp [eq, String.toList_append]
    · exact ReadsUpTo.isGroupable (by rwa [String.toList_ofList]) (Nat.le_trans deeper shallow)
  unopened {e} h rest := by
    obtain ⟨part, reads, -⟩ := exists_readsUpTo_of_isGroupable h
    have behind : (e ++ ")" ++ rest).toList = e.toList ++ ')' :: rest.toList := by
      simp [String.toList_append]
    rw [isExpression_iff, behind, reads.read?_append_eq_none]
    nofun
  matches_grouped {e} h t i j := by
    obtain ⟨part, reads, shallow⟩ := exists_readsUpTo_of_isGroupable h
    have inside := reads.read?_grouped_iff.mpr ⟨shallow, rfl⟩
    rw [← toList_grouped] at inside
    rw [matches_iff inside, matches_iff (reads.read?_eq (Nat.le_of_succ_le shallow))]
  matches_endMark {e} h row t i j := by
    obtain ⟨part, reads, shallow⟩ := exists_readsUpTo_of_isGroupable h
    have inside := reads.read?_grouped_iff.mpr ⟨shallow, rfl⟩
    rw [← toList_grouped] at inside
    obtain ⟨q, read⟩ := isExpression_iff.mp row
    obtain ⟨-, rfl⟩ := reads.read?_closed_iff.mp (toList_grouped_endMark e ▸ read)
    rw [matches_iff inside, matches_iff read, and_assoc]
    exact and_congr_right spans_closed_iff
  of_startMark {e} h row := by
    obtain ⟨part, reads, shallow⟩ := exists_readsUpTo_of_isGroupable h
    obtain ⟨q, read⟩ := isExpression_iff.mp row
    rw [toList_startMark_append, toList_grouped_endMark, reads.read?_fenced_iff] at read
    refine isExpression_iff.mpr ⟨closed part.pattern, ?_⟩
    rw [toList_grouped_endMark, reads.read?_closed_iff]
    exact ⟨read.1, rfl⟩
  matches_startMark {e} h row t i j := by
    obtain ⟨part, reads, shallow⟩ := exists_readsUpTo_of_isGroupable h
    obtain ⟨q, read⟩ := isExpression_iff.mp row
    have fenced_read := read
    rw [toList_startMark_append, toList_grouped_endMark, reads.read?_fenced_iff] at fenced_read
    obtain ⟨deep, rfl⟩ := fenced_read
    have closed_read := reads.read?_closed_iff.mpr ⟨deep, rfl⟩
    rw [← toList_grouped_endMark] at closed_read
    rw [matches_iff read, matches_iff closed_read, and_left_comm]
    exact and_congr_right spans_fenced_iff

end MessageExpr.Pattern
