import Mathlib.Tactic.SplitIfs
import MessageExpr.Proofs.Pattern.Within

/-!
# Parts of patterns before an end

Escapes, the bounds of repetitions and the starts of groups are read in the same way before either
end of a text. There is one exception: the letter of a word boundary with a brace behind it may be
read although nothing stands after the brace but the end.
-/

namespace MessageExpr.Pattern.Ending

open Reader

variable {e : Ending} {N : Nat}

/-! ## Numbers -/

private theorem within_decimal : e.Within N 1 0 decimal decimal :=
  have stops : Unicode.isBlank ')' = false := by decide
  .bind 0 (within_dropWhile stops) fun _ => .bind 0 (within_span _) fun _ =>
    .bind 0 (within_dropWhile stops) fun _ => .bind 0 (within_require _) fun _ => within_pure _

private theorem within_mapM {α β : Type} {g : α → Reader β} (each : ∀ a, e.Within N 0 0 (g a) (g a))
    (l : List α) : e.Within N 0 0 (l.mapM g) (l.mapM g) := by
  induction l with
  | nil => exact within_pure []
  | cons a l ih =>
    rw [List.mapM_cons]
    exact .bind 0 (each a) fun _ => .bind 0 ih fun _ => within_pure _

private theorem within_hexChar (digits : List Char) :
    e.Within N 0 0 (hexChar digits) (hexChar digits) :=
  .bind 0 (within_mapM (fun _ => within_lift _) digits) fun _ =>
    .bind 0 (within_require _) fun _ => within_pure _

private theorem within_hexDigits (count : Nat) :
    e.Within N 0 count (hexDigits count) (hexDigits count) := by
  induction count generalizing N with
  | zero => exact within_pure []
  | succ count ih =>
    have : AtMost (count + 1) (1 + count) := ⟨Nat.le_of_eq (Nat.add_comm count 1)⟩
    refine within_look_bind (by omega) fun _ => ?_
    exact .bind count within_bump fun _ => .bind 0 ih fun _ => within_pure _

private theorem within_hexEscape (letter : Char) :
    e.Within N 0 1 (hexEscape letter) (hexEscape letter) := by
  refine .bind 1 within_bump fun _ => within_look_bind Nat.one_pos fun _ => ?_
  refine .ite (fun _ => ?_) fun _ => ?_
  · refine .bind 1 within_bump fun _ => .bind 1 (within_span _) fun _ => ?_
    refine within_look_bind Nat.one_pos fun _ => .bind 0 within_bump fun _ => ?_
    exact .bind 0 (within_hexChar _) fun _ => within_pure _
  · have : AtMost 1 (if letter == 'x' then 2 else if letter == 'u' then 4 else 8) :=
      ⟨by split_ifs <;> decide⟩
    exact .bind 0 (within_hexDigits _) fun _ => .bind 0 (within_hexChar _) fun _ => within_pure _

/-! ## Classes that a letter stands for -/

theorem within_fold (s : CharSet) : e.Within N 0 0 (fold s) (fold s) := by
  refine .bind 0 (within_has _) fun _ => .ite (fun _ => ?_) fun _ => within_pure _
  exact .bind 0 (within_has _) fun _ => .ite (fun _ => within_pure _) fun _ => within_pure _

theorem within_complementIf (negated : Bool) (s : CharSet) :
    e.Within N 0 0 (complementIf negated s) (complementIf negated s) := by
  refine .ite (fun _ => ?_) fun _ => within_pure _
  exact .bind 0 (within_has _) fun _ => .bind 0 (within_require _) fun _ => within_pure _

private theorem within_propertySet (name : List Char) :
    e.Within N 0 0 (propertySet name) (propertySet name) := by
  unfold propertySet
  split
  · exact .bind 0 (within_lift _) fun _ => within_pure _
  · split
    · exact .bind 0 (within_lift _) fun _ => within_pure _
    · exact .bind 0 (within_lift _) fun _ => within_pure _

private theorem within_propertyEscape (negated : Bool) :
    e.Within N 0 2 (propertyEscape negated) (propertyEscape negated) := by
  refine .bind 2 (within_has _) fun _ => .bind 2 (within_require _) fun _ => ?_
  refine .bind 1 within_bump fun _ => within_look_bind Nat.one_pos fun _ => ?_
  refine .ite (fun _ => ?_) fun _ => ?_
  · refine .bind 1 within_bump fun _ => .bind 1 (within_span _) fun _ => ?_
    refine within_look_bind Nat.one_pos fun _ => .bind 0 (within_drop 1) fun _ => ?_
    refine .bind 0 (within_propertySet _) fun _ => .bind 0 (within_fold _) fun _ => ?_
    exact .bind 0 (within_complementIf _ _) fun _ => within_pure _
  · refine .bind 0 (within_drop 1) fun _ => .bind 0 (within_lift _) fun _ => ?_
    refine .bind 0 (within_fold _) fun _ => ?_
    exact .bind 0 (within_complementIf _ _) fun _ => within_pure _

private theorem within_letterSet (letter : Char) :
    e.Within N 0 0 (letterSet letter) (letterSet letter) :=
  .bind 0 (within_has _) fun _ => within_complementIf _ _

/-! ## Escapes -/

/-- Whether a brace is left with nothing behind it but the old end, or less. -/
def Stuck (e : Ending) (s : Scan) : Prop :=
  s.rest.head? = some '\x7b' ∧
    ∀ s', bump.run s = some ((), s') → s'.rest.length ≤ e.old.length

/-- The kind of a word boundary, after the brace before its name. -/
def boundaryName (unicode : Bool) : Reader Assertion := do
  let name ← span fun c => c.isAlpha || c == '-'
  require ((← look) == '\x7d')
  drop 1
  let name := String.ofList name
  if name == "start" then pure (.wordStart unicode)
  else if name == "end" then pure (.wordEnd unicode)
  else if name == "start-half" then pure (.wordStartHalf unicode)
  else if name == "end-half" then pure (.wordEndHalf unicode)
  else failure

private theorem within_boundaryName (unicode : Bool) :
    e.Within N 0 1 (boundaryName unicode) (boundaryName unicode) := by
  refine .bind 1 (within_span _) fun _ => within_look_bind Nat.one_pos fun _ => ?_
  refine .bind 1 (within_require _) fun _ => .bind 0 (within_drop 1) fun _ => ?_
  refine .ite (fun _ => within_pure _) fun _ => .ite (fun _ => within_pure _) fun _ => ?_
  exact .ite (fun _ => within_pure _) fun _ => .ite (fun _ => within_pure _) fun _ => within_failure

private theorem boundaryKind_of_ne {unicode : Bool} {s : Scan} (ne : s.rest.head? ≠ some '\x7b') :
    (boundaryKind unicode).run s = some (.wordBoundary unicode, s) := by
  rw [boundaryKind, StateT.run_bind, StateT.run_get]
  simp only [pure_bind, bne_iff_ne.mpr ne, if_true]
  rfl

/-- After the brace comes a name, or what was read of a repetition is left again. -/
theorem boundaryKind_of_eq {unicode : Bool} {s between : Scan} (eq : s.rest.head? = some '\x7b')
    (bumped : bump.run s = some ((), between)) :
    (boundaryKind unicode).run s =
      between.rest.head?.bind fun c =>
        if !c.isAlpha && c != '-' then some (.wordBoundary unicode, s)
        else (boundaryName unicode).run between := by
  have isBrace : (s.rest.head? != some '\x7b') = false := by rw [eq]; rfl
  rw [boundaryKind, StateT.run_bind, StateT.run_get]
  simp only [pure_bind, isBrace, Bool.false_eq_true, if_false]
  rw [StateT.run_bind, bumped]
  obtain ⟨_ | ⟨c, t⟩, flags, names⟩ := between
  · rfl
  · change (if !c.isAlpha && c != '-' then _ else _ : Reader Assertion).run _ = if _ then _ else _
    split <;> rfl

private theorem exists_bump (s : Scan) : ∃ between, bump.run s = some ((), between) := ⟨_, rfl⟩

/-- The letter of a word boundary is read in the same way before either end, except for one with a
brace behind it that has nothing but the end behind it: it is refused where the new end is empty. -/
theorem within_boundaryKind (unicode : Bool) :
    e.WithinBut (fun _ s => e.Stuck s) N 0 0 (boundaryKind unicode) (boundaryKind unicode) where
  drops := by
    intro s a s' ran
    by_cases eq : s.rest.head? = some '\x7b'
    · obtain ⟨between, bumped⟩ := exists_bump s
      rw [boundaryKind_of_eq eq bumped] at ran
      obtain ⟨c, -, ran⟩ := Option.bind_eq_some_iff.mp ran
      split at ran
      · cases ran
        exact ⟨0, Nat.le_refl 0, rfl⟩
      · exact ((within_bump (e := e) (N := 0)).drops.bind fun _ =>
          (within_boundaryName (e := e) (N := 0) unicode).drops).mono (Nat.zero_le _) s a s'
            (run_bind_eq_some.mpr ⟨_, between, bumped, ran⟩)
    · rw [boundaryKind_of_ne eq] at ran
      cases ran
      exact ⟨0, Nat.le_refl 0, rfl⟩
  cut := by
    intro s a s₁ short ran left notStuck
    obtain ⟨_ | ⟨d, t⟩, flags, names⟩ := s
    · -- Neither end begins with a brace.
      have ne (w : List Char) (closes : Closes w) :
          (Scan.followedBy ⟨[], flags, names⟩ w).rest.head? ≠ some '\x7b' :=
        closes.head?_ne (by decide)
      rw [boundaryKind_of_ne (ne _ e.closes)] at ran
      cases ran
      exact ⟨_, rfl, boundaryKind_of_ne (ne _ e.closes_new)⟩
    · by_cases isBrace : d = '\x7b'
      · subst isBrace
        obtain ⟨between, bumped⟩ := exists_bump (Scan.followedBy ⟨'\x7b' :: t, flags, names⟩ e.old)
        have ran' := ran
        rw [boundaryKind_of_eq rfl bumped] at ran'
        obtain ⟨c, here, ran'⟩ := Option.bind_eq_some_iff.mp ran'
        by_cases far : e.old.length + 1 ≤ between.rest.length
        · -- What follows the brace stands before the end, and is read in the same way.
          obtain ⟨⟨_ | ⟨c', t'⟩, flags', names'⟩, rfl, bumped'⟩ :=
            within_bump.cut _ _ _ short bumped (by omega) id
          · exact absurd far (by simp [Scan.followedBy])
          obtain rfl : c' = c := Option.some_inj.mp here
          rw [boundaryKind_of_eq rfl bumped']
          change ∃ mid : Scan, _ ∧ (if !c'.isAlpha && c' != '-' then _ else _) = _
          split at ran'
          · rename_i plain
            cases ran'
            exact ⟨_, rfl, if_pos plain⟩
          · rename_i isName
            rw [if_neg isName]
            exact (within_boundaryName unicode).cut _ a s₁ (Nat.lt_succ_self _) ran' left id
        · split at ran'
          · cases ran'
            refine absurd ⟨rfl, fun s' bumped' => ?_⟩ notStuck
            cases bumped.symm.trans bumped'
            omega
          · -- A name takes away more than is left before the end.
            have := (within_boundaryName (e := e) (N := 0) unicode).drops.length ran'
              (by have := e.nonempty; omega)
            omega
      · have ne (w : List Char) :
            (Scan.followedBy ⟨d :: t, flags, names⟩ w).rest.head? ≠ some '\x7b' :=
          fun eq => isBrace (Option.some_inj.mp eq)
        rw [boundaryKind_of_ne (ne _)] at ran
        cases ran
        exact ⟨_, rfl, boundaryKind_of_ne (ne _)⟩

/-- Whether an assertion was read, with a brace behind it that has nothing but the old end behind
it. -/
def StuckAt (e : Ending) (a : Atom) (s : Scan) : Prop :=
  (∃ assertion, a = .assertion assertion) ∧ e.Stuck s

theorem within_escape : e.WithinBut e.StuckAt N 0 2 escape escape := by
  refine .bind 1 (within_drop 1) fun _ => within_look_bind Nat.one_pos fun c => ?_
  refine .ite (fun _ => (within_hexEscape c).but) fun _ => ?_
  refine .ite (fun _ => (within_propertyEscape _).but.mono) fun _ => ?_
  refine .bind 0 (within_drop 1) fun _ => .ite (fun _ => ?_) fun _ => ?_
  · exact .bind 0 (within_letterSet c) fun _ => within_pure _
  · refine .ite (fun _ => within_pure _) fun _ => ?_
    cases controlLetters.lookup c with
    | some control => exact within_pure _
    | none =>
      refine .bind 0 (within_has _) fun unicode => ?_
      split
      · exact within_pure _
      · exact within_pure _
      · -- Only a word boundary looks further.
        refine (within_boundaryKind unicode).bindBut 0 (fun _ => within_pure _) ?_
        rintro a s b s' stuck ran -
        obtain ⟨rfl, rfl⟩ := run_pure_eq_some.mp ran
        exact ⟨⟨a, rfl⟩, stuck⟩
      · exact within_pure _
      · exact within_pure _
      · exact within_pure _
      · exact within_failure

/-! ## Repetitions and groups -/

/-- What is left of the bounds of a repetition after the opening brace. -/
def boundsInside : Reader (Nat × Option Nat) := do
  let least ← decimal
  let most ← do
    if (← look) == ',' then
      bump
      if (← look) == '\x7d' then pure none
      else do
        let most ← decimal
        pure (some most)
    else pure (some least)
  require ((← look) == '\x7d')
  bump
  require (most.all (least ≤ ·))
  pure (least, most)

theorem within_boundsInside : e.Within N 0 1 boundsInside boundsInside := by
  have last (least : Nat) (most : Option Nat) (N : Nat) : e.Within N 0 1
      (look >>= fun c => require (c == '\x7d') >>= fun _ => bump >>= fun _ =>
        require (most.all (least ≤ ·)) >>= fun _ => pure (least, most))
      (look >>= fun c => require (c == '\x7d') >>= fun _ => bump >>= fun _ =>
        require (most.all (least ≤ ·)) >>= fun _ => pure (least, most)) := by
    refine within_look_bind Nat.one_pos fun _ => .bind 1 (within_require _) fun _ => ?_
    exact .bind 0 within_bump fun _ => .bind 0 (within_require _) fun _ => within_pure _
  refine .bind 1 within_decimal fun least => within_look_bind Nat.one_pos fun _ => ?_
  refine .ite (fun _ => ?_) fun _ => ?_
  · refine .bind 1 within_bump fun _ => within_look_bind Nat.one_pos fun _ => ?_
    refine .ite (fun _ => ?_) fun _ => ?_
    · exact last least none _
    · exact .bind 1 within_decimal fun most => last least (some most) _
  · exact last least (some least) _

theorem within_bounds : e.Within N 0 2 bounds bounds :=
  .bind 1 within_bump fun _ => within_boundsInside

private theorem run_groupName_eq_some {s s' : Scan} :
    groupName.run s = some ((), s') ↔
      ∃ name, name = s.rest.takeWhile (· != '>') ∧
        (isName name && !s.names.contains name && name.length < s.rest.length) = true ∧
        s' = { s with rest := s.rest.drop (name.length + 1), names := name :: s.names } := by
  rw [groupName, StateT.run_bind, StateT.run_get]
  simp only [pure_bind, require, exists_eq_left]
  split
  · rename_i allowed
    rw [and_iff_right allowed]
    exact ⟨fun ran => by cases ran; rfl, fun eq => by rw [eq]; rfl⟩
  · rename_i refused
    exact ⟨nofun, fun h => absurd h.1 refused⟩

private theorem within_groupName : e.Within N 0 1 groupName groupName where
  drops := by
    intro s a s' ran
    obtain ⟨name, -, -, rfl⟩ := run_groupName_eq_some.mp ran
    exact ⟨name.length + 1, Nat.le_add_left 1 _, rfl⟩
  cut := by
    intro s a s₁ short ran left _
    obtain ⟨name, eq, allowed, rfl⟩ := run_groupName_eq_some.mp ran
    have nonempty := e.nonempty
    simp only [Scan.followedBy, List.length_drop, List.length_append] at left
    have le : name.length + 1 ≤ s.rest.length := by omega
    -- The bracket after the name stands before the end, so that the name is the same.
    have same (w : List Char) :
        (s.rest ++ w).takeWhile (· != '>') = s.rest.takeWhile (· != '>') := by
      have within : (s.rest.takeWhile (· != '>')).length ≠ s.rest.length := by
        intro all
        rw [Scan.followedBy, List.takeWhile_append, if_pos all] at eq
        rw [eq, List.length_append] at le
        omega
      rw [List.takeWhile_append, if_neg within]
    refine ⟨{ s with rest := s.rest.drop (name.length + 1), names := name :: s.names }, ?_, ?_⟩
    · simp only [Scan.followedBy, List.drop_append_of_le_length le]
    · refine run_groupName_eq_some.mpr ⟨name, ?_, ?_, ?_⟩
      · exact eq.trans ((same _).trans (same _).symm)
      · simp only [Bool.and_eq_true, decide_eq_true_eq] at allowed ⊢
        refine ⟨allowed.1, ?_⟩
        simp only [Scan.followedBy, List.length_append]
        omega
      · simp only [Scan.followedBy, List.drop_append_of_le_length le]

/-- The rest of the start of a group with changes of flags. -/
def groupFlags (letters : List Char) : Reader Bool := do
  let changes ← (flagChanges? true [] letters : Option (List (Flag × Bool)))
  drop letters.length
  let last ← look
  drop 1
  require (last == ':' || !letters.isEmpty)
  modify fun s => { s with flags := switch s.flags changes }
  pure (last == ':')

/-- The start of a group after its parenthesis, up to a name. -/
def groupHead (named : Bool) : Reader Bool := do
  if named then
    groupName
    pure true
  else if ← take "?" then
    let s ← get
    groupFlags (s.rest.takeWhile fun c => c != ':' && c != ')')
  else pure true

/-- The start of a group after its parenthesis, if it is allowed there. -/
def groupNamed (allowed : Bool) : Reader Bool := do
  require allowed
  if ← take "?P<" then groupHead true
  else do
    let named ← take "?<"
    groupHead named

private theorem groupStart_eq :
    groupStart = (do
      bump
      let s ← get
      groupNamed (["?=", "?!", "?<=", "?<!"].all fun word => !word.toList.isPrefixOf s.rest)) := by
  rfl

private theorem within_groupFlags (letters : List Char) :
    e.Within N 0 1 (groupFlags letters) (groupFlags letters) := by
  refine .bind 1 (within_lift _) fun changes => .bind 1 (within_drop _) fun _ => ?_
  refine within_look_bind Nat.one_pos fun _ => .bind 0 (within_drop 1) fun _ => ?_
  refine .bind 0 (within_require _) fun _ => ?_
  exact .bind 0 (within_modify_drop 0 fun flags => switch flags changes) fun _ => within_pure _

private theorem within_groupHead (named : Bool) :
    e.Within N 0 0 (groupHead named) (groupHead named) := by
  refine .ite (fun _ => ?_) fun _ => ?_
  · exact .bind 0 within_groupName fun _ => within_pure _
  · refine .bind 0 (within_take (by decide)) fun _ => .ite (fun _ => ?_) fun _ => within_pure _
    refine within_ask (fun s _ => ?_) fun letters => (within_groupFlags letters).mono
    exact (e.closes.takeWhile_append (by decide)).trans
      (e.closes_new.takeWhile_append (by decide)).symm

theorem within_groupStart : e.Within N 0 1 groupStart groupStart := by
  rw [groupStart_eq]
  refine .bind 0 within_bump fun _ => within_ask (fun s _ => ?_) fun allowed => ?_
  · have same (w : List Char) (closes : Closes w) :
        (["?=", "?!", "?<=", "?<!"].all fun word => !word.toList.isPrefixOf (s.rest ++ w)) =
          ["?=", "?!", "?<=", "?<!"].all fun word => !word.toList.isPrefixOf s.rest := by
      have plain : ∀ word ∈ ["?=", "?!", "?<=", "?<!"], ')' ∉ word.toList := by decide
      rw [Bool.eq_iff_iff, List.all_eq_true, List.all_eq_true]
      refine forall₂_congr fun word mem => ?_
      rw [closes.isPrefixOf_append (plain word mem)]
    exact (same _ e.closes).trans (same _ e.closes_new).symm
  · refine .bind 0 (within_require _) fun _ => .bind 0 (within_take (by decide)) fun _ => ?_
    refine .ite (fun _ => within_groupHead true) fun _ => ?_
    exact .bind 0 (within_take (by decide)) fun _ => within_groupHead _

end MessageExpr.Pattern.Ending
