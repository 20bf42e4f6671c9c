import MessageExpr.Proofs.Pattern.Classes

/-!
# Patterns before an end

A pattern, or the inside of a group, ends at the end of its text or at a closing parenthesis. So it
is read in the same way before either end.

## Main results

* `Ending.within_single`, `Ending.within_repetition` — single parts and what follows them
* `Ending.within_body` — a pattern or the inside of a group
-/

namespace MessageExpr.Pattern.Ending

open Reader

variable {e : Ending} {N : Nat}

/-! ## Single parts -/

private theorem within_literal (c : Char) : e.Within N 0 0 (literal c) (literal c) :=
  .bind 0 (within_fold _) fun _ => within_pure _

private theorem within_anyChar : e.Within N 0 0 anyChar anyChar := by
  refine .bind 0 (within_has _) fun _ => .bind 0 (within_require _) fun _ => ?_
  refine .bind 0 (within_has _) fun _ => .ite (fun _ => within_pure _) fun _ => ?_
  exact .bind 0 (within_has _) fun _ => .ite (fun _ => within_pure _) fun _ => within_pure _

private theorem within_startMark : e.Within N 0 0 startMark startMark := by
  refine .bind 0 (within_has _) fun _ => .ite (fun _ => ?_) fun _ => within_pure _
  exact .bind 0 (within_has _) fun _ => within_pure _

private theorem within_endMark : e.Within N 0 0 endMark endMark := by
  refine .bind 0 (within_has _) fun _ => .ite (fun _ => ?_) fun _ => within_pure _
  exact .bind 0 (within_has _) fun _ => within_pure _

/-- A single part is read in the same way, but a word boundary may look further. -/
theorem within_single : e.WithinBut (fun _ s => e.Stuck s) N 0 1 single single := by
  refine within_look_bind Nat.one_pos fun c => ?_
  split
  · refine within_escape.bindBut 0 (fun a => ?_) ?_
    · cases a with
      | literal c byte =>
        refine .bind 0 (within_has _) fun _ => .bind 0 (within_require _) fun _ => ?_
        exact .bind 0 (within_literal c) fun _ => within_pure _
      | set s => exact .bind 0 (within_pure (m := 0) _) fun _ => within_pure _
      | assertion a => exact .bind 0 (within_pure (m := 0) _) fun _ => within_pure _
    · rintro _ s b s' ⟨⟨a, rfl⟩, stuck⟩ ran -
      cases ran
      exact stuck
  · refine .bind 0 (within_drop 1) fun _ => .bind 0 within_anyChar fun _ => within_pure _
  · refine .bind 0 (within_drop 1) fun _ => .bind 0 within_startMark fun _ => ?_
    exact .bind 0 (within_pure (m := 0) _) fun _ => within_pure _
  · refine .bind 0 (within_drop 1) fun _ => .bind 0 within_endMark fun _ => ?_
    exact .bind 0 (within_pure (m := 0) _) fun _ => within_pure _
  · exact .bind 0 (within_drop 1) fun _ => .bind 0 (within_literal _) fun _ => within_pure _

/-! ## Repetitions -/

/-- A question mark after the bounds makes no difference. -/
def lazily (result : Nat × Option Nat) : Reader (Nat × Option Nat) := do
  if (← peek) == some '?' then drop 1
  pure result

private theorem within_lazily (result : Nat × Option Nat) :
    e.Within N 0 0 (lazily result) (lazily result) :=
  within_peek_ite (by decide) (.bind 0 (within_drop 1) fun _ => within_pure _) (within_pure _)

theorem within_repetition (mark : Char) :
    e.Within N 0 1 (repetition mark) (repetition mark) := by
  have simple (result : Nat × Option Nat) : e.Within N 0 1
      (drop 1 >>= fun _ => pure result >>= lazily) (drop 1 >>= fun _ => pure result >>= lazily) :=
    .bind 0 (within_drop 1) fun _ => .bind 0 (within_pure (m := 0) _) fun _ => within_lazily _
  unfold repetition
  split
  · exact simple _
  · exact simple _
  · exact simple _
  · exact .bind 0 within_bounds fun _ => within_lazily _

/-! ## Whole patterns -/

/-- A group after the flags before it, and the rest of the pattern around it. -/
def groupRest (n : Nat) (branches parts : List Part) (flags : List Flag) : Reader Part := do
  if ← groupStart then
    let inner ← body n [] []
    require ((← peek) == some ')')
    modify fun s => { s with rest := s.rest.drop 1, flags := flags }
    body n branches (⟨inner.pattern, inner.depth + 1, true⟩ :: parts)
  else body n branches (⟨.empty, 0, false⟩ :: parts)

/-- A brace is neither white space nor the start of a comment. -/
theorem run_skipSpace_brace (t : List Char) (flags : List Flag) (names : List (List Char)) :
    skipSpace.run ⟨'\x7b' :: t, flags, names⟩ = some ((), ⟨'\x7b' :: t, flags, names⟩) := by
  have stays : skipSpread false ('\x7b' :: t) = '\x7b' :: t := rfl
  change some ((), if flags.contains .spread then _ else _) = _
  rw [stays]
  split <;> rfl

/-- Where nothing but the end stands after a brace, a pattern that goes on does not stop before the
end: the bounds of a repetition end after the brace. -/
theorem length_of_run_body {n : Nat}
    (drops : ∀ m < n, ∀ branches parts, Drops 0 (body m branches parts))
    {branches parts : List Part} {s s' : Scan} {part : Part} (stuck : e.Stuck s)
    (ran : (body n branches parts).run s = some (part, s')) : s'.rest.length < e.old.length := by
  obtain ⟨isBrace, few⟩ := stuck
  obtain ⟨_ | ⟨c, t⟩, flags, names⟩ := s
  · cases isBrace
  cases isBrace
  cases n with
  | zero => cases ran
  | succ n =>
    rw [body] at ran
    obtain ⟨_, _, skipped, ran⟩ := run_bind_eq_some.mp ran
    cases (run_skipSpace_brace t flags names).symm.trans skipped
    obtain ⟨_, _, peeked, ran⟩ := run_bind_eq_some.mp ran
    cases peeked
    cases parts with
    | nil => cases ran
    | cons part parts =>
      obtain ⟨_, s₁, required, ran⟩ := run_bind_eq_some.mp ran
      obtain ⟨most, s₂, repeated, rest⟩ := run_bind_eq_some.mp ran
      obtain rfl := (run_require required).2
      obtain ⟨result, s₃, bounded, asked⟩ :
          ∃ result s₃,
            bounds.run _ = some (result, s₃) ∧ (lazily result).run s₃ = some (most, s₂) :=
        run_bind_eq_some.mp repeated
      obtain ⟨_, s₄, bumped, inside⟩ := run_bind_eq_some.mp bounded
      have nonempty := e.nonempty
      refine Nat.lt_of_not_le fun left => ?_
      have h₂ := (drops n (Nat.lt_succ_self n) _ _).length rest (by omega)
      have h₃ := (within_lazily (e := e) (N := 0) result).drops.length asked (by omega)
      have h₄ := (within_boundsInside (e := e) (N := 0)).drops.length inside (by omega)
      have h₁ := few s₄ bumped
      omega

/-- A pattern or the inside of a group is read in the same way before either end, with any bound
that is large enough before the new end. -/
theorem within_body (n n' : Nat) (branches parts : List Part) (enough : N ≤ n') :
    e.Within N 0 0 (body n branches parts) (body n' branches parts) := by
  induction n using Nat.strongRecOn generalizing N n' branches parts with
  | ind n ih =>
  cases n with
  | zero => exact within_failure
  | succ n =>
    have drops (m : Nat) (lt : m < n) (branches parts : List Part) :
        Drops 0 (body m branches parts) :=
      (ih m (Nat.lt_succ_of_lt lt) (N := 0) 0 branches parts (Nat.le_refl 0)).drops
    replace ih {N : Nat} := ih n (Nat.lt_succ_self n) (N := N)
    have step (n' : Nat) (enough : N - 1 ≤ n') :
        e.Within N 0 0 (body (n + 1) branches parts) (body (n' + 1) branches parts) := by
      have group (flags : List Flag) :
          e.Within N 0 0 (groupRest n branches parts flags)
            (groupRest n' branches parts flags) := by
        refine .bind 0 within_groupStart fun _ => .ite (fun _ => ?_) fun _ => ih n' _ _ (by omega)
        refine .bind 1 (ih n' [] [] (by omega)) fun inner => ?_
        refine within_peek_bind Nat.one_pos fun c => ?_
        refine .bind 1 (within_require _) fun _ => ?_
        exact .bind 0 (within_modify_drop 1 fun _ => flags) fun _ => ih n' _ _ (by omega)
      rw [body, body]
      refine .bind 0 within_skipSpace fun _ => within_peek_or rfl rfl ?_ fun c ne => ?_
      · dsimp only
        split
        · exact within_failure
        · exact within_pure _
      · split
        · rename_i eq
          cases eq
        · rename_i eq
          exact absurd (Option.some_inj.mp eq) ne
        · exact .bind 0 (within_drop 1) fun _ => ih n' _ _ (by omega)
        · exact within_ask (g := fun s => s.flags) (fun _ _ => rfl) group
        · exact .bind 0 within_bracket fun part => ih n' _ _ (by omega)
        · refine .ite (fun _ => ?_) fun _ => ?_
          · cases parts with
            | nil => exact within_failure
            | cons part parts =>
              refine .bind 0 (within_require _) fun _ => ?_
              refine .bind 0 (within_repetition _) fun bounds => ?_
              exact ih n' _ _ (by omega)
          · refine within_single.bindBut 0 (fun part => ih n' _ _ (by omega)) ?_
            intro part s b s' stuck ran left
            exact absurd left (Nat.not_le_of_lt (length_of_run_body drops stuck ran))
    -- Without steps before the new end there are no characters before it either.
    cases n' with
    | zero => exact (step 0 (by omega)).of_le enough
    | succ n' => exact step n' (by omega)

end MessageExpr.Pattern.Ending
