import MessageExpr.Pattern.Read

/-!
# Reading before an end

A reader that stops before the end of a text has not looked at that end, up to its first character.
So it reads the same when another end stands there. The ends that matter here begin with a closing
parenthesis, or are empty: neither of them goes on with a word, a number or a name that was begun
before it.

What a reader has looked at but left alone is accounted for by a distance: it is only said to read
the same if it stops so many characters before the end. A reader that drops characters in the end
makes up for the distance of those before it.

## Main definitions

* `Ending` — the end of a text, and another one to put in its place
* `AtMost` — bounds that follow from the form of the numbers
* `Reader.Drops` — a reader drops characters, and not fewer than a number
* `Ending.WithinBut`, `Ending.Within` — a reader reads the same before either end

## Main results

* `Ending.WithinBut.bind`, `Ending.WithinBut.bindBut` — one reader after another
* `Ending.within_drop`, `Ending.within_skipSpace`, `Ending.within_take`, `Ending.within_span` — the
  readers of single characters, white space, words and runs of characters
-/

namespace MessageExpr.Pattern

/-! ## Ends of texts -/

/-- Whether a text is empty or begins with a closing parenthesis. -/
def Closes (t : List Char) : Prop := ∀ c ∈ t.head?, c = ')'

/-- The end of a text, which begins with a closing parenthesis, and another end. -/
structure Ending where
  old : List Char
  new : List Char
  closes : Closes old
  closes_new : Closes new
  nonempty : 0 < old.length

/-- The state of a reader before more characters. -/
def Scan.followedBy (s : Scan) (t : List Char) : Scan := { s with rest := s.rest ++ t }

section

variable {t w : List Char}

theorem Closes.cases (closes : Closes w) : w = [] ∨ ∃ more, w = ')' :: more := by
  cases w with
  | nil => exact .inl rfl
  | cons c more =>
    obtain rfl := closes c rfl
    exact .inr ⟨more, rfl⟩

theorem Closes.head?_ne (closes : Closes w) {c : Char} (ne : c ≠ ')') : w.head? ≠ some c := by
  intro head
  exact ne (closes c head)

/-- A word without a closing parenthesis stands before such an end only if it ends there. -/
theorem Closes.isPrefixOf_append (closes : Closes w) {word : List Char} (notMem : ')' ∉ word) :
    word.isPrefixOf (t ++ w) = word.isPrefixOf t := by
  induction word generalizing t with
  | nil => simp
  | cons c word ih =>
    rw [List.mem_cons, not_or] at notMem
    obtain ⟨ne, notMem⟩ := notMem
    cases t with
    | nil =>
      rcases closes.cases with rfl | ⟨more, rfl⟩
      · rfl
      · simp [List.isPrefixOf, Ne.symm ne]
    | cons d t =>
      rw [List.cons_append, List.isPrefixOf, List.isPrefixOf, ih notMem]

theorem Closes.takeWhile_append (closes : Closes w) {p : Char → Bool} (stops : p ')' = false) :
    (t ++ w).takeWhile p = t.takeWhile p := by
  induction t with
  | nil =>
    rcases closes.cases with rfl | ⟨more, rfl⟩
    · rfl
    · simp [stops]
  | cons c t ih =>
    rw [List.cons_append, List.takeWhile_cons, List.takeWhile_cons, ih]

theorem Closes.dropWhile_append (closes : Closes w) {p : Char → Bool} (stops : p ')' = false) :
    (t ++ w).dropWhile p = t.dropWhile p ++ w := by
  induction t with
  | nil =>
    rcases closes.cases with rfl | ⟨more, rfl⟩
    · rfl
    · simp [stops]
  | cons c t ih =>
    rw [List.cons_append, List.dropWhile_cons, List.dropWhile_cons, ih]
    split <;> rfl

/-- White space and comments end before such an end, or a comment goes on into it. -/
theorem skipSpread_append (comment : Bool) (t : List Char) :
    (∃ rest, ∀ w, Closes w → skipSpread comment (t ++ w) = rest ++ w) ∨
      ∀ w, skipSpread comment (t ++ w) = skipSpread true w := by
  induction t generalizing comment with
  | nil =>
    cases comment with
    | false =>
      refine .inl ⟨[], fun w closes => ?_⟩
      rcases closes.cases with rfl | ⟨more, rfl⟩
      · rfl
      · rfl
    | true => exact .inr fun w => rfl
  | cons c t ih =>
    simp only [List.cons_append, skipSpread]
    cases comment with
    | true => exact ih (c != '\n')
    | false =>
      simp only [Bool.false_eq_true, if_false]
      split
      · exact ih false
      · split
        · exact ih true
        · exact .inl ⟨c :: t, fun w _ => rfl⟩

/-- Skipping white space and comments drops characters. -/
theorem exists_skipSpread_eq_drop (comment : Bool) (t : List Char) :
    ∃ n, skipSpread comment t = t.drop n := by
  fun_induction skipSpread comment t with
  | case1 => exact ⟨0, rfl⟩
  | case2 c rest ih =>
    obtain ⟨n, eq⟩ := ih
    exact ⟨n + 1, eq⟩
  | case3 comment c rest _ _ ih =>
    obtain ⟨n, eq⟩ := ih
    exact ⟨n + 1, eq⟩
  | case4 comment c rest _ _ _ ih =>
    obtain ⟨n, eq⟩ := ih
    exact ⟨n + 1, eq⟩
  | case5 => exact ⟨0, rfl⟩

end

/-! ## Readers -/

/-- A bound that follows from the form of the numbers. -/
class AtMost (m n : Nat) : Prop where
  le : m ≤ n

instance (n : Nat) : AtMost 0 n := ⟨Nat.zero_le n⟩

instance (n : Nat) : AtMost n n := ⟨Nat.le_refl n⟩

instance (m n : Nat) [h : AtMost m n] : AtMost (m + 1) (n + 1) := ⟨Nat.succ_le_succ h.le⟩

namespace Reader

variable {α β : Type} {r : Reader α} {f : α → Reader β} {s s' : Scan} {a : α} {b : β} {k l : Nat}

theorem run_bind_eq_some :
    (r >>= f).run s = some (b, s') ↔
      ∃ a between, r.run s = some (a, between) ∧ (f a).run between = some (b, s') := by
  rw [StateT.run_bind]
  change (r.run s).bind _ = _ ↔ _
  rw [Option.bind_eq_some_iff, Prod.exists]

theorem run_pure_eq_some {b : α} :
    (pure a : Reader α).run s = some (b, s') ↔ a = b ∧ s = s' := by
  change some (a, s) = some (b, s') ↔ _
  rw [Option.some_inj, Prod.mk.injEq]

theorem run_require {condition : Bool} {a : Unit} (ran : (require condition).run s = some (a, s')) :
    condition = true ∧ s' = s := by
  unfold require at ran
  split at ran
  · rename_i holds
    cases ran
    exact ⟨holds, rfl⟩
  · cases ran

/-- A reader drops at least `k` characters, if there are as many. -/
def Drops (k : Nat) (r : Reader α) : Prop :=
  ∀ s a s', r.run s = some (a, s') → ∃ n, k ≤ n ∧ s'.rest = s.rest.drop n

theorem Drops.bind (first : Drops k r) (next : ∀ a, Drops l (f a)) : Drops (k + l) (r >>= f) := by
  intro s b s' ran
  obtain ⟨a, between, ran, ran'⟩ := run_bind_eq_some.mp ran
  obtain ⟨m, le, eq⟩ := first s a between ran
  obtain ⟨n, le', eq'⟩ := next a between b s' ran'
  exact ⟨m + n, Nat.add_le_add le le', by rw [eq', eq, List.drop_drop]⟩

theorem Drops.mono (h : Drops k r) (le : l ≤ k) : Drops l r := by
  intro s a s' ran
  obtain ⟨n, le', eq⟩ := h s a s' ran
  exact ⟨n, Nat.le_trans le le', eq⟩

/-- A reader that leaves characters has dropped the others. -/
theorem Drops.length (h : Drops k r) (ran : r.run s = some (a, s')) (left : 0 < s'.rest.length) :
    s'.rest.length + k ≤ s.rest.length := by
  obtain ⟨n, le, eq⟩ := h s a s' ran
  rw [eq, List.length_drop] at left ⊢
  omega

end Reader

open Reader

/-- Both readers read the same before the old and the new end, where there are fewer than `N`
characters before them and the first one stops at least `m` characters before the old end. What is
left may be an exception, depending on the answer. The first reader drops at least `k`
characters. -/
structure Ending.WithinBut {α : Type} (e : Ending) (exception : α → Scan → Prop) (N m k : Nat)
    (r r' : Reader α) : Prop where
  drops : Drops k r
  cut : ∀ (s : Scan) (a : α) (s₁ : Scan), s.rest.length < N →
    r.run (s.followedBy e.old) = some (a, s₁) → e.old.length + m ≤ s₁.rest.length →
    ¬ exception a s₁ →
    ∃ mid : Scan, s₁ = mid.followedBy e.old ∧
      r'.run (s.followedBy e.new) = some (a, mid.followedBy e.new)

/-- The same without exceptions. -/
abbrev Ending.Within {α : Type} (e : Ending) (N m k : Nat) (r r' : Reader α) : Prop :=
  e.WithinBut (fun _ _ => False) N m k r r'

namespace Ending

variable {α β : Type} {e : Ending} {exception : α → Scan → Prop} {exception' : β → Scan → Prop}
  {N m m' k k' : Nat} {r r' : Reader α} {f f' : α → Reader β}

namespace WithinBut

/-- One reader after another. The second one drops at least `l` characters. It does not succeed
after what is an exception for the first one. -/
theorem bindBut (l : Nat) (first : e.WithinBut exception N m k r r')
    (next : ∀ a, e.WithinBut exception' (N - k) m' l (f a) (f' a))
    (excluded : ∀ a s b s', exception a s → (f a).run s = some (b, s') →
      e.old.length + m' ≤ s'.rest.length → exception' b s')
    [near : AtMost m (m' + l)] [enough : AtMost k' (k + l)] :
    e.WithinBut exception' N m' k' (r >>= f) (r' >>= f') where
  drops := (first.drops.bind fun a => (next a).drops).mono enough.le
  cut := by
    intro s b s₂ short ran left notExcept
    obtain ⟨a, s₁, ran, ran'⟩ := run_bind_eq_some.mp ran
    have nonempty := e.nonempty
    -- What the second reader drops stands between the place where the first one stops and the end.
    have left₁ : e.old.length + m ≤ s₁.rest.length := by
      have near := near.le
      have := (next a).drops.length ran' (by omega)
      omega
    obtain ⟨mid, rfl, found⟩ := first.cut s a s₁ short ran left₁ fun except =>
      notExcept (excluded a _ b s₂ except ran' left)
    have short' : mid.rest.length < N - k := by
      have := first.drops.length ran (by omega)
      simp only [Scan.followedBy, List.length_append] at this
      omega
    obtain ⟨last, rfl, found'⟩ := (next a).cut mid b s₂ short' ran' left notExcept
    exact ⟨last, rfl, run_bind_eq_some.mpr ⟨a, _, found, found'⟩⟩

/-- One reader after another. The second one drops at least `l` characters, and so it makes up for
the distance at which the first one has to stop. -/
theorem bind (l : Nat) (first : e.Within N m k r r')
    (next : ∀ a, e.WithinBut exception' (N - k) m' l (f a) (f' a))
    [near : AtMost m (m' + l)] [enough : AtMost k' (k + l)] :
    e.WithinBut exception' N m' k' (r >>= f) (r' >>= f') :=
  first.bindBut l next (fun _ _ _ _ except => except.elim)

/-- What is read the same without exceptions is so with exceptions. -/
theorem but (h : e.Within N m k r r') : e.WithinBut exception N m k r r' where
  drops := h.drops
  cut := fun s a s₁ short ran left _ => h.cut s a s₁ short ran left id

theorem mono (h : e.WithinBut exception N m k r r') [near : AtMost m m'] [enough : AtMost k' k] :
    e.WithinBut exception N m' k' r r' where
  drops := h.drops.mono enough.le
  cut := fun s a s₁ short ran left notExcept =>
    h.cut s a s₁ short ran (Nat.le_trans (Nat.add_le_add_left near.le _) left) notExcept

/-- With a bound of few characters, what the second reader does never matters. -/
theorem of_le (h : e.WithinBut exception N m k r r') (few : N ≤ m) {r'' : Reader α} :
    e.WithinBut exception N m k r r'' where
  drops := h.drops
  cut := by
    -- Nothing that is so short leaves so much before the end.
    intro s a s₁ short ran left _
    have nonempty := e.nonempty
    have := h.drops.length ran (by omega)
    simp only [Scan.followedBy, List.length_append] at this
    omega

theorem ite {c : Prop} [Decidable c] {q q' : Reader α}
    (yes : c → e.WithinBut exception N m k r r') (no : ¬ c → e.WithinBut exception N m k q q') :
    e.WithinBut exception N m k (if c then r else q) (if c then r' else q') := by
  split
  · rename_i h
    exact yes h
  · rename_i h
    exact no h

end WithinBut

/-! ## Readers that stay where they are -/

theorem within_pure (a : α) : e.WithinBut exception N m 0 (pure a) (pure a) where
  drops := by
    intro s b s' ran
    obtain ⟨-, rfl⟩ := run_pure_eq_some.mp ran
    exact ⟨0, Nat.le_refl 0, rfl⟩
  cut := by
    intro s b s₁ _ ran _ _
    obtain ⟨rfl, rfl⟩ := run_pure_eq_some.mp ran
    exact ⟨s, rfl, rfl⟩

theorem within_failure : e.WithinBut exception N m k (failure : Reader α) r' where
  drops := nofun
  cut := nofun

theorem within_lift (o : Option α) : e.Within N 0 0 (liftM o : Reader α) (liftM o) := by
  cases o with
  | none => exact within_failure
  | some a => exact within_pure a

theorem within_require (condition : Bool) :
    e.Within N 0 0 (require condition) (require condition) :=
  .ite (fun _ => within_pure ()) fun _ => within_failure

/-- What is asked about the state has the same answer before either end. -/
theorem within_ask {g : Scan → α}
    (same : ∀ s : Scan, m + k ≤ s.rest.length → g (s.followedBy e.old) = g (s.followedBy e.new))
    (next : ∀ a, e.WithinBut exception' N m k (f a) (f' a)) :
    e.WithinBut exception' N m k (get >>= fun s => f (g s)) (get >>= fun s => f' (g s)) where
  drops := fun s b s' ran => (next (g s)).drops s b s' ran
  cut := by
    intro s b s₁ short ran left notExcept
    have nonempty := e.nonempty
    have long : m + k ≤ s.rest.length := by
      have := (next _).drops.length ran (by omega)
      simp only [Scan.followedBy, List.length_append] at this
      omega
    obtain ⟨mid, eq, found⟩ := (next _).cut s b s₁ short ran left notExcept
    refine ⟨mid, eq, ?_⟩
    rw [same s long] at found
    exact found

/-- A choice between two readers by what is asked about the state. -/
theorem within_ask_ite {c : Scan → Bool} {q q' : Reader α}
    (same : ∀ s : Scan, m + k ≤ s.rest.length → c (s.followedBy e.old) = c (s.followedBy e.new))
    (yes : e.WithinBut exception N m k r r') (no : e.WithinBut exception N m k q q') :
    e.WithinBut exception N m k (get >>= fun s => if c s then r else q)
      (get >>= fun s => if c s then r' else q') := by
  have next (answer : Bool) : e.WithinBut exception N m k (if answer then r else q)
      (if answer then r' else q') := .ite (fun _ => yes) fun _ => no
  have asked := within_ask (g := c) same next
  exact asked

theorem within_has (flag : Flag) : e.Within N 0 0 (has flag) (has flag) :=
  within_ask (g := fun s => s.flags.contains flag) (fun _ _ => rfl) fun a => within_pure a

/-- Looking at the next character, where more than nothing is left before the end. -/
theorem within_peek_bind {f f' : Option Char → Reader β} (far : 0 < m + k)
    (next : ∀ c, e.WithinBut exception' N m k (f c) (f' c)) :
    e.WithinBut exception' N m k (peek >>= f) (peek >>= f') := by
  simp only [peek, bind_assoc, pure_bind]
  refine within_ask (g := fun s => s.rest.head?) (fun s long => ?_) next
  -- The next character stands before the end.
  obtain ⟨_ | ⟨c, t⟩, flags, names⟩ := s
  · exact absurd long (Nat.not_le_of_lt far)
  · rfl

theorem within_look_bind {f f' : Char → Reader β} (far : 0 < m + k)
    (next : ∀ c, e.WithinBut exception' N m k (f c) (f' c)) :
    e.WithinBut exception' N m k (look >>= f) (look >>= f') := by
  simp only [look, bind_assoc]
  refine within_peek_bind far fun c => ?_
  cases c with
  | none => exact within_failure
  | some c => exact next c

/-- Looking at the next character, where the end of a text is treated like a closing
parenthesis. -/
theorem within_peek_or {f f' : Option Char → Reader β} (same : f (some ')') = f none)
    (same' : f' (some ')') = f' none) (stop : e.WithinBut exception' N m k (f none) (f' none))
    (next : ∀ c ≠ ')', e.WithinBut exception' N m k (f (some c)) (f' (some c))) :
    e.WithinBut exception' N m k (peek >>= f) (peek >>= f') where
  drops := by
    intro s b s' ran
    have step (c : Option Char) : Drops k (f c) := by
      cases c with
      | none => exact stop.drops
      | some c =>
        by_cases closing : c = ')'
        · rw [closing, same]
          exact stop.drops
        · exact (next c closing).drops
    exact step s.rest.head? s b s' ran
  cut := by
    intro s b s₁ short ran left notExcept
    have atEnd {g : Option Char → Reader β} (same : g (some ')') = g none) (w : List Char)
        (closes : Closes w) : g w.head? = g none := by
      rcases closes.cases with rfl | ⟨more, rfl⟩
      · rfl
      · exact same
    obtain ⟨_ | ⟨c, t⟩, flags, names⟩ := s
    · -- Both ends are treated alike.
      change (f e.old.head?).run _ = _ at ran
      change ∃ mid : Scan, _ ∧ (f' e.new.head?).run _ = _
      rw [atEnd same _ e.closes] at ran
      rw [atEnd same' _ e.closes_new]
      exact stop.cut _ b s₁ short ran left notExcept
    · by_cases closing : c = ')'
      · subst closing
        change (f (some ')')).run _ = _ at ran
        change ∃ mid : Scan, _ ∧ (f' (some ')')).run _ = _
        rw [same] at ran
        rw [same']
        exact stop.cut _ b s₁ short ran left notExcept
      · exact (next c closing).cut _ b s₁ short ran left notExcept

/-- What comes next matters only if it is a certain character other than a closing parenthesis. -/
theorem within_peek_ite {c : Char} (ne : c ≠ ')') {p p' q q' : Reader β}
    (yes : e.WithinBut exception' N m k p p') (no : e.WithinBut exception' N m k q q') :
    e.WithinBut exception' N m k (peek >>= fun next => if next == some c then p else q)
      (peek >>= fun next => if next == some c then p' else q') := by
  have differs : ¬ (some ')' == some c) = true := by simpa using ne.symm
  exact within_peek_or (if_neg differs) (if_neg differs) no fun d _ =>
    .ite (fun _ => yes) fun _ => no

/-! ## Readers that drop characters -/

theorem within_modify {g : Scan → Scan} (drops : ∀ s, ∃ n, k ≤ n ∧ (g s).rest = s.rest.drop n)
    (cut : ∀ s : Scan, e.old.length + m ≤ (g (s.followedBy e.old)).rest.length →
      ∃ mid : Scan, g (s.followedBy e.old) = mid.followedBy e.old ∧
        g (s.followedBy e.new) = mid.followedBy e.new) :
    e.Within N m k (modify g) (modify g) where
  drops := by
    rintro s a s' ran
    cases ran
    exact drops s
  cut := by
    rintro s a s₁ _ ran left _
    cases ran
    obtain ⟨mid, eq, eq'⟩ := cut s left
    exact ⟨mid, eq, congrArg (fun s => some ((), s)) eq'⟩

/-- Dropping characters, and perhaps changing the flags, before the end. -/
theorem within_modify_drop (n : Nat) (g : List Flag → List Flag) :
    e.Within N 0 n (modify fun s => { s with rest := s.rest.drop n, flags := g s.flags })
      (modify fun s => { s with rest := s.rest.drop n, flags := g s.flags }) := by
  refine within_modify (fun s => ⟨n, Nat.le_refl n, rfl⟩) fun s left => ?_
  have nonempty := e.nonempty
  simp only [Scan.followedBy, List.length_drop, List.length_append] at left
  have le : n ≤ s.rest.length := by omega
  refine ⟨{ s with rest := s.rest.drop n, flags := g s.flags }, ?_, ?_⟩
  · simp only [Scan.followedBy, List.drop_append_of_le_length le]
  · simp only [Scan.followedBy, List.drop_append_of_le_length le]

theorem within_drop (n : Nat) : e.Within N 0 n (drop n) (drop n) :=
  within_modify_drop n id

theorem within_dropWhile {p : Char → Bool} (stops : p ')' = false) :
    e.Within N 0 0 (modify fun s => { s with rest := s.rest.dropWhile p })
      (modify fun s => { s with rest := s.rest.dropWhile p }) := by
  refine within_modify (fun s => ?_) fun s _ => ?_
  · refine ⟨s.rest.length - (s.rest.dropWhile p).length, Nat.zero_le _, ?_⟩
    exact List.suffix_iff_eq_drop.mp (List.dropWhile_suffix p)
  · refine ⟨{ s with rest := s.rest.dropWhile p }, ?_, ?_⟩
    · simp only [Scan.followedBy, e.closes.dropWhile_append stops]
    · simp only [Scan.followedBy, e.closes_new.dropWhile_append stops]

/-- A comment that goes on into the old end takes at least its first character away. -/
theorem length_skipSpread_lt (e : Ending) : (skipSpread true e.old).length < e.old.length := by
  rcases e.closes.cases with isNil | ⟨more, eq⟩
  · exact absurd e.nonempty (by rw [isNil]; decide)
  · obtain ⟨n, eq'⟩ := exists_skipSpread_eq_drop true more
    have skipped : skipSpread true (')' :: more) = skipSpread true more := rfl
    rw [eq, skipped, eq', List.length_drop, List.length_cons]
    omega

theorem within_skipSpace : e.Within N 0 0 skipSpace skipSpace := by
  refine within_modify (fun s => ?_) fun s left => ?_
  · split
    · obtain ⟨n, eq⟩ := exists_skipSpread_eq_drop false s.rest
      exact ⟨n, Nat.zero_le n, eq⟩
    · exact ⟨0, Nat.le_refl 0, rfl⟩
  · cases spread : s.flags.contains .spread with
    | false => exact ⟨s, by simp only [Scan.followedBy, spread]; rfl,
        by simp only [Scan.followedBy, spread]; rfl⟩
    | true =>
      simp only [Scan.followedBy, spread, if_true] at left ⊢
      rcases skipSpread_append false s.rest with ⟨rest, eq⟩ | eq
      · exact ⟨{ s with rest := rest }, by rw [eq _ e.closes], by rw [eq _ e.closes_new]⟩
      · rw [eq] at left
        exact absurd left (Nat.not_le_of_lt e.length_skipSpread_lt)

theorem within_bump : e.Within N 0 1 bump bump :=
  (within_drop 1).bind 0 fun _ => within_skipSpace

private theorem run_take (word : String) (s : Scan) :
    (take word).run s =
      if word.toList.isPrefixOf s.rest then
        some (true, { s with rest := s.rest.drop word.toList.length })
      else some (false, s) := by
  rw [take, StateT.run_bind]
  simp only [StateT.run_get, pure_bind, Text.after?]
  by_cases starts : word.toList.isPrefixOf s.rest = true
  · rw [if_pos starts, if_pos starts]
    rfl
  · rw [if_neg starts, if_neg starts]
    rfl

/-- Dropping a word that has no closing parenthesis, if it stands here. -/
theorem within_take {word : String} (notMem : ')' ∉ word.toList) :
    e.Within N 0 0 (take word) (take word) where
  drops := by
    intro s a s' ran
    rw [run_take] at ran
    split at ran
    · cases ran
      exact ⟨_, Nat.zero_le _, rfl⟩
    · cases ran
      exact ⟨0, Nat.le_refl 0, rfl⟩
  cut := by
    intro s a s₁ short ran left _
    have same :
        word.toList.isPrefixOf (s.rest ++ e.old) = word.toList.isPrefixOf (s.rest ++ e.new) :=
      (e.closes.isPrefixOf_append notMem).trans (e.closes_new.isPrefixOf_append notMem).symm
    rw [run_take] at ran ⊢
    change (if word.toList.isPrefixOf (s.rest ++ e.old) then _ else _) = _ at ran
    change ∃ mid : Scan, _ ∧ (if word.toList.isPrefixOf (s.rest ++ e.new) then _ else _) = _
    rw [← same]
    by_cases starts : word.toList.isPrefixOf (s.rest ++ e.old) = true
    · rw [if_pos starts] at ran ⊢
      cases ran
      -- What is left shows that the word ends before the old end.
      obtain ⟨mid, eq, dropped⟩ := (within_drop word.toList.length).cut s () _ short rfl left id
      exact ⟨mid, eq, congrArg (fun o => o.map fun r => (true, r.2)) dropped⟩
    · rw [if_neg starts] at ran ⊢
      cases ran
      exact ⟨s, rfl, rfl⟩

/-! ## Readers of runs of characters -/

/-- A number of characters left as a bound on the number of steps. -/
theorem within_length {F : Nat → Reader α}
    (each : ∀ N n n', (0 < N → N + e.old.length ≤ n + 1) → N ≤ n' + 1 →
      e.Within N m k (F n) (F n')) :
    e.Within N m k (get >>= fun s => F s.rest.length) (get >>= fun s => F s.rest.length) where
  drops := fun s a s' ran => (each 0 s.rest.length 0 nofun (Nat.zero_le 1)).drops s a s' ran
  cut := by
    intro s a s₁ _ ran left notExcept
    refine (each (s.rest.length + 1) (s.followedBy e.old).rest.length
      (s.followedBy e.new).rest.length (fun _ => ?_) ?_).cut s a s₁ (Nat.lt_succ_self _) ran left
      notExcept
    · simp only [Scan.followedBy, List.length_append]
      omega
    · simp only [Scan.followedBy, List.length_append]
      omega

/-- The bound on the number of steps does not matter if it is not reached. -/
theorem within_upTo {F : Nat → Reader α} {a : α} (zero : F 0 = pure a)
    (next : ∀ N n n', e.Within (N - 1) 1 0 (F n) (F n') → e.Within N 1 0 (F (n + 1)) (F (n' + 1)))
    (N n n' : Nat) (enough : 0 < N → N + e.old.length ≤ n + 1) (enough' : N ≤ n' + 1) :
    e.Within N 1 0 (F n) (F n') := by
  induction n generalizing N n' with
  | zero =>
    -- The old bound counts the end as well, so that it is only reached without any characters.
    have nonempty := e.nonempty
    obtain rfl : N = 0 := by omega
    rw [zero]
    exact (within_pure a).of_le (Nat.zero_le 1)
  | succ n ih =>
    have step (n' : Nat) (enough' : N - 1 ≤ n' + 1) : e.Within N 1 0 (F (n + 1)) (F (n' + 1)) :=
      next N n n' (ih (N - 1) n' (by omega) enough')
    cases n' with
    | zero => exact (step 0 (by omega)).of_le enough'
    | succ n' => exact step n' (by omega)

theorem within_span (p : Char → Bool) : e.Within N 1 0 (span p) (span p) := by
  refine within_length (within_upTo rfl fun N n n' more => ?_)
  rw [spanUpTo, spanUpTo]
  refine within_peek_bind Nat.one_pos fun c => ?_
  cases c with
  | none => exact within_pure []
  | some c =>
    refine .ite (fun _ => ?_) fun _ => within_pure []
    exact .bind 0 within_bump fun _ => .bind 0 more fun _ => within_pure _

end Ending

end MessageExpr.Pattern
