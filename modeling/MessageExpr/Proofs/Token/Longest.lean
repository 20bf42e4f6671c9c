import MessageExpr.Proofs.Token.Word

/-!
# The longest spelling

The spellings are tried in the order of a list, and some of them start others. In the list no
spelling stands before a longer one that it starts, so the first one that stands at a place is the
longest one there, also when only some kinds of tokens may be recognised: leaving out spellings does
not change the order of the others. What is left out can only turn into single characters.

## Main definitions

* `Spelling.StandsAt` — a spelling stands at a place of a text, as a whole word if it is one
* `Spelling.token` — the token of a spelling

## Main results

* `spellings_pairwise` — no spelling stands before a longer one that it starts
* `Token.readAt_longest` — what is read at a place, whatever kinds may be recognised
-/

namespace MessageExpr

/-! ## Where a spelling stands -/

/-- The spelling stands at an index of a text. A minus sign has to stand directly before a digit,
and a spelling that starts or ends with a letter must not go on in a word there. -/
structure Spelling.StandsAt (s : Spelling) (t : List Char) (index : Nat) : Prop where
  here : s.text <+: t.drop index
  digit : s.kind = .minus → ∃ c ∈ t[index + s.text.length]?, c.isDigit = true
  starts : s.kind ≠ .minus → (∃ c ∈ s.text.head?, c.isAlpha = true) →
    ∀ i, index = i + 1 → ∀ c ∈ t[i]?, isWordPart c = false
  stops : s.kind ≠ .minus → (∃ c ∈ s.text.getLast?, c.isAlpha = true) →
    ∀ c ∈ t[index + s.text.length]?, isWordPart c = false

/-- The token of a spelling at an index. -/
def Spelling.token (s : Spelling) (index : Nat) : Token :=
  ⟨s.kind, String.ofList s.text, index, s.text.length⟩

/-- The character before an index of a text. -/
def before? (t : List Char) (index : Nat) : Option Char :=
  if index = 0 then none else t[index - 1]?

variable {t : List Char} {index : Nat} {s : Spelling} {filter : List TokenKind}

theorem before?_eq_some_iff {c : Char} :
    before? t index = some c ↔ ∃ i, index = i + 1 ∧ t[i]? = some c := by
  cases index with
  | zero => simp [before?]
  | succ i => simp [before?]

/-- Where a spelling stands, it is found. -/
theorem standsAt_iff :
    s.StandsAt t index ↔ s.startsAt (before? t index) (t.drop index) = true := by
  have next : ((t.drop index).drop s.text.length).head? = t[index + s.text.length]? := by
    rw [List.drop_drop, List.head?_drop]
  rw [Spelling.startsAt, Spelling.fits, next, Bool.and_eq_true, List.isPrefixOf_iff_prefix]
  by_cases minus : s.kind = .minus
  · rw [if_pos minus, Option.any_eq_true]
    constructor
    · intro stands
      exact ⟨stands.here, stands.digit minus⟩
    · rintro ⟨here, digit⟩
      exact ⟨here, fun _ => digit, fun other => absurd minus other,
        fun other => absurd minus other⟩
  · rw [if_neg minus]
    simp only [Bool.and_eq_true, Bool.not_eq_true', Bool.and_eq_false_imp, Option.any_eq_true,
      Option.any_eq_false]
    constructor
    · intro stands
      refine ⟨stands.here, fun word c found => ?_, fun word c found => ?_⟩
      · obtain ⟨i, rfl, found⟩ := before?_eq_some_iff.mp found
        simpa using stands.starts minus word i rfl c found
      · simpa using stands.stops minus word c found
    · rintro ⟨here, starts, stops⟩
      refine ⟨here, fun isMinus => absurd isMinus minus, fun _ word i same c found => ?_,
        fun _ word c found => ?_⟩
      · simpa using starts word c (before?_eq_some_iff.mpr ⟨i, same, found⟩)
      · simpa using stops word c found

/-! ## The order of the spellings -/

private theorem kind_ne_character_of_mem_spellings : ∀ s ∈ spellings, s.kind ≠ .character := by
  decide

/-- No spelling stands before a longer one that it starts. -/
theorem spellings_pairwise : spellings.Pairwise fun s later =>
    s.text <+: later.text → later.text.length ≤ s.text.length := by
  decide +kernel

/-- A spelling is found that is allowed and stands at the place. -/
theorem standsAt_of_spelling? (found : spelling? filter (before? t index) (t.drop index) = some s) :
    s ∈ spellings ∧ allows filter s.kind = true ∧ s.StandsAt t index := by
  have passed := List.find?_some found
  rw [Bool.and_eq_true, ← standsAt_iff] at passed
  exact ⟨List.mem_of_find?_eq_some found, passed⟩

/-- No spelling is found only where no allowed one stands. -/
theorem not_standsAt_of_spelling?
    (notFound : spelling? filter (before? t index) (t.drop index) = none) :
    ∀ s ∈ spellings, allows filter s.kind = true → ¬s.StandsAt t index := by
  intro s mem allowed stands
  have failed := List.find?_eq_none.mp notFound s mem
  rw [allowed, Bool.true_and, ← standsAt_iff] at failed
  exact failed stands

/-- The first allowed spelling that stands at a place is a longest one there. -/
theorem longest_of_spelling? (found : spelling? filter (before? t index) (t.drop index) = some s) :
    ∀ other ∈ spellings, allows filter other.kind = true → other.StandsAt t index →
      other.text.length ≤ s.text.length := by
  intro other mem allowed stands
  have here := (standsAt_of_spelling? found).2.2.here
  obtain ⟨-, tried, later, split, failed⟩ := List.find?_eq_some_iff_append.mp found
  have ordered := spellings_pairwise
  rw [split] at mem ordered
  rcases List.mem_append.mp mem with earlier | rest
  · have passed : (allows filter other.kind && other.startsAt (before? t index) (t.drop index)) =
        true := by
      rw [allowed, standsAt_iff.mp stands, Bool.true_and]
    have refused := failed other earlier
    rw [passed] at refused
    cases refused
  rcases List.mem_cons.mp rest with rfl | after
  · exact Nat.le_refl _
  · -- Both start what is left of the text, so one of them starts the other.
    rcases List.prefix_or_prefix_of_prefix here stands.here with starts | started
    · have pairs := (List.pairwise_append.mp ordered).2.1
      exact (List.pairwise_cons.mp pairs).1 other after starts
    · exact started.length_le

/-! ## Numbers and escape sequences -/

private theorem plain_of_head?_spellings : ∀ s ∈ spellings,
    (s.text.head?.all fun c => !c.isDigit && c != '\\') = true := by
  decide

/-- Where a spelling stands, neither a number nor an escape sequence does. -/
theorem Spelling.StandsAt.number?_escape? (stands : s.StandsAt t index) (mem : s ∈ spellings) :
    number? (t.drop index) = none ∧ escape? (t.drop index) = none := by
  obtain ⟨c, rest, same⟩ := List.exists_cons_of_length_pos
    (Token.length_pos_of_mem_spellings s mem).1
  have first : c.isDigit = false ∧ c ≠ '\\' := by
    simpa [same] using plain_of_head?_spellings s mem
  obtain ⟨more, split⟩ := stands.here
  rw [← split, same, List.cons_append]
  constructor
  · exact number?_eq_none first.1 _
  · exact escape?_eq_none first.2 _

/-! ## Tokens -/

namespace Token

/-- What is read inside a text: a number, an escape sequence, a spelling or a character. -/
theorem readAt_eq (escapes : Bool) (filter : List TokenKind) (inside : index < t.length) :
    readAt escapes filter t index =
      match if allows filter .numericValue then number? (t.drop index) else none with
      | some digits => ⟨.numericValue, String.ofList digits, index, digits.length⟩
      | none =>
        match if escapes then escape? (t.drop index) else none with
        | some e => ⟨.character, String.ofList [e], index, 2⟩
        | none =>
          match spelling? filter (before? t index) (t.drop index) with
          | some s => s.token index
          | none => ⟨.character, String.ofList [t[index]], index, 1⟩ := by
  rw [readAt, List.drop_eq_getElem_cons inside, read]
  rfl

/-- What is read is a character or a number, of an allowed kind, where no allowed spelling stands,
or it is the longest allowed spelling that stands there. -/
theorem spelling_of_readAt (escapes : Bool) (filter : List TokenKind) (inside : index < t.length) :
    ((readAt escapes filter t index).kind = .character ∨
        (readAt escapes filter t index).kind = .numericValue ∧
          allows filter .numericValue = true) ∧
        (∀ s ∈ spellings, allows filter s.kind = true → ¬s.StandsAt t index) ∨
      ∃ s ∈ spellings, readAt escapes filter t index = s.token index ∧
        allows filter s.kind = true ∧ s.StandsAt t index ∧
        ∀ other ∈ spellings, allows filter other.kind = true → other.StandsAt t index →
          other.text.length ≤ s.text.length := by
  rw [readAt_eq escapes filter inside]
  split
  case h_1 digits number =>
    split at number
    case isTrue allowed =>
      refine .inl ⟨.inr ⟨rfl, allowed⟩, fun s mem _ stands => ?_⟩
      rw [(stands.number?_escape? mem).1] at number
      cases number
    case isFalse => cases number
  case h_2 =>
    split
    case h_1 e escape =>
      split at escape
      case isTrue =>
        refine .inl ⟨.inl rfl, fun s mem _ stands => ?_⟩
        rw [(stands.number?_escape? mem).2] at escape
        cases escape
      case isFalse => cases escape
    case h_2 =>
      split
      case h_1 s found =>
        obtain ⟨mem, allowed, stands⟩ := standsAt_of_spelling? found
        exact .inr ⟨s, mem, rfl, allowed, stands, longest_of_spelling? found⟩
      case h_2 notFound => exact .inl ⟨.inl rfl, not_standsAt_of_spelling? notFound⟩

/-- A filter that allows what is found without it finds the same. -/
theorem spelling?_of_allows {before : Option Char} {t : List Char} {found : Option Spelling}
    (unfiltered : spelling? [] before t = found)
    (allowed : ∀ s, found = some s → allows filter s.kind = true) :
    spelling? filter before t = found := by
  have imp : ∀ s ∈ spellings, (allows filter s.kind && s.startsAt before t) = true →
      (allows [] s.kind && s.startsAt before t) = true := by
    intro s _ passed
    rw [allows_nil, Bool.true_and]
    exact (Bool.and_eq_true_iff.mp passed).2
  cases found with
  | none =>
    refine List.find?_eq_none.mpr fun s mem passed => ?_
    exact List.find?_eq_none.mp unfiltered s mem (imp s mem passed)
  | some s =>
    -- What stands before it in the list is found by neither.
    have passed := List.find?_some unfiltered
    rw [allows_nil, Bool.true_and] at passed
    refine find?_of_imp imp unfiltered ?_
    rw [allowed s rfl, passed, Bool.true_and]

/-- A filter that allows the kind that is read without it reads the same token. -/
theorem readAt_of_allows (escapes : Bool) (inside : index < t.length)
    (allowed : (readAt escapes [] t index).kind = .character ∨
      allows filter (readAt escapes [] t index).kind = true) :
    readAt escapes filter t index = readAt escapes [] t index := by
  rw [readAt_eq escapes [] inside, allows_nil, if_pos rfl] at allowed ⊢
  rw [readAt_eq escapes filter inside]
  cases number : number? (t.drop index) with
  | some digits =>
    simp only [number, reduceCtorEq, false_or] at allowed
    rw [if_pos allowed]
  | none =>
    simp only [number, ite_self] at allowed ⊢
    cases escape : if escapes then escape? (t.drop index) else none with
    | some e => rfl
    | none =>
      simp only [escape] at allowed ⊢
      rw [spelling?_of_allows rfl fun s found => ?_]
      simp only [found] at allowed
      rcases allowed with character | allowed
      · have mem := mem_spellings_of_spelling? found
        exact absurd character (kind_ne_character_of_mem_spellings s mem)
      · exact allowed

/-- What is read inside a text is the longest allowed spelling that stands there, or a character
or number where none stands. Its kind is that of characters or an allowed one, and a filter that
allows the kind that is read without it changes nothing. -/
theorem readAt_longest (escapes : Bool) (filter : List TokenKind) (inside : index < t.length) :
    (((readAt escapes filter t index).kind ∈ [.character, .numericValue] ∧
        ∀ s ∈ spellings, allows filter s.kind = true → ¬s.StandsAt t index) ∨
      ∃ s ∈ spellings, readAt escapes filter t index = s.token index ∧
        allows filter s.kind = true ∧ s.StandsAt t index ∧
        ∀ other ∈ spellings, allows filter other.kind = true → other.StandsAt t index →
          other.text.length ≤ s.text.length) ∧
      ((readAt escapes filter t index).kind = .character ∨
        allows filter (readAt escapes filter t index).kind = true) ∧
      ((readAt escapes [] t index).kind = .character ∨
          allows filter (readAt escapes [] t index).kind = true →
        readAt escapes filter t index = readAt escapes [] t index) := by
  refine ⟨?_, ?_, readAt_of_allows escapes inside⟩
  · rcases spelling_of_readAt escapes filter inside with ⟨kind, none⟩ | spelled
    · refine .inl ⟨?_, none⟩
      rcases kind with character | ⟨number, -⟩
      · simp [character]
      · simp [number]
    · exact .inr spelled
  · rcases spelling_of_readAt escapes filter inside with ⟨kind, -⟩ | ⟨s, -, same, allowed, -⟩
    · rcases kind with character | ⟨number, allowed⟩
      · exact .inl character
      · exact .inr (number ▸ allowed)
    · rw [same]
      exact .inr allowed

/-- Of the operators that stand at one place the longest is read, and a digit is the same number
where a minus sign before it may not be recognised. -/
theorem readAt_longest_notMatching :
    1 < "a!=~-5".toList.length ∧
      readAt true [.binaryOperator, .numericValue] "a!=~-5".toList 1 =
        ⟨.binaryOperator, "!=~", 1, 3⟩ ∧
      (∀ other ∈ spellings, allows [.binaryOperator, .numericValue] other.kind = true →
        other.StandsAt "a!=~-5".toList 1 → other.text.length ≤ 3) ∧
      readAt true [.binaryOperator, .numericValue] "a!=~-5".toList 5 =
        readAt true [] "a!=~-5".toList 5 := by
  have inside : 1 < "a!=~-5".toList.length := by decide
  have reads : readAt true [.binaryOperator, .numericValue] "a!=~-5".toList 1 =
      ⟨.binaryOperator, "!=~", 1, 3⟩ := by decide +kernel
  refine ⟨inside, reads, fun other mem allowed stands => ?_, ?_⟩
  · rcases (readAt_longest true [.binaryOperator, .numericValue] inside).1 with
      ⟨kind, -⟩ | ⟨s, -, same, -, -, longest⟩
    · rw [reads] at kind
      exact absurd kind (by decide)
    · have length : s.text.length = 3 := congrArg Token.length (same.symm.trans reads)
      exact length ▸ longest other mem allowed stands
  · exact (readAt_longest true [.binaryOperator, .numericValue] (by decide)).2.2
      (.inr (by decide +kernel))

end Token

end MessageExpr
