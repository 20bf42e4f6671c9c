import MessageExpr.Text.Quoted
import Mathlib.Data.List.Infix

/-!
# String literals

The inside of a literal is a row of characters that stand for themselves and of pairs of a backslash
and a letter. A backslash always takes the next character along, so the first quote that belongs to
no pair ends the literal, and nothing that comes after it matters: a literal is read back as its
text, whatever follows it. A run of characters that stand for themselves occurs in a literal where
it occurs in the text, and a quote before or after it is one of the quotes around the text or one of
the text.

## Main definitions

* `Spells` — the inside of a literal, and the text that it stands for
* `BeginsWith` — the literal at the start of a text, and what follows it

## Main results

* `decode?_eq_some_iff` — what is read at the start of a text is the literal there
* `decodeInside?_encode` — a literal is read back
* `beginsWith_quoted_iff` — no other literal begins a text that begins with a literal
* `length_of_decodeInside?` — reading a literal takes characters off the text
* `prefix_encode_iff`, `quote_infix_encode_iff`, `infix_quote_encode_iff` — what a literal holds
-/

namespace MessageExpr.Text

/-! ## What a literal stands for -/

/-- The inside of a literal stands for a text. A backslash makes a pair with the letter after it,
and any other character stands for itself unless it is a quote or breaks the line. -/
inductive Spells : List Char → List Char → Prop where
  | nil : Spells [] []
  | pair {letter c inside text} : unletter? letter = some c → Spells inside text →
      Spells ('\\' :: letter :: inside) (c :: text)
  | plain {c inside text} : c ∉ ['\\', '"', '\n', '\r'] → Spells inside text →
      Spells (c :: inside) (c :: text)

/-- The text `t` begins with a literal that stands for `text`, and `rest` follows the literal. -/
def BeginsWith (t text rest : List Char) : Prop :=
  ∃ inside, t = '"' :: (inside ++ '"' :: rest) ∧ Spells inside text

variable {c d l : Char} {t text inside rest run : List Char}

/-! ## Reading back -/

theorem unletter?_of_letter? (h : letter? c = some l) : unletter? l = some c := by
  unfold letter? at h
  split at h <;> cases h <;> rfl

/-- A character that stands for itself is none of those that do not. -/
theorem ne_of_letter? (hd : letter? d = none) (hc : letter? c = some l) : d ≠ c := by
  rintro rfl
  cases hd.symm.trans hc

theorem encode_cons_of_letter? (h : letter? c = some l) (t : List Char) :
    encode (c :: t) = '\\' :: l :: encode t := by
  rw [encode, h]

theorem encode_cons_of_plain (h : letter? c = none) (t : List Char) :
    encode (c :: t) = c :: encode t := by
  rw [encode, h]

/-- What stands for itself ends no literal and starts no pair of characters. -/
theorem decodeInside?_cons_of_plain (plain : c ∉ ['\\', '"', '\n', '\r']) (t : List Char) :
    decodeInside? (c :: t) = (decodeInside? t).map fun (text, after) => (c :: text, after) := by
  simp only [List.mem_cons, List.not_mem_nil, or_false, not_or] at plain
  obtain ⟨noSlash, noQuote, noLine, noReturn⟩ := plain
  rw [decodeInside?]
  · simp [noQuote, noLine, noReturn]
  · exact fun slash => absurd slash noSlash
  · exact fun _ _ slash => absurd slash noSlash

private theorem decodeInside?_of_spells (h : Spells inside text) (rest : List Char) :
    decodeInside? (inside ++ '"' :: rest) = some (text, rest) := by
  induction h with
  | nil => simp [decodeInside?]
  | pair known _ ih =>
    rw [List.cons_append, List.cons_append, decodeInside?, known, ih]
    rfl
  | plain plain _ ih =>
    rw [List.cons_append, decodeInside?_cons_of_plain plain, ih]
    rfl

private theorem exists_spells_of_decodeInside? (h : decodeInside? t = some (text, rest)) :
    ∃ inside, t = inside ++ '"' :: rest ∧ Spells inside text := by
  fun_induction decodeInside? t generalizing text with
  | case1 => cases h
  | case2 => cases h
  | case3 letter more ih =>
    simp only [Option.bind_eq_bind, Option.bind_eq_some_iff, Option.pure_def,
      Option.some.injEq, Prod.mk.injEq] at h
    obtain ⟨c, known, ⟨read, after⟩, found, rfl, rfl⟩ := h
    obtain ⟨inside, rfl, spells⟩ := ih found
    exact ⟨'\\' :: letter :: inside, rfl, .pair known spells⟩
  | case4 c more _ _ isQuote =>
    cases h
    rw [beq_iff_eq.mp isQuote]
    exact ⟨[], rfl, .nil⟩
  | case5 => cases h
  | case6 c more noEnd noPair noQuote noBreak ih =>
    obtain ⟨⟨read, after⟩, found, same⟩ := Option.map_eq_some_iff.mp h
    obtain ⟨rfl, rfl⟩ := Prod.mk.inj same
    obtain ⟨inside, rfl, spells⟩ := ih found
    -- A backslash has been read as the start of a pair.
    have noSlash : c ≠ '\\' := by
      rintro rfl
      cases same : inside ++ '"' :: after with
      | nil => exact noEnd rfl same
      | cons letter more => exact noPair letter more rfl same
    have plain : c ∉ ['\\', '"', '\n', '\r'] := by
      simp_all
    exact ⟨c :: inside, rfl, .plain plain spells⟩

/-- What is read at the start of a text is the literal there. -/
theorem decode?_eq_some_iff : decode? t = some (text, rest) ↔ BeginsWith t text rest := by
  constructor
  · intro read
    unfold decode? at read
    split at read
    · obtain ⟨inside, rfl, spells⟩ := exists_spells_of_decodeInside? read
      exact ⟨inside, rfl, spells⟩
    · cases read
  · rintro ⟨inside, rfl, spells⟩
    exact decodeInside?_of_spells spells rest

private theorem spells_encode (t : List Char) : Spells (encode t) t := by
  induction t with
  | nil => exact .nil
  | cons c t ih =>
    cases h : letter? c with
    | none =>
      rw [encode_cons_of_plain h]
      refine .plain ?_ ih
      simp only [List.mem_cons, List.not_mem_nil, or_false, not_or]
      exact ⟨ne_of_letter? h rfl, ne_of_letter? h rfl, ne_of_letter? h rfl, ne_of_letter? h rfl⟩
    | some l =>
      rw [encode_cons_of_letter? h]
      exact .pair (unletter?_of_letter? h) ih

theorem decodeInside?_encode (t rest : List Char) :
    decodeInside? (encode t ++ '"' :: rest) = some (t, rest) :=
  decodeInside?_of_spells (spells_encode t) rest

theorem length_of_decodeInside? (h : decodeInside? t = some (text, rest)) :
    rest.length < t.length := by
  obtain ⟨inside, rfl, -⟩ := exists_spells_of_decodeInside? h
  rw [List.length_append, List.length_cons]
  omega

private theorem decode?_quoted_append (s : String) (rest : List Char) :
    decode? ((quoted s).toList ++ rest) = some (s.toList, rest) := by
  have shape : (quoted s).toList ++ rest = '"' :: (encode s.toList ++ '"' :: rest) := by
    simp [quoted]
  rw [shape]
  exact decodeInside?_encode s.toList rest

/-- A text that begins with the literal of another one begins with no other literal, and what
follows the literal is what was put after it. So texts have different literals, and none of the
literals is the start of another one. -/
theorem beginsWith_quoted_iff (s s' after after' : String) :
    decode? (quoted s ++ after).toList = some (s.toList, after.toList) ∧
      (∀ text rest, BeginsWith (quoted s ++ after).toList text rest ↔
        text = s.toList ∧ rest = after.toList) ∧
      (quoted s ++ after = quoted s' ++ after' ↔ s = s' ∧ after = after') ∧
      (quoted s = quoted s' ↔ s = s') := by
  have read (s after : String) :
      decode? (quoted s ++ after).toList = some (s.toList, after.toList) := by
    rw [String.toList_append]
    exact decode?_quoted_append s after.toList
  have apart {s s' after after' : String} (same : quoted s ++ after = quoted s' ++ after') :
      s = s' ∧ after = after' := by
    have both := read s after
    rw [same, read s' after', Option.some_inj, Prod.mk.injEq, String.toList_inj,
      String.toList_inj] at both
    exact ⟨both.1.symm, both.2.symm⟩
  refine ⟨read s after, fun text rest => ?_, ⟨apart, ?_⟩, ⟨fun same => ?_, congrArg quoted⟩⟩
  · rw [← decode?_eq_some_iff, read s after, Option.some_inj, Prod.mk.injEq, eq_comm,
      @eq_comm _ after.toList]
  · rintro ⟨rfl, rfl⟩
    rfl
  · exact (apart (congrArg (· ++ "") same)).1

/-- A backslash and a quote at the end of a text do not open its literal to what follows. -/
example : decode? (quoted "a\\\"" ++ "\"b").toList = some (['a', '\\', '"'], ['"', 'b']) := by
  decide

/-! ## Occurrences -/

/-- A run of characters that stand for themselves. -/
def IsPlain (run : List Char) : Prop := ∀ c ∈ run, letter? c = none

instance (run : List Char) : Decidable (IsPlain run) := List.decidableBAll _ run

theorem prefix_encode_iff (plain : IsPlain run) :
    run <+: encode t ++ ['"'] ↔ run <+: t := by
  induction run generalizing t with
  | nil => simp
  | cons d run ih =>
    obtain ⟨hd, hrun⟩ := List.forall_mem_cons.1 plain
    cases t with
    | nil =>
      have : d ≠ '"' := ne_of_letter? hd rfl
      simp [encode, List.cons_prefix_cons, this]
    | cons c t =>
      cases hc : letter? c with
      | none =>
        rw [encode_cons_of_plain hc, List.cons_append, List.cons_prefix_cons,
          List.cons_prefix_cons, ih hrun]
      | some l =>
        -- What stands for itself is neither the character nor the backslash written for it.
        have noSlash : d ≠ '\\' := ne_of_letter? hd rfl
        have other : d ≠ c := ne_of_letter? hd hc
        simp [encode_cons_of_letter? hc, List.cons_prefix_cons, noSlash, other]

/-- A quote in a literal, not at its start, with something after it is a quote of the text. -/
theorem quote_infix_encode_iff (plain : IsPlain run) (nonempty : run ≠ []) :
    '"' :: run <:+: encode t ++ ['"'] ↔ '"' :: run <:+: t := by
  induction t with
  | nil => simp [encode, List.infix_cons_iff, List.cons_prefix_cons, nonempty]
  | cons c t ih =>
    cases hc : letter? c with
    | none =>
      have noQuote : '"' ≠ c := (ne_of_letter? hc rfl).symm
      rw [encode_cons_of_plain hc, List.cons_append, List.infix_cons_iff, List.infix_cons_iff,
        ih, List.cons_prefix_cons, List.cons_prefix_cons]
      simp [noQuote]
    | some l =>
      -- A quote is written with itself after a backslash, and nothing else is written with a quote.
      have quote : '"' = l ↔ '"' = c := by
        constructor
        · rintro rfl
          exact Option.some.inj (unletter?_of_letter? hc)
        · rintro rfl
          exact Option.some.inj hc
      rw [encode_cons_of_letter? hc, List.cons_append, List.cons_append, List.infix_cons_iff,
        List.infix_cons_iff, List.infix_cons_iff, ih, List.cons_prefix_cons,
        List.cons_prefix_cons, List.cons_prefix_cons, prefix_encode_iff plain, quote]
      simp

/-- A plain run up to a quote at the start of a literal is the whole text. -/
theorem prefix_quote_encode_iff (plain : IsPlain run) :
    run ++ ['"'] <+: encode t ++ ['"'] ↔ run = t := by
  induction run generalizing t with
  | nil =>
    cases t with
    | nil => simp [encode]
    | cons c t =>
      cases hc : letter? c with
      | none =>
        have noQuote : '"' ≠ c := (ne_of_letter? hc rfl).symm
        simp [encode_cons_of_plain hc, List.cons_prefix_cons, noQuote]
      | some l => simp [encode_cons_of_letter? hc, List.cons_prefix_cons]
  | cons d run ih =>
    obtain ⟨hd, hrun⟩ := List.forall_mem_cons.1 plain
    cases t with
    | nil => simp [encode, List.cons_prefix_cons]
    | cons c t =>
      cases hc : letter? c with
      | none =>
        rw [encode_cons_of_plain hc, List.cons_append, List.cons_append, List.cons_prefix_cons,
          ih hrun, List.cons.injEq]
      | some l =>
        have noSlash : d ≠ '\\' := ne_of_letter? hd rfl
        have other : d ≠ c := ne_of_letter? hd hc
        simp [encode_cons_of_letter? hc, List.cons_prefix_cons, noSlash, other]

/-- A quote in a literal with a plain run right before it is the quote at the end. -/
theorem infix_quote_encode_iff (plain : IsPlain (d :: run)) (noLetter : unletter? d = none) :
    d :: run ++ ['"'] <:+: encode t ++ ['"'] ↔ d :: run <:+ t := by
  induction t with
  | nil =>
    have := (prefix_quote_encode_iff (t := []) plain).not
    simp_all [encode, List.infix_cons_iff]
  | cons c t ih =>
    cases hc : letter? c with
    | none =>
      rw [List.suffix_cons_iff, ← ih, ← prefix_quote_encode_iff plain, encode_cons_of_plain hc,
        @List.cons_append _ c, List.infix_cons_iff]
    | some l =>
      have hd : letter? d = none := plain d (by simp)
      have noSlash : d ≠ '\\' := ne_of_letter? hd rfl
      have other : d ≠ c := ne_of_letter? hd hc
      have noStart : d ≠ l := by rintro rfl; cases noLetter.symm.trans (unletter?_of_letter? hc)
      rw [List.suffix_cons_iff, ← ih, encode_cons_of_letter? hc, @List.cons_append _ '\\',
        @List.cons_append _ l, List.infix_cons_iff, List.infix_cons_iff]
      simp [List.cons_prefix_cons, noSlash, other, noStart]

end MessageExpr.Text
