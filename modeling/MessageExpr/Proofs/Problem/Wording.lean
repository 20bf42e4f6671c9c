import MessageExpr.Proofs.Node.Traced

/-!
# The wording that the text has ended

Messages show texts of the user: tokens, numbers and names of functions. So any words can occur in
a message, as in the one about the function `$\x7breached end of line\x7d`. As a whole, though, the
message that the text has ended is not the message of anything else. The others start or end
differently, whatever they show, and no name of a kind of token is the start of another one.

## Main definitions

* `TokenKind.endMessage` — the message that the text has ended before a kind of token

## Main results

* `Fault.reachesEnd_iff` — which faults have such a message
-/

namespace MessageExpr

/-- The message that the text has ended where a kind of token has to follow. -/
def TokenKind.endMessage (kind : TokenKind) : String :=
  s!"expected symbol {kind.name} but reached end of line"

theorem TokenKind.toList_endMessage (kind : TokenKind) :
    kind.endMessage.toList =
      "expected symbol ".toList ++ kind.name.toList ++ " but reached end of line".toList := by
  change ("expected symbol " ++ kind.name ++ " but reached end of line").toList = _
  rw [String.toList_append, String.toList_append]

/-- The kind in a message is told by what follows it. -/
theorem TokenKind.not_prefix (kind kind' : TokenKind) :
    ¬kind.name.toList ++ " but was".toList <+:
      kind'.name.toList ++ " but reached end of line".toList := by
  cases kind <;> cases kind' <;> decide

/-- The end of what is put together of two texts, when it is no longer than the second one. -/
theorem suffix_of_suffix_append {ending front back : List Char} (h : ending <:+ front ++ back)
    (short : ending.length ≤ back.length) : ending <:+ back :=
  List.suffix_of_suffix_length_le h (List.suffix_append front back) short

/-- A number does not end in a letter. -/
theorem not_suffix_number {front ending : List Char} {c : Char} (ends : ending.getLast? = some c)
    (letter : c.isDigit = false) (n : Nat) : ¬ending <:+ front ++ (toString n).toList := by
  rintro ⟨before, same⟩
  rw [Nat.toString_eq_repr, Nat.toList_repr] at same
  have last := congrArg List.getLast? same
  rw [List.getLast?_append_of_ne_nil _ Nat.toDigits_ne_nil, List.getLast?_append, ends] at last
  have digit := Nat.isDigit_of_mem_toDigits (by decide) (by decide) (List.mem_of_getLast? last.symm)
  exact absurd digit (by simp [letter])

namespace Fault

/-- What was found instead of a kind of token is not the end of the text. -/
theorem not_endMessage_of_found (kind kind' : TokenKind) (found : String) :
    "expected symbol " ++ kind.name ++ " but was " ++ found ≠ kind'.endMessage := by
  intro same
  have letters := congrArg String.toList same
  simp only [TokenKind.toList_endMessage, String.toList_append, List.append_assoc,
    List.append_cancel_left_eq] at letters
  refine TokenKind.not_prefix kind kind' ?_
  rw [← letters]
  exact (List.prefix_append_right_inj _).mpr (List.IsPrefix.trans (by decide)
    (List.prefix_append _ _))

/-- A fault that is worded like the end of the text is that the text has ended. -/
theorem reachesEnd_of_message {fault : Fault} {kind : TokenKind}
    (h : fault.message = kind.endMessage) : fault.reachesEnd = true := by
  have first : fault.message.toList.head? = some 'e' := by
    rw [h, kind.toList_endMessage]
    simp
  have last : "line".toList <:+ fault.message.toList := by
    rw [h, kind.toList_endMessage]
    exact List.IsSuffix.trans (by decide) (List.suffix_append _ _)
  have plain (s : String) : toString s = s := rfl
  unfold message at h first last
  cases fault with
  | expected wanted found =>
    by_contra notEnd
    change ¬found.isEnd = true at notEnd
    simp only [if_neg notEnd] at h
    exact not_endMessage_of_found wanted kind found.shown h
  | unexpected found => simp [plain] at first
  | unended k => cases k <;> simp [BlockKind.name, plain] at first
  | noOperand group | badOperand group | badStart group | unknownOperator group =>
    cases group <;> simp [OperatorGroup.title, plain] at first
  | badNumber | unknownFunction | dynamicFunction => simp [plain] at first
  | unstarted closing =>
    simp only [plain, String.toList_append] at last
    exact absurd (suffix_of_suffix_append last (by decide)) (by decide)
  | crossed closing k start =>
    simp only [plain, String.toList_append] at last
    exact absurd last (not_suffix_number rfl rfl start)
  | misplaced found parent =>
    simp only [plain, String.toList_append] at last
    cases parent <;> exact absurd (suffix_of_suffix_append last (by decide)) (by decide)

theorem reachesEnd_iff (fault : Fault) :
    fault.reachesEnd = true ↔ ∃ kind : TokenKind, fault.message = kind.endMessage := by
  constructor
  · intro ended
    cases fault with
    | expected kind found => exact ⟨kind, if_pos ended⟩
    | _ => cases ended
  · rintro ⟨kind, same⟩
    exact reachesEnd_of_message same

end Fault

end MessageExpr
