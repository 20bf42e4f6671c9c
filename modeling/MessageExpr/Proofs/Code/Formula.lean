import Mathlib.Data.List.Forall2
import MessageExpr.Proofs.Code.Signs

/-!
# Reading code as a formula

Code that stands for a condition is read as atoms joined by logical operators. Parentheses come
first, then "and", then "or", and operators of one kind group to the left. An atom is a piece of
code that runs up to white space, an operator or a closing parenthesis outside the parentheses
that were opened in it.

## Main definitions

* `Formula` — atoms joined by logical operators
* `Formula.holds` — the truth of a formula, where the atoms are numbered from left to right
* `lexemes` — the atoms, operators and parentheses of a code
* `formula?` — the formula of a code
-/

namespace MessageExpr

/-- The truth of a logical operator. -/
def LogicalOperator.join : LogicalOperator → Bool → Bool → Bool
  | and, a, b => a && b
  | or, a, b => a || b

/-- Atoms joined by logical operators. -/
inductive Formula (α : Type) where
  | atom (a : α)
  | join (o : LogicalOperator) (left right : Formula α)

namespace Formula

variable {α β : Type}

/-- The number of atoms. -/
def size : Formula α → Nat
  | atom _ => 1
  | join _ left right => left.size + right.size

/-- The atoms, from left to right. -/
def atoms : Formula α → List α
  | atom a => [a]
  | join _ left right => left.atoms ++ right.atoms

/-- The truth of a formula, given the truth of the atoms by their numbers, of which the first one
is `first`. -/
def holds (v : Nat → Bool) (first : Nat) : Formula α → Bool
  | atom _ => v first
  | join o left right => o.join (left.holds v first) (right.holds v (first + left.size))

/-- Whether all of a row of formulas hold. The atoms of all of them are numbered in one row. -/
def allHold (v : Nat → Bool) : Nat → List (Formula α) → Bool
  | _, [] => true
  | first, f :: rest => f.holds v first && allHold v (first + f.size) rest

/-- Whether the outermost operator of a formula is "or". -/
def isDisjunction : Formula α → Bool
  | join .or _ _ => true
  | _ => false

/-- Two formulas with the same operators, whose atoms are related one by one. -/
inductive Rel (R : α → β → Prop) : Formula α → Formula β → Prop
  | atom {a : α} {b : β} (h : R a b) : Rel R (atom a) (atom b)
  | join {o : LogicalOperator} {f f' : Formula α} {g g' : Formula β} (left : Rel R f g)
    (right : Rel R f' g') : Rel R (join o f f') (join o g g')

section

variable {R : α → β → Prop} {f : Formula α} {g : Formula β} {fs : List (Formula α)}
  {gs : List (Formula β)} {v : Nat → Bool} {first : Nat}

theorem Rel.size_eq (h : Rel R f g) : f.size = g.size := by
  induction h with
  | atom => rfl
  | join _ _ ihl ihr => rw [size, size, ihl, ihr]

theorem Rel.atoms (h : Rel R f g) : List.Forall₂ R f.atoms g.atoms := by
  induction h with
  | atom h => exact .cons h .nil
  | join _ _ ihl ihr => exact List.rel_append ihl ihr

/-- The truth of a formula does not depend on what its atoms are. -/
theorem Rel.holds_eq (h : Rel R f g) : f.holds v first = g.holds v first := by
  induction h generalizing first with
  | atom => rfl
  | join left _ ihl ihr => rw [holds, holds, ihl, ihr, left.size_eq]

theorem Rel.isDisjunction_eq (h : Rel R f g) : f.isDisjunction = g.isDisjunction := by
  cases h with
  | atom => rfl
  | @join o => cases o <;> rfl

theorem isDisjunction_eq (h : List.Forall₂ (Rel R) fs gs) :
    fs.map isDisjunction = gs.map isDisjunction := by
  induction h with
  | nil => rfl
  | cons head _ ih => rw [List.map_cons, List.map_cons, head.isDisjunction_eq, ih]

theorem atoms_rel (h : List.Forall₂ (Rel R) fs gs) :
    List.Forall₂ R (fs.flatMap Formula.atoms) (gs.flatMap Formula.atoms) := by
  induction h with
  | nil => exact .nil
  | cons head _ ih =>
    rw [List.flatMap_cons, List.flatMap_cons]
    exact List.rel_append head.atoms ih

theorem allHold_eq (h : List.Forall₂ (Rel R) fs gs) :
    allHold v first fs = allHold v first gs := by
  induction h generalizing first with
  | nil => rfl
  | cons head _ ih => rw [allHold, allHold, head.holds_eq, head.size_eq, ih]

end

end Formula

namespace Code

/-! ## Lexemes -/

/-- What a formula is written with. -/
inductive Lexeme where
  | opening
  | closing
  | operator (o : LogicalOperator)
  | atom (code : List Sign)
  deriving DecidableEq, Repr

/-- The atom that has been read, if any. -/
def held? (held : List Sign) : List Lexeme := if held = [] then [] else [.atom held]

/-- The lexemes of code, where `held` has been read of an atom and `depth` parentheses are open
in it. -/
def lexemes (held : List Sign) (depth : Nat) : List Sign → List Lexeme
  | [] => held? held
  | s :: rest =>
    if depth = 0 then
      match s with
      | .operator o => held? held ++ .operator o :: lexemes [] 0 rest
      | .text t => lexemes (held ++ [.text t]) 0 rest
      | .char c =>
        if c = ' ' then held? held ++ lexemes [] 0 rest
        else if c = ')' then held? held ++ .closing :: lexemes [] 0 rest
        else if c = '(' then
          -- A parenthesis after a word belongs to a call.
          if held = [] then .opening :: lexemes [] 0 rest else lexemes (held ++ [.char c]) 1 rest
        else lexemes (held ++ [.char c]) 0 rest
    else
      lexemes (held ++ [s])
        (if s = .char '(' then depth + 1 else if s = .char ')' then depth - 1 else depth) rest

/-! ## Formulas -/

/-- What has been read between two parentheses: the formulas before the last "or", those after it
and before the last "and", and what comes after that. -/
structure Level where
  ors : Option (Formula (List Sign))
  ands : Option (Formula (List Sign))
  last : Option (Formula (List Sign))

namespace Level

/-- Nothing has been read. -/
def empty : Level := ⟨none, none, none⟩

/-- A formula after another one, if there is one. -/
def after (o : LogicalOperator) (before : Option (Formula (List Sign)))
    (f : Formula (List Sign)) : Formula (List Sign) :=
  match before with
  | none => f
  | some g => .join o g f

/-- What follows the last "or", with a formula at its end. -/
def term (l : Level) (f : Formula (List Sign)) : Formula (List Sign) := after .and l.ands f

/-- All of a level, with a formula at its end. -/
def total (l : Level) (f : Formula (List Sign)) : Formula (List Sign) :=
  after .or l.ors (l.term f)

/-- An operand, where one may stand. -/
def operand? (l : Level) (f : Formula (List Sign)) : Option Level :=
  match l.last with
  | none => some { l with last := some f }
  | some _ => none

/-- A level after a formula at its end and an operator. -/
def operator (l : Level) (o : LogicalOperator) (f : Formula (List Sign)) : Level :=
  match o with
  | .and => ⟨l.ors, some (l.term f), none⟩
  | .or => ⟨some (l.total f), none, none⟩

/-- An operator, where one may stand. -/
def operator? (l : Level) (o : LogicalOperator) : Option Level := l.last.map (l.operator o)

/-- The formula of a level, if it does not end with an operator. -/
def finish? (l : Level) : Option (Formula (List Sign)) := l.last.map l.total

end Level

/-- The formula of lexemes, where `l` has been read since the last open parenthesis and `outer`
before each of the open parentheses. -/
def parseLexemes (outer : List Level) (l : Level) : List Lexeme → Option (Formula (List Sign))
  | [] => if outer.isEmpty then l.finish? else none
  | .atom code :: rest => (l.operand? (.atom code)).bind fun l => parseLexemes outer l rest
  | .operator o :: rest => (l.operator? o).bind fun l => parseLexemes outer l rest
  | .opening :: rest => if l.last.isNone then parseLexemes (l :: outer) .empty rest else none
  | .closing :: rest =>
    match outer with
    | [] => none
    | above :: outer =>
      (l.finish?.bind above.operand?).bind fun l => parseLexemes outer l rest

/-- The formula of a code. -/
def formula? (code : String) : Option (Formula (List Sign)) :=
  (signs? code.toList).bind fun signs => parseLexemes [] .empty (lexemes [] 0 signs)

end Code

end MessageExpr
