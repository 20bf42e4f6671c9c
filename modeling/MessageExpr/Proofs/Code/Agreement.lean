import MessageExpr.Code
import MessageExpr.Proofs.Compile
import MessageExpr.Proofs.Except
import MessageExpr.Proofs.Text.Trim

/-!
# Compiling and writing nodes

Nodes are compiled and written as code by two walks that know nothing of each other. Unless a
function stands inside another one, both find the same first problem. Only compiling reads
patterns, so that it may also stop at a pattern that writing would pass over.

## Main definitions

* `Node.unnested` — whether no function stands inside another one
* `Compile.Agrees` — outcomes of compiling and of writing that agree
* `Compile.AgreesWith` — a step of compiling that agrees with a step of writing

## Main results

* `Compile.agrees_node`, `Compile.agrees_pieces` — nodes and what stands in quoted text
* `Compile.agrees_expression`, `Compile.agrees_predicate` — the nodes of a text
-/

namespace MessageExpr

namespace Node

mutual

/-- Whether no function stands inside another one, at any depth. The node stands in a function
itself if `inside` says so. -/
def unnested (inside : Bool) : Node → Bool
  | block .function _ _ children => !inside && unnestedAll true children
  | block .quote _ _ children => unnestedAll inside children
  | unary _ _ operand => unnestedOperand inside operand
  | binary _ _ left right => unnestedOperand inside left && unnestedOperand inside right
  | logical _ _ left right => unnestedOperand inside left && unnestedOperand inside right
  | literal _ _ | closing _ _ _ | number _ _ _ | boolean _ | null _ => true

/-- Whether in some nodes no function stands inside another one. -/
def unnestedAll (inside : Bool) : List Node → Bool
  | [] => true
  | node :: rest => node.unnested inside && unnestedAll inside rest

/-- Whether in an operand no function stands inside another one. -/
def unnestedOperand (inside : Bool) : Option Node → Bool
  | none => true
  | some node => node.unnested inside

end

/-- The children of a function hold no function when none stands inside another one. -/
theorem hasFunctions_of_unnestedAll {children : List Node} (h : unnestedAll true children = true) :
    hasFunctions children = false := by
  induction children with
  | nil => rfl
  | cons child rest ih =>
    rw [unnestedAll, Bool.and_eq_true] at h
    have head : child.isFunction = false := by
      cases child with
      | block form =>
        cases form with
        | function => cases h.1
        | quote => rfl
      | _ => rfl
    rw [hasFunctions, List.any_cons, head]
    exact ih h.2

end Node

open Node

namespace Compile

variable [PatternLibrary] {α β α' β' : Type}

/-! ## Outcomes -/

/-- Compiling and writing both succeed, or find the same problem, or compiling stops at a
pattern that cannot be read. -/
inductive Agrees : Except CompileError α → Except Problem β → Prop
  | ok (a : α) (b : β) : Agrees (.ok a) (.ok b)
  | problem (p : Problem) : Agrees (.error (.problem p)) (.error p)
  | badPattern {pattern : String} {flaw : PatternFlaw} (code : Except Problem β) :
      PatternLibrary.compileWhole pattern = .error flaw →
      Agrees (.error (.badPattern pattern flaw)) code

theorem Agrees.map {compiled : Except CompileError α} {code : Except Problem β}
    (h : Agrees compiled code) (f : β → β') : Agrees compiled (code.map f) := by
  cases h with
  | ok a b => exact .ok a _
  | problem p => exact .problem p
  | badPattern code bad => exact .badPattern _ bad

/-- Only whether something was compiled counts, and not what it is. -/
theorem Agrees.view {compiled : Except CompileError α} {code : Except Problem β}
    (h : Agrees compiled code) (f : α → α') : Agrees (compiled.map f) code := by
  cases h with
  | ok a b => exact .ok _ b
  | problem p => exact .problem p
  | badPattern code bad => exact .badPattern code bad

/-! ## Steps -/

/-- Without shared functions a step of compiling agrees with a step of writing, and no functions
are shared after it. -/
def AgreesWith (step : CompileM α) (code : Except Problem β) : Prop :=
  ∀ w, w.functions = none → Agrees (step.run w).1 code ∧ (step.run w).2.functions = none

namespace AgreesWith

theorem pure (a : α) (b : β) : AgreesWith (pure a : CompileM α) (.ok b) :=
  fun _ alone => ⟨.ok a b, alone⟩

private theorem fail (fault : Fault) (index : Nat) :
    AgreesWith (fail fault index : CompileM α) (.error ⟨fault, index⟩ : Except Problem β) :=
  fun _ alone => ⟨.problem _, alone⟩

/-- One step after another. -/
theorem bind {step : CompileM α} {next : α → CompileM α'} {code : Except Problem β}
    {more : β → Except Problem β'} (h : AgreesWith step code)
    (rest : ∀ a b, AgreesWith (next a) (more b)) : AgreesWith (step >>= next) (code >>= more) := by
  intro w alone
  obtain ⟨agrees, alone'⟩ := h w alone
  rw [run_bind]
  generalize step.run w = result at agrees alone'
  obtain ⟨compiled, w'⟩ := result
  cases agrees with
  | ok a b => exact rest a b w' alone'
  | problem p => exact ⟨.problem p, alone'⟩
  | badPattern code bad => exact ⟨.badPattern _ bad, alone'⟩

/-- A step that only compiling takes at the end. -/
theorem andThen {step : CompileM α} {next : α → CompileM α'} {code : Except Problem β}
    (h : AgreesWith step code) (rest : ∀ a b, AgreesWith (next a) (.ok b : Except Problem β)) :
    AgreesWith (step >>= next) code := by
  have same : code >>= Except.ok = code := by cases code <;> rfl
  exact same ▸ h.bind rest

private theorem map {step : CompileM α} {code : Except Problem β} (h : AgreesWith step code)
    (f : β → β') : AgreesWith step (code.map f) :=
  fun w alone => ⟨(h w alone).1.map f, (h w alone).2⟩

theorem make (a : α) (b : β) : AgreesWith (Compile.make a) (.ok b) :=
  fun _ alone => ⟨.ok _ b, alone⟩

end AgreesWith

/-! ## Functions and patterns -/

/-- A function is looked up by its name in both walks. -/
theorem agrees_function (n : Node) (token : Token) {children : List Node}
    (h : hasFunctions children = false) :
    AgreesWith (function token children) (Code.ofFunctionNode n token children) := by
  rintro ⟨functions, made⟩ alone
  cases alone
  rw [function, Code.ofFunctionNode, if_neg (by simp [h]), run_bind, Function.ofName?_trimmed]
  dsimp only [cached?]
  cases Function.ofName? (literalTexts children) with
  | none => exact ⟨.problem _, rfl⟩
  | some f => exact ⟨.ok _ _, rfl⟩

/-- Only compiling reads patterns. -/
theorem agrees_pattern? (operator : BinaryOperator) (right : Node) :
    AgreesWith (pattern? operator right) (.ok ()) := by
  intro w alone
  rw [pattern?]
  split
  · exact ⟨.ok _ _, alone⟩
  · split
    · exact ⟨.ok _ _, alone⟩
    · rename_i bad
      exact ⟨.badPattern _ bad, alone⟩

/-! ## Nodes -/

variable {wrap : String → String}

/-- A child that is no literal is compiled and written before the children after it. -/
theorem agrees_pieces_cons {child : Node} {rest : List Node}
    (notLiteral : ∀ token text, child ≠ .literal token text)
    (head : AgreesWith (node child) (Code.value wrap child))
    (tail : AgreesWith (nodes rest) (Code.pieces wrap rest)) :
    AgreesWith (nodes (child :: rest)) (Code.pieces wrap (child :: rest)) := by
  rw [nodes, Code.pieces]
  · exact head.bind fun _ _ => tail.bind fun _ _ => .pure _ _
  · exact notLiteral

mutual

/-- A node in which no function stands inside another one is compiled and written alike. -/
theorem agrees_node (n : Node) {inside : Bool} (h : n.unnested inside = true) :
    AgreesWith (node n) (Code.value wrap n) := by
  match n with
  | .literal _ _ | .number _ _ _ | .boolean _ | .null _ =>
    rw [node, Code.value]
    exact .pure _ _
  | .block .function _ token children =>
    rw [unnested, Bool.and_eq_true] at h
    have plain := hasFunctions_of_unnestedAll h.2
    rw [node, Code.value, if_neg (by simp [plain])]
    exact (agrees_function _ token plain).andThen fun _ _ => .pure _ _
  | .block .quote _ _ children =>
    rw [unnested] at h
    rw [node, Code.value]
    split
    · exact (agrees_pieces children h).bind fun _ _ => .pure _ _
    · exact .pure _ _
  | .closing _ _ token | .unary _ token none | .binary _ token none _
  | .binary _ token (some _) none | .logical _ token none _ | .logical _ token (some _) none =>
    rw [node, Code.value]
    exact .fail _ _
  | .unary _ _ (some operand) =>
    rw [unnested, unnestedOperand] at h
    rw [node, Code.value]
    exact (agrees_node operand h).bind fun _ _ => .pure _ _
  | .binary operator _ (some left) (some right) =>
    rw [unnested, unnestedOperand, unnestedOperand, Bool.and_eq_true] at h
    rw [node, Code.value]
    refine (agrees_node left h.1).bind fun _ _ => (agrees_node right h.2).bind fun _ _ => ?_
    exact (agrees_pattern? operator right).bind fun _ _ => .pure _ _
  | .logical _ _ (some left) (some right) =>
    rw [unnested, unnestedOperand, unnestedOperand, Bool.and_eq_true] at h
    rw [node, Code.value]
    exact (agrees_node left h.1).bind fun _ _ => (agrees_node right h.2).bind fun _ _ => .pure _ _

/-- What stands in quoted text is compiled and written alike. -/
theorem agrees_pieces (l : List Node) {inside : Bool} (h : unnestedAll inside l = true) :
    AgreesWith (nodes l) (Code.pieces wrap l) := by
  match l with
  | [] =>
    rw [nodes, Code.pieces]
    exact .pure _ _
  | child :: rest =>
    rw [unnestedAll, Bool.and_eq_true] at h
    have tail := agrees_pieces rest h.2
    cases child with
    | literal token text =>
      -- A literal cannot fail, so that only the children after it count.
      rw [nodes, node, pure_bind, Code.pieces]
      exact tail.bind fun _ _ => .pure _ _
    | _ => exact agrees_pieces_cons nofun (agrees_node _ h.1) tail

end

/-! ## Lists of nodes -/

/-- Nodes are compiled and written one after the other. -/
theorem agrees_mapM {write : Node → Except Problem β} {l : List Node}
    (h : ∀ n ∈ l, AgreesWith (node n) (write n)) : AgreesWith (nodes l) (l.mapM write) := by
  induction l with
  | nil =>
    rw [nodes]
    exact .pure _ _
  | cons first rest ih =>
    rw [nodes, List.mapM_cons]
    refine (h first (by simp)).bind fun _ _ => ?_
    exact (ih fun n mem => h n (List.mem_cons_of_mem _ mem)).bind fun _ _ => .pure _ _

omit [PatternLibrary] in
private theorem unnested_of_mem {inside : Bool} {l : List Node} (h : unnestedAll inside l = true) :
    ∀ n ∈ l, n.unnested inside = true := by
  induction l with
  | nil => simp
  | cons first rest ih =>
    rw [unnestedAll, Bool.and_eq_true] at h
    exact List.forall_mem_cons.mpr ⟨h.1, ih h.2⟩

private theorem agrees_single (n : Node) (h : n.unnested false = true) :
    AgreesWith (single n) (Code.value wrap n) := by
  unfold single
  split
  · rename_i token children
    rw [unnested, Bool.and_eq_true] at h
    have plain := hasFunctions_of_unnestedAll h.2
    rw [if_neg (by simp [plain]), Code.value]
    exact agrees_function _ token plain
  · exact (agrees_node n h).andThen fun _ _ => .make _ _

/-- The nodes of a template are compiled and written alike. -/
theorem agrees_expression {l : List Node} (h : unnestedAll false l = true) :
    AgreesWith (expression l) (Code.ofExpression l) := by
  refine AgreesWith.map ?_ Code.strip
  have each := unnested_of_mem h
  match l with
  | [] => exact .make _ _
  | [one] =>
    have written : Code.templateCode Code.marked [one] = (Code.value Code.marked one).map
        fun code => Code.plus (Code.textFirst [one] ++ [code]) := by
      rw [Code.templateCode, List.mapM_cons]
      · cases Code.value Code.marked one <;> rfl
      · exact List.cons_ne_nil one []
    rw [written]
    exact (agrees_single one (each one (by simp))).map _
  | first :: second :: rest =>
    have all : AgreesWith (nodes (first :: second :: rest))
        ((first :: second :: rest).mapM (Code.value Code.marked)) :=
      agrees_mapM fun n mem => agrees_node n (each n mem)
    exact all.bind fun _ _ => .make _ _

/-- The nodes of a condition are compiled and written alike. -/
theorem agrees_predicate {l : List Node} (h : unnestedAll false l = true) :
    AgreesWith (predicate l) (Code.ofPredicate l) := by
  refine AgreesWith.map ?_ Code.strip
  have clauses : AgreesWith (nodes l) (l.mapM (Code.condition Code.marked)) :=
    agrees_mapM fun n mem => (agrees_node n (unnested_of_mem h n mem)).map _
  unfold predicate Code.clausesCode
  split
  · exact clauses.bind fun _ _ => .make _ _
  · exact clauses.bind fun _ _ => .make _ _

end Compile

end MessageExpr
