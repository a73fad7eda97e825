import Mathlib.Logic.Basic
import SnapshotGen.Proofs.Script.Tokens

/-!
The names that scripts give. Where something is declared, and where a member is taken of a name,
no word with a meaning of its own is read as that name.
-/

namespace SnapshotGen.Script

open Reader

set_option synthInstance.maxSize 512

/-- The roles in which a node of a kind holds what names something. -/
@[reducible] def Kind.names : Kind → Role → Bool
  | .member, .object | .assignment, .left | .declarator, .name => true
  | .functionDeclaration, .name | .classDeclaration, .name | .export, .declaration => true
  | .variableDeclaration, _ | .expressionStatement, _ => true
  | _, _ => false

@[reducible] def Kind.isNameless : Kind → Bool
  | .identifier | .member | .assignment | .declarator | .functionDeclaration | .classDeclaration
  | .export | .variableDeclaration | .expressionStatement => false
  | _ => true

/-- No reserved word stands where a node names something. What a class or a function is declared by
is a plain name. -/
inductive Node.Unreserved : Node → Prop
  | mk {kind : Kind} {text : String} {children : List (Role × Node)}
      (own : kind = .identifier → text ∉ reservedWords)
      (inside : ∀ child ∈ children, kind.names child.1 = true → Unreserved child.2)
      (declared : kind = .classDeclaration ∨ kind = .functionDeclaration →
        ∀ child ∈ children, child.1 = .name → child.2.kind = .identifier) :
      Unreserved (mk kind text children)

namespace Node.Unreserved

variable {kind : Kind} {text : String} {children : List (Role × Node)} {node child : Node}

theorem of_isNameless (isNameless : kind.isNameless = true) :
    (Node.mk kind text children).Unreserved := by
  refine .mk ?_ ?_ ?_
  · rintro rfl
    contradiction
  · intro _ _ names
    cases kind <;> contradiction
  · rintro (rfl | rfl)
    · contradiction
    · contradiction

theorem of_children (notName : kind ≠ .identifier)
    (notDeclared : ¬(kind = .classDeclaration ∨ kind = .functionDeclaration))
    (inside : ∀ child ∈ children, kind.names child.1 = true → child.2.Unreserved) :
    (Node.mk kind text children).Unreserved :=
  .mk (fun isName => absurd isName notName) inside fun isDeclared => absurd isDeclared notDeclared

theorem identifier (unreserved : text ∉ reservedWords) : (Node.mk .identifier text []).Unreserved :=
  .mk (fun _ => unreserved) (by simp) (by simp)

theorem text_not_mem (unreserved : node.Unreserved) (isName : node.kind = .identifier) :
    node.text ∉ reservedWords := by
  cases unreserved with
  | mk own _ _ => exact own isName

theorem of_mem_childNodes (unreserved : node.Unreserved)
    (names : ∀ role, node.kind.names role = true) (member : child ∈ node.childNodes) :
    child.Unreserved := by
  cases unreserved with
  | mk _ inside _ =>
      obtain ⟨pair, isPair, rfl⟩ := List.mem_map.mp member
      exact inside pair isPair (names pair.1)

theorem of_child? {role : Role} (unreserved : node.Unreserved) (names : node.kind.names role = true)
    (found : node.child? role = some child) : child.Unreserved := by
  cases unreserved with
  | mk _ inside _ =>
      obtain ⟨pair, isFound, rfl⟩ := Option.map_eq_some_iff.mp found
      have hasRole : pair.1 = role := by simpa using List.find?_some isFound
      exact inside pair (List.mem_of_find?_eq_some isFound) (by rwa [hasRole])

theorem kind_of_name {name : Node} (unreserved : node.Unreserved)
    (isDeclared : node.kind = .classDeclaration ∨ node.kind = .functionDeclaration)
    (found : node.child? .name = some name) : name.kind = .identifier := by
  cases unreserved with
  | mk _ _ declared =>
      obtain ⟨pair, isFound, rfl⟩ := Option.map_eq_some_iff.mp found
      exact declared isDeclared pair (List.mem_of_find?_eq_some isFound)
        (by simpa using List.find?_some isFound)

end Node.Unreserved

namespace Reader

variable {α : Type}

/-- No node that a reader gives names anything by a reserved word. -/
class GivesUnreserved (p : Reader Node) : Prop where
  unreserved : ∀ {c next : Cursor} {node : Node}, p c = .done node next → node.Unreserved

instance givesUnreserved_bind (p : Reader α) (f : α → Reader Node) [∀ a, GivesUnreserved (f a)] :
    GivesUnreserved (p >>= f) where
  unreserved done := by
    obtain ⟨a, middle, _, done⟩ := bind_eq_done.mp done
    exact GivesUnreserved.unreserved done

theorem unreserved_of_repeatUpTo {p : Reader Node} [GivesUnreserved p] {n : Nat} {c next : Cursor}
    {nodes : List Node} (done : repeatUpTo n p c = .done nodes next) :
    ∀ node ∈ nodes, node.Unreserved := by
  induction n generalizing c nodes with
  | zero =>
      cases done
      simp
  | succ n induction =>
      unfold repeatUpTo at done
      rcases orElse_eq_done done with done | ⟨_, done⟩
      · obtain ⟨first, middle, firstDone, done⟩ := bind_eq_done.mp done
        obtain ⟨more, last, moreDone, done⟩ := bind_eq_done.mp done
        cases done
        exact List.forall_mem_cons.mpr
          ⟨GivesUnreserved.unreserved firstDone, induction moreDone⟩
      · cases done
        simp

theorem unreserved_of_many {p : Reader Node} [GivesUnreserved p] {c next : Cursor}
    {nodes : List Node} (done : many p c = .done nodes next) : ∀ node ∈ nodes, node.Unreserved := by
  unfold many at done
  obtain ⟨_, _, _, done⟩ := bind_eq_done.mp done
  exact unreserved_of_repeatUpTo done

instance unreserved_val (node : { node : Node // node.Unreserved }) : Fact node.1.Unreserved :=
  ⟨node.2⟩

/-- What is read first may be a part of what is given. -/
instance (priority := low) givesUnreserved_bind_part (p : Reader Node) (f : Node → Reader Node)
    [GivesUnreserved p] [∀ node : { node : Node // node.Unreserved }, GivesUnreserved (f node.1)] :
    GivesUnreserved (p >>= f) where
  unreserved done := by
    obtain ⟨node, middle, first, done⟩ := bind_eq_done.mp done
    have part : GivesUnreserved (f node) :=
      inferInstanceAs (GivesUnreserved (f (⟨node, GivesUnreserved.unreserved first⟩ :
        { node : Node // node.Unreserved }).1))
    exact part.unreserved done

instance givesUnreserved_orElse (p q : Reader Node) [GivesUnreserved p] [GivesUnreserved q] :
    GivesUnreserved (p <|> q) where
  unreserved done := by
    rcases orElse_eq_done done with done | ⟨_, done⟩
    · exact GivesUnreserved.unreserved done
    · exact GivesUnreserved.unreserved done

instance givesUnreserved_ite (condition : Prop) [Decidable condition] (p q : Reader Node)
    [GivesUnreserved p] [GivesUnreserved q] :
    GivesUnreserved (if condition then p else q) := by
  split <;> infer_instance

instance givesUnreserved_refuse : GivesUnreserved refuse where
  unreserved done := by contradiction

instance holds_isNameless_ite {condition : Bool} {first second : Kind} [Holds first.isNameless]
    [Holds second.isNameless] : Holds (Kind.isNameless (if condition then first else second)) := by
  split <;> infer_instance

section Nodes

variable (start : Cursor) (kind : Kind) [Holds kind.isNameless] (text : String)
  (children : List (Role × Node))

instance givesUnreserved_node : GivesUnreserved (node kind start children) where
  unreserved done := by
    cases done
    exact .of_isNameless Holds.holds

instance givesUnreserved_leaf : GivesUnreserved (pure (.mk kind text children)) where
  unreserved done := by
    cases done
    exact .of_isNameless Holds.holds

end Nodes

instance givesUnreserved_pure (node : Node) [unreserved : Fact node.Unreserved] :
    GivesUnreserved (pure node) where
  unreserved done := by
    cases done
    exact unreserved.out

theorem binding_unreserved {c next : Cursor} {node : Node} (done : binding c = .done node next) :
    ∃ name, node = .mk .identifier name [] ∧ name ∉ reservedWords := by
  unfold binding at done
  obtain ⟨start, middle, _, done⟩ := bind_eq_done.mp done
  obtain ⟨name, after, _, done⟩ := bind_eq_done.mp done
  split at done
  · obtain ⟨_, _, _, stuck⟩ := bind_eq_done.mp done
    contradiction
  · rename_i unreserved
    cases done
    exact ⟨name, rfl, by simpa using unreserved⟩

instance givesUnreserved_binding : GivesUnreserved binding where
  unreserved done := by
    obtain ⟨name, rfl, unreserved⟩ := binding_unreserved done
    exact .identifier unreserved

instance givesUnreserved_missingName : GivesUnreserved missingName where
  unreserved done := by
    unfold missingName at done
    obtain ⟨_, _, _, same⟩ := bind_eq_done.mp done
    cases same
    exact .identifier (by decide)

instance givesUnreserved_privateName : GivesUnreserved privateName := by
  unfold privateName
  infer_instance

instance givesUnreserved_number : GivesUnreserved number := by
  unfold number
  infer_instance

instance givesUnreserved_string : GivesUnreserved string := by
  unfold string
  infer_instance

instance givesUnreserved_regex : GivesUnreserved regex := by
  unfold regex
  infer_instance

end Reader

/-- The readers of a grammar that whole statements consist of. -/
class Grammar.IsUnreserved (G : Grammar) : Prop where
  operation : ∀ level tail, GivesUnreserved (G.operation level tail)
  statement : GivesUnreserved G.statement
  element : GivesUnreserved G.element

namespace Grammar

variable (G : Grammar)

/-! ### Operands that name nothing -/

instance givesUnreserved_block : GivesUnreserved G.block := by
  unfold block
  infer_instance

instance givesUnreserved_parenthesized : GivesUnreserved G.parenthesized := by
  unfold parenthesized
  infer_instance

instance givesUnreserved_template (substitution : Reader Node) :
    GivesUnreserved (template substitution) := by
  unfold template
  infer_instance

instance givesUnreserved_destructuring : GivesUnreserved G.destructuring := by
  unfold destructuring objectPattern arrayPattern
  infer_instance

instance givesUnreserved_functionLiteral : GivesUnreserved G.functionLiteral := by
  unfold functionLiteral
  infer_instance

instance givesUnreserved_arrow (tail : Bool) : GivesUnreserved (G.arrow tail) := by
  unfold arrow arrowFrom
  infer_instance

instance givesUnreserved_objectLiteral : GivesUnreserved G.objectLiteral := by
  unfold objectLiteral
  infer_instance

instance givesUnreserved_arrayLiteral : GivesUnreserved G.arrayLiteral := by
  unfold arrayLiteral
  infer_instance

instance givesUnreserved_classLiteral : GivesUnreserved G.classLiteral := by
  unfold classLiteral classFrom
  simp only [Bool.false_eq_true, if_false]
  infer_instance

instance givesUnreserved_elementBody : GivesUnreserved G.elementBody := by
  unfold elementBody
  infer_instance

instance givesUnreserved_keywordNode (text : String) : GivesUnreserved (keywordNode text) := by
  unfold keywordNode
  infer_instance

instance givesUnreserved_importWord : GivesUnreserved importWord := by
  unfold importWord
  infer_instance

instance givesUnreserved_newExpression (operand : Reader Node) :
    GivesUnreserved (G.newExpression operand) := by
  unfold newExpression
  infer_instance

instance givesUnreserved_yieldExpression (tail : Bool) :
    GivesUnreserved (G.yieldExpression tail) := by
  unfold yieldExpression
  infer_instance

/-! ### Members and assignments -/

section Postfixes

variable (calls tail : Bool) (start : Cursor)

instance givesUnreserved_behindOperand (p : Reader Node) [GivesUnreserved p] :
    GivesUnreserved (G.behindOperand tail p) where
  unreserved done := by
    unfold behindOperand at done
    split at done
    · exact GivesUnreserved.unreserved done
    · contradiction

section Base

variable (base : Node) [ofBase : Fact base.Unreserved]

instance givesUnreserved_member (property : Node) :
    GivesUnreserved (node .member start [(.object, base), (.property, property)]) where
  unreserved done := by
    cases done
    exact .of_children (by decide) (by decide) (by simpa using ofBase.out)

instance givesUnreserved_postfixStep : GivesUnreserved (G.postfixStep calls start base) where
  unreserved done := by
    unfold postfixStep indexed called at done
    split at done
    case h_9 => contradiction
    case h_1 | h_3 => exact GivesUnreserved.unreserved done
    all_goals
      split at done
      · first
        | contradiction
        | exact GivesUnreserved.unreserved done
      · first
        | contradiction
        | exact GivesUnreserved.unreserved done

end Base

instance givesUnreserved_postfixes (n : Nat) (base : Node) [Fact base.Unreserved] :
    GivesUnreserved (G.postfixes calls tail start n base) := by
  induction n generalizing base with
  | zero =>
      unfold postfixes
      infer_instance
  | succ n induction =>
      unfold postfixes
      infer_instance

instance givesUnreserved_assignmentTo (target : Node) [ofTarget : Fact target.Unreserved] :
    GivesUnreserved (G.assignmentTo tail start target) where
  unreserved done := by
    unfold assignmentTo at done
    obtain ⟨plain, _, _, done⟩ := bind_eq_done.mp done
    obtain ⟨value, _, _, done⟩ := bind_eq_done.mp done
    split at done
    · cases done
      exact .of_children (by decide) (by decide) (by simpa using ofTarget.out)
    · cases done
      exact .of_isNameless rfl

instance givesUnreserved_patternAssignment : GivesUnreserved (G.patternAssignment tail) := by
  unfold patternAssignment
  infer_instance

instance givesUnreserved_updated (whole : Node) [Fact whole.Unreserved] :
    GivesUnreserved (operand.updated G tail start whole) := by
  unfold operand.updated
  infer_instance

end Postfixes

/-! ### Declarations -/

instance givesUnreserved_declaredTarget : GivesUnreserved G.declaredTarget := by
  unfold declaredTarget
  infer_instance

instance givesUnreserved_declarator (tail : Bool) : GivesUnreserved (G.declarator tail) where
  unreserved done := by
    unfold declarator at done
    obtain ⟨start, _, _, done⟩ := bind_eq_done.mp done
    obtain ⟨target, _, targetDone, done⟩ := bind_eq_done.mp done
    obtain ⟨_, _, _, done⟩ := bind_eq_done.mp done
    obtain ⟨value, _, _, done⟩ := bind_eq_done.mp done
    cases done
    have unreserved : target.Unreserved := GivesUnreserved.unreserved targetDone
    exact .of_children (by decide) (by decide) (by simpa using unreserved)

theorem unreserved_of_declarators {tail : Bool} {c next : Cursor} {items : List Node}
    (done : G.declarators tail c = .done items next) : ∀ item ∈ items, item.Unreserved := by
  unfold declarators at done
  obtain ⟨first, _, firstDone, done⟩ := bind_eq_done.mp done
  obtain ⟨more, _, moreDone, done⟩ := bind_eq_done.mp done
  cases done
  exact List.forall_mem_cons.mpr
    ⟨GivesUnreserved.unreserved firstDone, unreserved_of_many moreDone⟩

instance givesUnreserved_variableStatement : GivesUnreserved G.variableStatement where
  unreserved done := by
    unfold variableStatement at done
    obtain ⟨start, _, _, done⟩ := bind_eq_done.mp done
    obtain ⟨_, _, _, done⟩ := bind_eq_done.mp done
    obtain ⟨items, _, itemsDone, done⟩ := bind_eq_done.mp done
    obtain ⟨_, _, _, done⟩ := bind_eq_done.mp done
    cases done
    have unreserved := G.unreserved_of_declarators itemsDone
    exact .of_children (by decide) (by decide) (by simpa using unreserved)

theorem eq_of_mem_classChildren {decorators : List Node} {heritage : Option Node}
    {name body child : Node}
    (member : (.name, child) ∈ decorators.map (Role.part, ·) ++
      (some name).toList.map (Role.name, ·) ++ heritage.toList.map (Role.part, ·) ++
        [(Role.body, body)]) : child = name := by
  simpa using member

instance givesUnreserved_classFrom (start : Cursor) (decorators : List Node) :
    GivesUnreserved (G.classFrom true start decorators) where
  unreserved done := by
    unfold classFrom at done
    obtain ⟨_, _, _, done⟩ := bind_eq_done.mp done
    obtain ⟨named, _, namedDone, done⟩ := bind_eq_done.mp done
    obtain ⟨name, _, nameDone, same⟩ := bind_eq_done.mp namedDone
    cases same
    obtain ⟨_, _, _, done⟩ := bind_eq_done.mp done
    obtain ⟨heritage, _, _, done⟩ := bind_eq_done.mp done
    obtain ⟨body, _, _, done⟩ := bind_eq_done.mp done
    cases done
    obtain ⟨text, rfl, unreserved⟩ := binding_unreserved nameDone
    have isName : (Node.mk .identifier text []).Unreserved := .identifier unreserved
    refine .mk (by simp) ?_ ?_
    · rintro ⟨role, child⟩ member names
      obtain rfl : role = .name := by cases role <;> first | rfl | contradiction
      rw [eq_of_mem_classChildren member]
      exact isName
    · rintro _ ⟨role, child⟩ member rfl
      rw [eq_of_mem_classChildren member]
      rfl

instance givesUnreserved_classDeclaration : GivesUnreserved G.classDeclaration := by
  unfold classDeclaration
  infer_instance

instance givesUnreserved_functionDeclaration : GivesUnreserved G.functionDeclaration where
  unreserved done := by
    unfold functionDeclaration at done
    obtain ⟨start, _, _, done⟩ := bind_eq_done.mp done
    obtain ⟨_, _, _, done⟩ := bind_eq_done.mp done
    obtain ⟨name, _, nameDone, done⟩ := bind_eq_done.mp done
    obtain ⟨parameters, _, _, done⟩ := bind_eq_done.mp done
    obtain ⟨text, rfl, unreserved⟩ := binding_unreserved nameDone
    have isName : (Node.mk .identifier text []).Unreserved := .identifier unreserved
    rcases orElse_eq_done done with done | ⟨_, done⟩
    · obtain ⟨body, _, _, done⟩ := bind_eq_done.mp done
      cases done
      split
      · exact .of_isNameless rfl
      · exact .mk (by simp) (by simpa using isName) (by simp [Node.kind])
    · exact GivesUnreserved.unreserved done

instance givesUnreserved_enumeration : GivesUnreserved G.enumeration := by
  unfold enumeration
  infer_instance

instance givesUnreserved_interface : GivesUnreserved G.interface := by
  unfold interface
  infer_instance

instance givesUnreserved_typeAlias : GivesUnreserved G.typeAlias := by
  unfold typeAlias
  infer_instance

instance givesUnreserved_namespaceBody : GivesUnreserved G.namespaceBody := by
  unfold namespaceBody
  infer_instance

instance givesUnreserved_importAlias : GivesUnreserved G.importAlias := by
  unfold importAlias
  infer_instance

instance givesUnreserved_ambient (declaration : Reader Node) :
    GivesUnreserved (G.ambient declaration) := by
  unfold ambient
  infer_instance

instance givesUnreserved_plainDeclaration (word : String) :
    GivesUnreserved (G.plainDeclaration word) := by
  unfold plainDeclaration
  split
  case h_7 =>
    split
    · split <;> infer_instance
    · infer_instance
  all_goals infer_instance

instance givesUnreserved_declaration : GivesUnreserved G.declaration := by
  unfold declaration
  infer_instance

/-! ### Exports -/

theorem unreserved_of_exportDefault {c next : Cursor} {parts : List (Role × Node)}
    (done : G.exportDefault c = .done parts next) :
    ∀ inner, (.declaration, inner) ∈ parts → inner.Unreserved := by
  unfold exportDefault at done
  obtain ⟨word, _, wordDone, done⟩ := bind_eq_done.mp done
  obtain ⟨_, _, _, isWord⟩ := bind_eq_done.mp wordDone
  cases isWord
  rcases orElse_eq_done done with done | ⟨_, done⟩
  · obtain ⟨declared, _, declaredDone, done⟩ := bind_eq_done.mp done
    cases done
    have unreserved : declared.Unreserved := GivesUnreserved.unreserved declaredDone
    simpa using unreserved
  · obtain ⟨value, _, _, done⟩ := bind_eq_done.mp done
    obtain ⟨_, _, _, done⟩ := bind_eq_done.mp done
    cases done
    simp

theorem unreserved_of_exportTyped {c next : Cursor} {parts : List (Role × Node)}
    (done : G.exportTyped c = .done parts next) :
    ∀ inner, (.declaration, inner) ∈ parts → inner.Unreserved := by
  unfold exportTyped at done
  obtain ⟨_, _, _, done⟩ := bind_eq_done.mp done
  rcases orElse_eq_done done with done | ⟨_, done⟩
  · obtain ⟨_, _, _, done⟩ := bind_eq_done.mp done
    obtain ⟨value, _, _, done⟩ := bind_eq_done.mp done
    obtain ⟨_, _, _, done⟩ := bind_eq_done.mp done
    cases done
    simp
  · obtain ⟨_, _, _, done⟩ := bind_eq_done.mp done
    obtain ⟨_, _, _, done⟩ := bind_eq_done.mp done
    obtain ⟨_, _, _, done⟩ := bind_eq_done.mp done
    obtain ⟨_, _, _, done⟩ := bind_eq_done.mp done
    cases done
    simp

instance givesUnreserved_exportStatement : GivesUnreserved G.exportStatement where
  unreserved done := by
    unfold exportStatement at done
    obtain ⟨start, _, _, done⟩ := bind_eq_done.mp done
    obtain ⟨decorators, _, _, done⟩ := bind_eq_done.mp done
    obtain ⟨_, _, _, done⟩ := bind_eq_done.mp done
    obtain ⟨parts, _, partsDone, done⟩ := bind_eq_done.mp done
    cases done
    have declared : ∀ inner, (.declaration, inner) ∈ parts → inner.Unreserved := by
      rcases orElse_eq_done partsDone with partsDone | ⟨_, partsDone⟩
      · obtain ⟨_, _, _, partsDone⟩ := bind_eq_done.mp partsDone
        obtain ⟨_, _, _, partsDone⟩ := bind_eq_done.mp partsDone
        cases partsDone
        simp
      rcases orElse_eq_done partsDone with partsDone | ⟨_, partsDone⟩
      · exact G.unreserved_of_exportDefault partsDone
      rcases orElse_eq_done partsDone with partsDone | ⟨_, partsDone⟩
      · obtain ⟨inner, _, innerDone, partsDone⟩ := bind_eq_done.mp partsDone
        cases partsDone
        have unreserved : inner.Unreserved := GivesUnreserved.unreserved innerDone
        simpa using unreserved
      · exact G.unreserved_of_exportTyped partsDone
    refine .of_children (by decide) (by decide) ?_
    rintro ⟨role, child⟩ member names
    obtain rfl : role = .declaration := by cases role <;> first | rfl | contradiction
    exact declared child (by simpa using member)

/-! ### Expressions -/

variable [isUnreserved : G.IsUnreserved]

instance givesUnreserved_operation (level : Nat) (tail : Bool) :
    GivesUnreserved (G.operation level tail) :=
  isUnreserved.operation level tail

instance givesUnreserved_statement : GivesUnreserved G.statement :=
  isUnreserved.statement

instance givesUnreserved_element : GivesUnreserved G.element :=
  isUnreserved.element

instance givesUnreserved_sequence (tail : Bool) : GivesUnreserved (G.sequence tail) := by
  unfold sequence expression
  infer_instance

instance givesUnreserved_namedOperand (tail : Bool) (name : String) :
    GivesUnreserved (G.namedOperand tail name) := by
  unfold namedOperand
  split <;> infer_instance

instance givesUnreserved_primary (tail : Bool) : GivesUnreserved (G.primary tail) where
  unreserved done := by
    unfold primary at done
    dsimp only at done
    split at done
    case h_12 =>
      split at done
      · exact GivesUnreserved.unreserved done
      · exact GivesUnreserved.unreserved done
    all_goals exact GivesUnreserved.unreserved done

instance givesUnreserved_newUpTo (tail : Bool) (n : Nat) :
    GivesUnreserved (G.newUpTo (G.primary tail) n) where
  unreserved done := by
    cases n with
    | zero => exact GivesUnreserved.unreserved (p := G.primary tail) done
    | succ n =>
        unfold newUpTo at done
        split at done
        · exact GivesUnreserved.unreserved done
        · exact GivesUnreserved.unreserved done

instance givesUnreserved_operand (tail : Bool) : GivesUnreserved (G.operand tail) := by
  unfold operand
  infer_instance

instance givesUnreserved_unary (tail : Bool) : GivesUnreserved (G.unary tail) where
  unreserved done := by
    unfold unary at done
    dsimp only at done
    split at done
    case h_3 =>
      split at done
      · exact GivesUnreserved.unreserved done
      · split at done
        · exact GivesUnreserved.unreserved done
        · split at done
          · split at done <;> exact GivesUnreserved.unreserved done
          · exact GivesUnreserved.unreserved done
    all_goals exact GivesUnreserved.unreserved done

instance givesUnreserved_operationStep (level : Nat) (tail : Bool) (start : Cursor) (left : Node) :
    GivesUnreserved (G.operationStep level tail start left) where
  unreserved done := by
    unfold operationStep at done
    split at done
    · exact GivesUnreserved.unreserved done
    · split at done
      · exact GivesUnreserved.unreserved done
      · split at done
        · contradiction
        · exact GivesUnreserved.unreserved done

instance givesUnreserved_operationsFrom (level : Nat) (tail : Bool) (start : Cursor) (n : Nat)
    (left : Node) [Fact left.Unreserved] :
    GivesUnreserved (G.operationsFrom level tail start n left) := by
  induction n generalizing left with
  | zero =>
      unfold operationsFrom
      infer_instance
  | succ n induction =>
      unfold operationsFrom
      infer_instance

instance givesUnreserved_operationBody (level : Nat) (tail : Bool) :
    GivesUnreserved (G.operationBody level tail) := by
  unfold operationBody
  infer_instance

/-! ### Statements -/

instance givesUnreserved_expressionStatement : GivesUnreserved G.expressionStatement where
  unreserved done := by
    unfold expressionStatement at done
    obtain ⟨start, _, _, done⟩ := bind_eq_done.mp done
    obtain ⟨value, _, valueDone, done⟩ := bind_eq_done.mp done
    obtain ⟨_, _, _, done⟩ := bind_eq_done.mp done
    cases done
    have unreserved : value.Unreserved := GivesUnreserved.unreserved valueDone
    exact .of_children (by decide) (by decide) (by simpa using unreserved)

instance givesUnreserved_labeled : GivesUnreserved G.labeled := by
  unfold labeled
  infer_instance

instance givesUnreserved_branch : GivesUnreserved G.branch := by
  unfold branch
  infer_instance

instance givesUnreserved_forLoop : GivesUnreserved G.forLoop := by
  unfold forLoop
  infer_instance

instance givesUnreserved_guarded (word : String) : GivesUnreserved (G.guarded word) := by
  unfold guarded
  infer_instance

instance givesUnreserved_doLoop : GivesUnreserved G.doLoop := by
  unfold doLoop
  infer_instance

instance givesUnreserved_switchStatement : GivesUnreserved G.switchStatement := by
  unfold switchStatement
  infer_instance

instance givesUnreserved_tryStatement : GivesUnreserved G.tryStatement := by
  unfold tryStatement
  infer_instance

instance givesUnreserved_wordStatement (kind : Kind) [Holds kind.isNameless] (word : String)
    (value : Reader (Option Node)) : GivesUnreserved (G.wordStatement kind word value) := by
  unfold wordStatement
  infer_instance

instance givesUnreserved_importStatement : GivesUnreserved G.importStatement := by
  unfold importStatement
  infer_instance

instance givesUnreserved_markedStatement (word : String) :
    GivesUnreserved (G.markedStatement word) := by
  unfold markedStatement
  split <;> infer_instance

instance givesUnreserved_statementBody : GivesUnreserved G.statementBody where
  unreserved done := by
    unfold statementBody at done
    obtain ⟨place, _, _, done⟩ := bind_eq_done.mp done
    generalize place.rest = ahead at done
    split at done <;> exact GivesUnreserved.unreserved done

end Grammar

/-! ### Whole scripts -/

instance isUnreserved_grammar (dialect : Dialect) (n : Nat) :
    (grammar dialect n).IsUnreserved := by
  induction n with
  | zero =>
      exact {
        operation := fun _ _ => givesUnreserved_refuse
        statement := givesUnreserved_refuse
        element := givesUnreserved_refuse }
  | succ n induction =>
      exact {
        operation := (grammar dialect n).givesUnreserved_operationBody
        statement := (grammar dialect n).givesUnreserved_statementBody
        element := (grammar dialect n).givesUnreserved_elementBody }

namespace Module

variable {dialect : Dialect} {program : Node}

instance givesUnreserved_item (G : Grammar) [G.IsUnreserved] : GivesUnreserved (item G) where
  unreserved done := by
    unfold item at done
    dsimp only at done
    split at done
    · cases done
      exact .of_isNameless rfl
    · split at done
      · cases done
        exact .of_isNameless rfl
      · exact GivesUnreserved.unreserved done

theorem unreserved_of_readFrom {start : Cursor}
    (read : (readFrom dialect start).value? = some program) :
    ∀ statement ∈ program.childNodes, statement.Unreserved := by
  unfold readFrom at read
  cases done : whole (grammar dialect (4 * start.left + 16)) start with
  | stuck far =>
      rw [done] at read
      contradiction
  | done node next =>
      rw [done] at read
      cases read
      unfold whole at done
      obtain ⟨_, _, _, done⟩ := bind_eq_done.mp done
      obtain ⟨_, _, _, done⟩ := bind_eq_done.mp done
      obtain ⟨items, _, itemsDone, done⟩ := bind_eq_done.mp done
      obtain ⟨_, _, _, done⟩ := bind_eq_done.mp done
      cases done
      simpa [Node.childNodes, Node.children] using unreserved_of_many itemsDone

/-- No statement of a script that is read names anything by a reserved word. -/
theorem unreserved_of_read? {text : List Char} (read : read? dialect text = some program) :
    ∀ statement ∈ program.childNodes, statement.Unreserved := by
  unfold read? at read
  split at read
  · rename_i next done
    cases read
    exact unreserved_of_readFrom (by rw [done]; rfl)
  · unfold repaired? filled? at read
    obtain ⟨node, filled, kept⟩ := Option.bind_eq_some_iff.mp read
    obtain ⟨token, _, fromFiller⟩ := List.exists_of_findSome?_eq_some filled
    split at kept
    · contradiction
    · cases kept
      exact unreserved_of_readFrom fromFiller

end Module

end SnapshotGen.Script
