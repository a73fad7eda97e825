import Mathlib.Data.List.Forall2
import SnapshotGen.Proofs.Script.Blanks
import SnapshotGen.Proofs.Script.Parts

/-!
Trees of one text in two layouts: between the tokens of one of them more blanks and comments stand,
and parentheses around more of its expressions.
-/

namespace SnapshotGen.Script

/-- Blanks, comments and parentheses stand between characters of a text. -/
inductive Widened : List Char → List Char → Prop
  | nil : Widened [] []
  | keep (c : Char) {cs wide : List Char} (widened : Widened cs wide) :
      Widened (c :: cs) (c :: wide)
  | layout {piece cs wide : List Char} (isLayout : tokens piece = []) (notEmpty : piece ≠ [])
      (widened : Widened cs wide) : Widened cs (piece ++ wide)
  | parenthesis {c : Char} {cs wide : List Char} (isParenthesis : c = '(' ∨ c = ')')
      (widened : Widened cs wide) : Widened cs (c :: wide)

namespace Widened

theorem refl : (cs : List Char) → Widened cs cs
  | [] => .nil
  | c :: cs => .keep c (refl cs)

theorem tokens_cons_of_plain {c : Char} (noSpace : isSpace c = false)
    (noComment : c ≠ '/' ∧ c ≠ '<' ∧ c ≠ '-') (rest : List Char) :
    tokens (c :: rest) = c :: rest := by
  obtain ⟨noSlash, noAngle, noDash⟩ := noComment
  have unit : triviaUnit true (c :: rest) = 0 := by
    simp [triviaUnit, noSpace, commentLength?, markupCommentLength?, noSlash, noAngle, noDash]
  rw [tokens, triviaLength_of_unit_zero unit, List.drop_zero]

/-- Dots and letters of a namespace are neither blanks nor where comments begin. -/
theorem tokens_cons_of_letter {c : Char} (isLetter : c ∈ "React.PropTypes".toList)
    (rest : List Char) : tokens (c :: rest) = c :: rest := by
  have plain : ("React.PropTypes".toList.all fun c =>
      !isSpace c && c != '/' && c != '<' && c != '-') = true := by
    decide
  have isPlain := List.all_eq_true.mp plain c isLetter
  simp only [Bool.and_eq_true, Bool.not_eq_true', bne_iff_ne] at isPlain
  obtain ⟨⟨⟨noSpace, noSlash⟩, noAngle⟩, noDash⟩ := isPlain
  exact tokens_cons_of_plain noSpace ⟨noSlash, noAngle, noDash⟩ rest

/-- Nothing stands between letters that have nothing else between them. -/
theorem eq_of_letters {cs wide : List Char} (widened : Widened cs wide)
    (letters : ∀ c ∈ wide, c ∈ "React.PropTypes".toList) : wide = cs := by
  induction widened with
  | nil => rfl
  | keep c widened induction =>
      rw [induction fun d member => letters d (.tail _ member)]
  | @layout piece cs wide isLayout notEmpty widened induction =>
      cases piece with
      | nil => contradiction
      | cons c rest =>
          rw [tokens_cons_of_letter (letters c (.head _))] at isLayout
          cases isLayout
  | parenthesis isParenthesis widened induction =>
      have isLetter := letters _ (.head _)
      rcases isParenthesis with rfl | rfl
      · exact absurd isLetter (by decide)
      · exact absurd isLetter (by decide)

end Widened

namespace Widened

theorem append {cs wide more moreWide : List Char} (widened : Widened cs wide)
    (widenedMore : Widened more moreWide) : Widened (cs ++ more) (wide ++ moreWide) := by
  induction widened with
  | nil => exact widenedMore
  | keep c _ induction => exact .keep c induction
  | layout isLayout notEmpty _ induction =>
      rw [List.append_assoc]
      exact .layout isLayout notEmpty induction
  | parenthesis isParenthesis _ induction => exact .parenthesis isParenthesis induction

theorem layout_append {piece cs wide : List Char} (isLayout : tokens piece = [])
    (widened : Widened cs wide) : Widened cs (piece ++ wide) := by
  cases piece with
  | nil => exact widened
  | cons => exact .layout isLayout nofun widened

end Widened

namespace Kind

/-- Kinds of tokens that are nodes. -/
def isToken : Kind → Bool
  | identifier | privateName | number | string | shorthand | keyword => true
  | _ => false

def isExpression : Kind → Bool
  | identifier | number | string | parenthesized | member | subscript | asserted | call | assignment
  | arrow | functionExpression | classExpression | object | element | other => true
  | _ => false

end Kind

/-- A child in another layout keeps its place. Around a key or a name that is declared there are
no parentheses, and the name behind a dot is one token. -/
structure KeepsPlace (child other : Role × Node) : Prop where
  role : other.1 = child.1
  key : child.1 = .key → other.2.kind = child.2.kind
  name : child.1 = .name → other.2.kind = child.2.kind
  property : child.1 = .property → other.2 = child.2

/-- A node and the same node in another layout. -/
inductive Relaid : Node → Node → Prop
  | node {kind : Kind} {text wide : String} {children others : List (Role × Node)}
      (keepsToken : kind.isToken → wide = text) (widened : Widened text.toList wide.toList)
      (sameLength : children.length = others.length)
      (keepsPlaces : ∀ child other, (child, other) ∈ children.zip others → KeepsPlace child other)
      (relaid : ∀ child other, (child, other) ∈ children.zip others → Relaid child.2 other.2) :
      Relaid (.mk kind text children) (.mk kind wide others)
  | wrap {node other : Node} (front back : String) (isExpression : node.kind.isExpression)
      (frontIsLayout : tokens front.toList = []) (backIsLayout : tokens back.toList = [])
      (relaid : Relaid node other) :
      Relaid node (.mk .parenthesized ("(" ++ front ++ other.text ++ back ++ ")") [(.part, other)])

namespace Relaid

open Node

variable {node other : Node}

mutual

theorem refl : (node : Node) → Relaid node node
  | .mk kind text children => by
      refine .node (fun _ => rfl) (.refl _) rfl ?_ fun child other isPair =>
        (refl_children children child other isPair).2
      intro child other isPair
      obtain ⟨rfl, _⟩ := refl_children children child other isPair
      exact ⟨rfl, fun _ => rfl, fun _ => rfl, fun _ => rfl⟩

theorem refl_children : (children : List (Role × Node)) → ∀ child other,
    (child, other) ∈ children.zip children → other = child ∧ Relaid child.2 other.2
  | [], _, _, isPair => by cases isPair
  | (role, first) :: more, child, other, isPair => by
      rw [List.zip_cons_cons, List.mem_cons] at isPair
      rcases isPair with same | isPair
      · cases same
        exact ⟨rfl, refl first⟩
      · exact refl_children more child other isPair

end

theorem widened (relaid : Relaid node other) : Widened node.text.toList other.text.toList := by
  induction relaid with
  | node _ widened => exact widened
  | wrap front back _ frontIsLayout backIsLayout _ induction =>
      have closed : Widened [] (back.toList ++ [')']) :=
        .layout_append backIsLayout (.parenthesis (.inr rfl) .nil)
      have wrapped := (induction.append closed).layout_append frontIsLayout
      rw [List.append_nil] at wrapped
      simpa [text] using Widened.parenthesis (.inl rfl) wrapped

/-- Another layout of one part of a node, which is neither a key nor a name, is another layout of
the node. -/
theorem inPlace {kind : Kind} {text wide : String} {role : Role} {part otherPart : Node}
    (before after : List (Role × Node)) (noToken : kind.isToken = false)
    (widened : Widened text.toList wide.toList)
    (free : role ≠ .key ∧ role ≠ .name ∧ role ≠ .property) (relaid : Relaid part otherPart) :
    Relaid (.mk kind text (before ++ (role, part) :: after))
      (.mk kind wide (before ++ (role, otherPart) :: after)) := by
  have facing {child other : Role × Node}
      (isPair : (child, other) ∈ (before ++ (role, part) :: after).zip
        (before ++ (role, otherPart) :: after)) :
      (other = child ∧ Relaid child.2 other.2) ∨
        child = (role, part) ∧ other = (role, otherPart) := by
    rw [List.zip_append rfl, List.zip_cons_cons, List.mem_append, List.mem_cons] at isPair
    rcases isPair with inFront | same | behind
    · exact .inl (refl_children before child other inFront)
    · cases same
      exact .inr ⟨rfl, rfl⟩
    · exact .inl (refl_children after child other behind)
  refine .node (fun isToken => ?_) widened (by simp) (fun child other isPair => ?_)
    fun child other isPair => ?_
  · rw [noToken] at isToken
    cases isToken
  · rcases facing isPair with ⟨rfl, _⟩ | ⟨rfl, rfl⟩
    · exact ⟨rfl, fun _ => rfl, fun _ => rfl, fun _ => rfl⟩
    · exact ⟨rfl, fun same => absurd same free.1, fun same => absurd same free.2.1,
        fun same => absurd same free.2.2⟩
  · rcases facing isPair with ⟨_, relaid⟩ | ⟨rfl, rfl⟩
    · exact relaid
    · exact relaid

/-- Parentheses are all that is added. -/
theorem count_eq {kind : Kind} (relaid : Relaid node other)
    (notParenthesized : kind ≠ .parenthesized) : other.count kind = node.count kind := by
  induction relaid with
  | @node own text wide children others _ _ sameLength _ _ induction =>
      rw [count, count]
      apply congrArg
      clear * - sameLength induction
      induction children generalizing others with
      | nil =>
          cases others with
          | nil => rfl
          | cons => cases sameLength
      | cons child more inMore =>
          cases others with
          | nil => cases sameLength
          | cons other moreOthers =>
              rw [countChildren, countChildren, induction child other (.head _)]
              apply congrArg
              exact inMore (Nat.succ.inj sameLength) fun child other isPair =>
                induction child other (.tail _ isPair)
  | wrap front back _ _ _ _ induction =>
      rw [count, if_neg notParenthesized.symm, countChildren, countChildren, induction]
      rw [Nat.zero_add, Nat.add_zero]

/-- What is known of two nodes of one kind. -/
structure Form (node other : Node) : Prop where
  token : node.kind.isToken → other.text = node.text
  children : List.Forall₂ (fun child other => KeepsPlace child other ∧ Relaid child.2 other.2)
    node.children other.children

theorem form (relaid : Relaid node other) (sameKind : other.kind = node.kind)
    (plain : node.kind ≠ .parenthesized) : Form node other := by
  cases relaid with
  | node keepsToken widened sameLength keepsPlaces relaid =>
      refine ⟨keepsToken, List.forall₂_iff_zip.mpr ⟨sameLength, ?_⟩⟩
      exact fun isPair => ⟨keepsPlaces _ _ isPair, relaid _ _ isPair⟩
  | wrap => exact absurd sameKind.symm plain

theorem kind_eq (relaid : Relaid node other) (noExpression : node.kind.isExpression = false) :
    other.kind = node.kind := by
  cases relaid with
  | node => rfl
  | wrap front back isExpression =>
      rw [noExpression] at isExpression
      cases isExpression

/-- What is no expression is what it was, in each layout. -/
theorem kind_iff {kind : Kind} (relaid : Relaid node other)
    (noExpression : kind.isExpression = false) : other.kind = kind ↔ node.kind = kind := by
  cases relaid with
  | node => rfl
  | wrap front back isExpression =>
      constructor
      · rintro rfl
        cases noExpression
      · rintro rfl
        rw [noExpression] at isExpression
        cases isExpression

theorem isPart_of_isExpression (isExpression : node.kind.isExpression) : node.isPart = true := by
  unfold Node.isPart
  generalize node.kind = kind at isExpression
  cases kind <;> first | rfl | cases isExpression

theorem isPart_eq (relaid : Relaid node other) : other.isPart = node.isPart := by
  cases relaid with
  | node => rfl
  | wrap front back isExpression => exact (isPart_of_isExpression isExpression).symm

theorem Form.child? (form : Form node other) (role : Role) :
    (node.child? role = none ∧ other.child? role = none) ∨
      ∃ child otherChild, node.child? role = some child ∧ other.child? role = some otherChild ∧
        KeepsPlace (role, child) (role, otherChild) ∧ Relaid child otherChild := by
  have children := form.children
  unfold Node.child?
  generalize node.children = ownChildren at children
  generalize other.children = otherChildren at children
  induction children with
  | nil => exact .inl ⟨rfl, rfl⟩
  | @cons child otherChild more others isPair _ induction =>
      obtain ⟨role', node'⟩ := child
      obtain ⟨otherRole, otherNode⟩ := otherChild
      obtain ⟨keepsPlace, relaid⟩ := isPair
      obtain rfl : otherRole = role' := keepsPlace.role
      by_cases same : otherRole = role
      · subst same
        exact .inr ⟨node', otherNode, by simp, by simp, keepsPlace, relaid⟩
      · simpa [List.find?_cons, same] using induction

theorem Form.childNodes (form : Form node other) :
    List.Forall₂ Relaid node.childNodes other.childNodes := by
  rw [Node.childNodes, Node.childNodes, List.forall₂_map_left_iff, List.forall₂_map_right_iff]
  exact form.children.imp fun _ _ isPair => isPair.2

/-- Inside all parentheses a node and the same node in another layout have one kind. -/
def MeetInside (node other : Node) : Prop :=
  other.unparenthesized.kind = node.unparenthesized.kind ∧
    Relaid node.unparenthesized other.unparenthesized

theorem meet_inside {children others : List (Role × Node)} {whole otherWhole : Node}
    (parts : List.Forall₂ (fun child other => Relaid child.2 other.2 ∧ MeetInside child.2 other.2)
      children others) (sameKind : otherWhole.kind = whole.kind)
    (relaid : Relaid whole otherWhole) :
    (unparenthesized.inside others otherWhole).kind =
        (unparenthesized.inside children whole).kind ∧
      Relaid (unparenthesized.inside children whole)
        (unparenthesized.inside others otherWhole) := by
  induction parts with
  | nil => exact ⟨sameKind, relaid⟩
  | @cons child other more others isPair _ induction =>
      rw [unparenthesized.inside, unparenthesized.inside, isPair.1.isPart_eq]
      split
      · exact isPair.2
      · exact induction

theorem meetInside (relaid : Relaid node other) : MeetInside node other := by
  induction relaid with
  | @node kind text wide children others keepsToken widened sameLength keepsPlaces relaid
      induction =>
      have whole : Relaid (.mk kind text children) (.mk kind wide others) :=
        .node keepsToken widened sameLength keepsPlaces relaid
      by_cases isParenthesized : kind = .parenthesized
      · subst isParenthesized
        rw [MeetInside, unparenthesized, unparenthesized]
        refine meet_inside (List.forall₂_iff_zip.mpr ⟨sameLength, ?_⟩) rfl whole
        exact fun isPair => ⟨relaid _ _ isPair, induction _ _ isPair⟩
      · have plain : (Node.mk kind text children).kind ≠ .parenthesized := isParenthesized
        have plainToo : (Node.mk kind wide others).kind ≠ .parenthesized := isParenthesized
        rw [MeetInside, unparenthesized_of_kind_ne plain, unparenthesized_of_kind_ne plainToo]
        exact ⟨rfl, whole⟩
  | @wrap node other front back isExpression _ _ relaid induction =>
      rw [MeetInside, unparenthesized, unparenthesized.inside, relaid.isPart_eq,
        if_pos (isPart_of_isExpression isExpression)]
      exact induction

theorem Form.property_eq (form : Form node other) :
    other.child? .property = node.child? .property := by
  rcases form.child? .property with
    ⟨none, otherNone⟩ | ⟨child, otherChild, isChild, isOther, keeps, _⟩
  · rw [none, otherNone]
  · have same : otherChild = child := keeps.property rfl
    rw [isChild, isOther, same]

/-- A text that is all letters of a namespace has nothing added to it. -/
theorem text_eq_of_letters (relaid : Relaid node other)
    (letters : ∀ c ∈ other.text.toList, c ∈ "React.PropTypes".toList) : other.text = node.text := by
  cases relaid with
  | node _ widened => exact String.toList_inj.mp (widened.eq_of_letters letters)
  | wrap front back =>
      have opens := letters '(' (by simp [text])
      exact absurd opens (by decide)

end Relaid

end SnapshotGen.Script
