import SnapshotGen.Extraction.DeclaredTypes
import SnapshotGen.Proofs.Extraction.Variables
import SnapshotGen.Proofs.Script.Layout

/-!
Types of props in another layout. Marks and objects are found in each layout. A kind is known in
another layout just if nothing is added around the member that names it or to its namespace.
-/

namespace SnapshotGen.Extraction

open Script Script.Node

variable {value other expression : Node}

theorem splitRequired_relaid (relaid : Relaid value other) :
    (splitRequired other).2 = (splitRequired value).2 ∧
      Relaid (splitRequired value).1 (splitRequired other).1 := by
  obtain ⟨sameKind, inside⟩ := relaid.meetInside
  unfold splitRequired
  generalize value.unparenthesized = value at sameKind inside
  generalize other.unparenthesized = other at sameKind inside
  dsimp only
  by_cases isMember : value.kind = .member
  · have form := inside.form sameKind (by rw [isMember]; nofun)
    rw [sameKind, form.property_eq]
    split
    · rcases form.child? .object with
        ⟨none, otherNone⟩ | ⟨object, otherObject, isObject, isOther, _, relaid⟩
      · rw [none, otherNone]
        exact ⟨rfl, inside⟩
      · rw [isObject, isOther]
        exact ⟨rfl, relaid⟩
    · exact ⟨rfl, inside⟩
  · rw [sameKind, decide_eq_false isMember, Bool.false_and, Bool.false_and, if_neg nofun,
      if_neg nofun]
    exact ⟨rfl, inside⟩

/-- The member that names a type: an expression, or what it calls. -/
def typeMember? (expression : Node) : Option Node :=
  match expression.kind with
  | .member => some expression
  | .call => expression.child? .callee
  | _ => none

def kindOfTag? (kind : Kind) (tag : String) : Option PropKind :=
  if kind = .call then calledKind? tag else PropKind.ofTag? tag

theorem kindOf_eq (expression : Node) :
    kindOf expression =
      (((typeMember? expression).bind typeTag?).bind (kindOfTag? expression.kind)).getD
        .custom := by
  unfold kindOf typeMember?
  cases expression.kind <;> rfl

/-- An expression names its type as another one does: both are of one form, and nothing is added
around the member that names it or to its namespace. -/
structure KeepsTag (expression other : Node) : Prop where
  kind : other.kind = expression.kind
  member : (typeMember? other).map Node.kind = (typeMember? expression).map Node.kind
  scope : ((typeMember? other).bind (·.child? .object)).map Node.text =
    ((typeMember? expression).bind (·.child? .object)).map Node.text

theorem typeTag?_eq_some {member : Node} {tag : String} :
    typeTag? member = some tag ↔ member.kind = .member ∧
      ∃ object property, member.child? .object = some object ∧ object.text ∈ typeNamespaces ∧
        member.child? .property = some property ∧ property.text = tag := by
  unfold typeTag?
  by_cases isMember : member.kind = .member
  · simp [isMember, Option.bind_eq_some_iff]
  · simp [isMember]

/-- What names a type in another layout names it in the first one, and the same way. -/
theorem typeTag?_of_relaid {member otherMember : Node} {tag : String}
    (relaid : Relaid member otherMember) (found : typeTag? otherMember = some tag) :
    typeTag? member = some tag ∧ otherMember.kind = member.kind ∧
      (otherMember.child? .object).map Node.text = (member.child? .object).map Node.text := by
  obtain ⟨isMember, otherObject, property, isOther, inScope, isProperty, named⟩ :=
    typeTag?_eq_some.mp found
  have sameKind : otherMember.kind = member.kind := by
    cases relaid with
    | node => rfl
    | wrap => cases isMember
  have form := relaid.form sameKind (by rw [← sameKind, isMember]; nofun)
  rcases form.child? .object with
    ⟨_, otherNone⟩ | ⟨object, otherObject', isObject, isOther', _, inner⟩
  · cases isOther.symm.trans otherNone
  · cases isOther.symm.trans isOther'
    have letters : otherObject.text.toList <:+ "React.PropTypes".toList := by
      rcases List.mem_pair.mp inScope with same | same
      · have letters := congrArg (fun text => "React.".toList ++ text.toList) same
        exact ⟨"React.".toList, letters.trans rfl⟩
      · exact ⟨[], congrArg String.toList same⟩
    have sameText : otherObject.text = object.text :=
      inner.text_eq_of_letters fun c isLetter => letters.subset isLetter
    refine ⟨typeTag?_eq_some.mpr ⟨sameKind ▸ isMember, object, property, isObject, ?_, ?_, named⟩,
      sameKind, ?_⟩
    · exact sameText ▸ inScope
    · exact form.property_eq ▸ isProperty
    · rw [isOther, isObject, Option.map_some, Option.map_some, sameText]

theorem typeTag?_eq_of_scope {member otherMember : Node} (relaid : Relaid member otherMember)
    (sameKind : otherMember.kind = member.kind)
    (sameScope : (otherMember.child? .object).map Node.text =
      (member.child? .object).map Node.text) : typeTag? otherMember = typeTag? member := by
  by_cases isMember : member.kind = .member
  · have form := relaid.form sameKind (by rw [isMember]; nofun)
    unfold typeTag?
    rw [sameKind, form.property_eq]
    rcases form.child? .object with ⟨none, otherNone⟩ | ⟨object, otherObject, isObject, isOther, _⟩
    · rw [none, otherNone]
    · rw [isObject, isOther, Option.map_some, Option.map_some, Option.some.injEq] at sameScope
      rw [isObject, isOther]
      simp only [Option.bind_eq_bind, Option.bind_some, sameScope]
  · unfold typeTag?
    rw [sameKind, if_pos isMember, if_pos isMember]

theorem typeMember?_relaid (relaid : Relaid expression other)
    (sameKind : other.kind = expression.kind) :
    Option.Rel Relaid (typeMember? expression) (typeMember? other) := by
  unfold typeMember?
  rw [sameKind]
  split
  · exact .some relaid
  · rename_i isCall
    have form := relaid.form sameKind (by rw [isCall]; nofun)
    rcases form.child? .callee with
      ⟨none, otherNone⟩ | ⟨callee, otherCallee, isCallee, isOther, _, inner⟩
    · rw [none, otherNone]
      exact .none
    · rw [isCallee, isOther]
      exact .some inner
  · exact .none

theorem exists_typeTag?_of_kindOf_ne {expression : Node} (known : kindOf expression ≠ .custom) :
    ∃ member tag, typeMember? expression = some member ∧ typeTag? member = some tag := by
  rw [kindOf_eq] at known
  cases isMember : typeMember? expression with
  | none =>
      rw [isMember] at known
      exact absurd rfl known
  | some member =>
      cases isTag : typeTag? member with
      | none =>
          rw [isMember, Option.bind_some, isTag] at known
          exact absurd rfl known
      | some tag => exact ⟨member, tag, rfl, isTag⟩

/-- A kind that is known in another layout is that of the first one, and named the same way. -/
theorem kindOf_of_relaid (relaid : Relaid expression other) (known : kindOf other ≠ .custom) :
    kindOf other = kindOf expression ∧ KeepsTag expression other := by
  obtain ⟨otherMember, tag, isOther, isTag⟩ := exists_typeTag?_of_kindOf_ne known
  have sameKind : other.kind = expression.kind := by
    cases relaid with
    | node => rfl
    | wrap => cases isOther
  have members := typeMember?_relaid relaid sameKind
  rw [isOther] at members
  generalize isMember : typeMember? expression = found at members
  cases members with
  | @some member _ inner =>
      obtain ⟨isTagToo, sameMember, sameScope⟩ := typeTag?_of_relaid inner isTag
      refine ⟨?_, sameKind, ?_, ?_⟩
      · rw [kindOf_eq, kindOf_eq, isOther, isMember, Option.bind_some, Option.bind_some, isTag,
          isTagToo, sameKind]
      · rw [isOther, isMember, Option.map_some, Option.map_some, sameMember]
      · rw [isOther, isMember, Option.bind_some, Option.bind_some, sameScope]

theorem kindOf_eq_of_keepsTag (relaid : Relaid expression other)
    (keeps : KeepsTag expression other) : kindOf other = kindOf expression := by
  have members := typeMember?_relaid relaid keeps.kind
  have sameMember := keeps.member
  have sameScope := keeps.scope
  rw [kindOf_eq, kindOf_eq, keeps.kind]
  generalize typeMember? expression = found at members sameMember sameScope ⊢
  generalize typeMember? other = otherFound at members sameMember sameScope ⊢
  cases members with
  | none => rfl
  | some inner =>
      rw [Option.bind_some, Option.bind_some, typeTag?_eq_of_scope inner
        (Option.some.inj sameMember) sameScope]

theorem kindOf_eq_iff (relaid : Relaid expression other) :
    kindOf other = kindOf expression ↔ kindOf expression = .custom ∨ KeepsTag expression other := by
  constructor
  · intro same
    by_cases unknown : kindOf expression = .custom
    · exact .inl unknown
    · exact .inr (kindOf_of_relaid relaid (same ▸ unknown)).2
  · rintro (unknown | keeps)
    · by_contra differ
      exact differ (kindOf_of_relaid relaid (unknown ▸ differ)).1
    · exact kindOf_eq_of_keepsTag relaid keeps

def BoundAlike (bound other : String × Node) : Prop :=
  other.1 = bound.1 ∧ Relaid bound.2 other.2

theorem boundValue?_relaid (form : Relaid.Form expression other) :
    Option.Rel BoundAlike (boundValue? expression) (boundValue? other) := by
  unfold boundValue?
  rcases form.child? .name with ⟨none, otherNone⟩ | ⟨name, otherName, isName, isOther, keeps, named⟩
  · rw [none, otherNone]
    exact .none
  · rw [isName, isOther]
    rcases form.child? .value with
      ⟨none, otherNone⟩ | ⟨value, otherValue, isValue, isOther, _, relaid⟩
    · rw [none, otherNone]
      exact .none
    · rw [isValue, isOther]
      dsimp only
      have sameKind : otherName.kind = name.kind := keeps.name rfl
      rw [sameKind]
      split
      · rename_i isIdentifier
        have nameForm := named.form sameKind (by rw [isIdentifier]; nofun)
        exact .some ⟨nameForm.token (by rw [isIdentifier]; rfl), relaid⟩
      · exact .none

theorem declaredVariables_relaid (relaid : Relaid expression other) :
    List.Forall₂ BoundAlike (declaredVariables expression) (declaredVariables other) := by
  unfold declaredVariables
  by_cases isVariables : expression.kind = .variableDeclaration
  · have sameKind := relaid.kind_eq (by rw [isVariables]; rfl)
    have form := relaid.form sameKind (by rw [isVariables]; nofun)
    rw [if_pos isVariables, if_pos (sameKind.trans isVariables), List.filterMap_filter,
      List.filterMap_filter]
    refine List.rel_filterMap (fun declarator other relaid => ?_) form.childNodes
    simp only [beq_iff_eq]
    by_cases isDeclarator : declarator.kind = .declarator
    · have sameKind := relaid.kind_eq (by rw [isDeclarator]; rfl)
      rw [if_pos isDeclarator, if_pos (sameKind.trans isDeclarator)]
      exact boundValue?_relaid (relaid.form sameKind (by rw [isDeclarator]; nofun))
    · rw [if_neg isDeclarator, if_neg ((relaid.kind_iff rfl).not.mpr isDeclarator)]
      exact .none
  · rw [if_neg isVariables, if_neg ((relaid.kind_iff rfl).not.mpr isVariables)]
    exact .nil

theorem variablesOf_relaid (relaid : Relaid expression other) :
    List.Forall₂ BoundAlike (variablesOf expression) (variablesOf other) := by
  unfold variablesOf declaration?
  by_cases isExport : expression.kind = .export
  · have sameKind := relaid.kind_eq (by rw [isExport]; rfl)
    have form := relaid.form sameKind (by rw [isExport]; nofun)
    rw [if_pos isExport, if_pos (sameKind.trans isExport)]
    rcases form.child? .declaration with ⟨none, otherNone⟩ | ⟨_, _, isDeclared, isOther, _, relaid⟩
    · rw [none, otherNone]
      exact .nil
    · rw [isDeclared, isOther, Option.toList_some, Option.toList_some, List.flatMap_singleton,
        List.flatMap_singleton]
      exact declaredVariables_relaid relaid
  · rw [if_neg isExport, if_neg ((relaid.kind_iff rfl).not.mpr isExport), Option.toList_some,
      Option.toList_some, List.flatMap_singleton, List.flatMap_singleton]
    exact declaredVariables_relaid relaid

def BindingsRelaid (survey otherSurvey : Survey) : Prop :=
  ∀ name, Option.Rel Relaid (survey.binding? name) (otherSurvey.binding? name)

theorem bindingsRelaid_of_bindings {survey otherSurvey : Survey}
    (bindings : List.Forall₂ BoundAlike survey.bindings otherSurvey.bindings) :
    BindingsRelaid survey otherSurvey := by
  intro name
  unfold Survey.binding?
  have reversed := List.forall₂_reverse_iff.mpr bindings
  generalize survey.bindings.reverse = bindings at reversed
  generalize otherSurvey.bindings.reverse = otherBindings at reversed
  induction reversed with
  | nil => exact .none
  | @cons bound other more others alike _ induction =>
      obtain ⟨boundName, value⟩ := bound
      obtain ⟨otherName, otherValue⟩ := other
      obtain ⟨rfl, relaid⟩ := alike
      by_cases isName : otherName = name
      · simpa [isName] using Option.Rel.some relaid
      · simpa [List.find?_cons, isName] using induction

theorem bindingsRelaid_ofProgram {program otherProgram : Node} (isProgram : program.kind = .program)
    (relaid : Relaid program otherProgram) :
    BindingsRelaid (Survey.ofProgram program) (Survey.ofProgram otherProgram) := by
  apply bindingsRelaid_of_bindings
  have sameKind := relaid.kind_eq (by rw [isProgram]; rfl)
  have form := relaid.form sameKind (by rw [isProgram]; nofun)
  rw [Survey.bindings_ofProgram, Survey.bindings_ofProgram]
  exact List.rel_flatMap form.childNodes fun _ _ relaid => variablesOf_relaid relaid

structure ObjectsRelaid (object other : Node) : Prop where
  isObject : object.kind = .object
  isObjectToo : other.kind = .object
  relaid : Relaid object other

theorem ObjectsRelaid.members {object other : Node} (objects : ObjectsRelaid object other) :
    List.Forall₂ Relaid object.childNodes other.childNodes := by
  have sameKind := objects.isObjectToo.trans objects.isObject.symm
  exact (objects.relaid.form sameKind (by rw [objects.isObject]; nofun)).childNodes

variable {survey otherSurvey : Survey}

theorem objectWithin?_relaid (bindings : BindingsRelaid survey otherSurvey) (limit : Nat)
    (relaid : Relaid value other) :
    Option.Rel ObjectsRelaid (survey.objectWithin? limit value)
      (otherSurvey.objectWithin? limit other) := by
  induction limit generalizing value other with
  | zero =>
      obtain ⟨sameKind, inside⟩ := relaid.meetInside
      unfold Survey.objectWithin?
      dsimp only
      rw [sameKind]
      split
      · rename_i isObject
        exact .some ⟨isObject, sameKind.trans isObject, inside⟩
      · contradiction
      · exact .none
  | succ limit induction =>
      obtain ⟨sameKind, inside⟩ := relaid.meetInside
      unfold Survey.objectWithin?
      dsimp only
      rw [sameKind]
      split
      · rename_i isObject
        exact .some ⟨isObject, sameKind.trans isObject, inside⟩
      · rename_i n isName sameLimit
        cases sameLimit
        have form := inside.form sameKind (by rw [isName]; nofun)
        rw [form.token (by rw [isName]; rfl)]
        have values := bindings value.unparenthesized.text
        generalize survey.binding? value.unparenthesized.text = found at values
        generalize otherSurvey.binding? value.unparenthesized.text = otherFound at values
        cases values with
        | none => exact .none
        | some relaid => exact induction relaid
      · exact .none

theorem object?_relaid (bindings : BindingsRelaid survey otherSurvey)
    (relaid : Relaid value other) :
    Option.Rel ObjectsRelaid (survey.object? value) (otherSurvey.object? other) :=
  objectWithin?_relaid bindings _ relaid

theorem givenArguments_relaid (form : Relaid.Form expression other) :
    List.Forall₂ Relaid expression.givenArguments other.givenArguments := by
  unfold givenArguments
  rcases form.child? .arguments with
    ⟨none, otherNone⟩ | ⟨given, otherGiven, isGiven, isOther, _, relaid⟩
  · rw [none, otherNone]
    exact .nil
  · rw [isGiven, isOther]
    dsimp only
    by_cases isArguments : given.kind = .arguments
    · have sameKind := relaid.kind_eq (by rw [isArguments]; rfl)
      have inner := relaid.form sameKind (by rw [isArguments]; nofun)
      rw [if_pos isArguments, if_pos (sameKind.trans isArguments)]
      exact List.rel_filter (fun _ _ relaid => by simp [relaid.isPart_eq]) inner.childNodes
    · rw [if_neg isArguments, if_neg ((relaid.kind_iff rfl).not.mpr isArguments)]
      exact .nil

/-- Where the kind is the same, so are the fields of a shape, in another layout. -/
theorem fieldsObject?_relaid (bindings : BindingsRelaid survey otherSurvey)
    (relaid : Relaid expression other) (sameKind : kindOf other = kindOf expression) :
    Option.Rel ObjectsRelaid (fieldsObject? survey expression)
      (fieldsObject? otherSurvey other) := by
  unfold fieldsObject?
  rw [sameKind]
  by_cases isShape : kindOf expression = .shape ∨ kindOf expression = .exact
  · have known : kindOf other ≠ .custom := by
      rw [sameKind]
      rcases isShape with isShape | isExact
      · rw [isShape]
        nofun
      · rw [isExact]
        nofun
    have keeps := (kindOf_of_relaid relaid known).2
    rw [keeps.kind]
    split
    · rename_i isCall
      have isCall : expression.kind = .call := by simpa using (Bool.and_eq_true_iff.mp isCall).1
      have given := givenArguments_relaid (relaid.form keeps.kind (by rw [isCall]; nofun))
      generalize expression.givenArguments = arguments at given
      generalize other.givenArguments = otherArguments at given
      cases given with
      | nil => exact .none
      | cons first _ => exact object?_relaid bindings first
    · exact .none
  · have noShape : (decide (kindOf expression = .shape) || decide (kindOf expression = .exact)) =
        false := by
      simpa using isShape
    rw [noShape, Bool.and_false, Bool.and_false]
    exact .none

/-- Where fields are read in another layout, the kind is that of the first one. -/
theorem kindOf_eq_of_fieldsObject? (relaid : Relaid expression other)
    (isRead : (fieldsObject? otherSurvey other).isSome) : kindOf other = kindOf expression := by
  apply (kindOf_of_relaid relaid ?_).1
  intro unknown
  simp [fieldsObject?, unknown] at isRead

end SnapshotGen.Extraction
