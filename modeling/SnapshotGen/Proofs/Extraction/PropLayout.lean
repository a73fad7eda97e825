import SnapshotGen.Extraction.Extract
import SnapshotGen.Proofs.Extraction.TypeLayout
import SnapshotGen.Proofs.Script.Equality

/-!
Props in another layout: what a member of a `propTypes` object declares, at any depth of its type,
is the same just if each known kind is named the same way.
-/

namespace SnapshotGen.PropDecl

mutual

/-- A prop without the texts it was written as: its name, its kind, whether it is required, and the
same of the fields of a shape. -/
def withoutTexts : PropDecl → PropDecl
  | ⟨name, some ⟨kind, _, some fields⟩, required, _⟩ =>
    ⟨name, some ⟨kind, none, some (allWithoutTexts fields)⟩, required, none⟩
  | ⟨name, some ⟨kind, _, none⟩, required, _⟩ => ⟨name, some ⟨kind, none, none⟩, required, none⟩
  | ⟨name, none, required, _⟩ => ⟨name, none, required, none⟩

def allWithoutTexts : List PropDecl → List PropDecl
  | [] => []
  | field :: more => field.withoutTexts :: allWithoutTexts more

end

theorem allWithoutTexts_eq_map (fields : List PropDecl) :
    allWithoutTexts fields = fields.map withoutTexts := by
  induction fields with
  | nil => rfl
  | cons field fields induction => rw [allWithoutTexts, induction, List.map_cons]

end SnapshotGen.PropDecl

namespace SnapshotGen.Extraction

open Script Script.Node

variable {value other : Node} {survey otherSurvey : Survey} {name : String}

/-- Props of two layouts: the same names and marks, and the same kinds and fields just if layout
keeps them. -/
structure PropsAlike (props others : List PropDecl) (keeps : Prop) : Prop where
  names : others.map PropDecl.name = props.map PropDecl.name
  required : others.map PropDecl.required = props.map PropDecl.required
  withoutTexts : others.map PropDecl.withoutTexts = props.map PropDecl.withoutTexts ↔ keeps

theorem PropsAlike.append {props others more otherMore : List PropDecl} {keeps keepsMore : Prop}
    (first : PropsAlike props others keeps) (second : PropsAlike more otherMore keepsMore) :
    PropsAlike (props ++ more) (others ++ otherMore) (keeps ∧ keepsMore) where
  names := by rw [List.map_append, List.map_append, first.names, second.names]
  required := by rw [List.map_append, List.map_append, first.required, second.required]
  withoutTexts := by
    have sameLength : (others.map PropDecl.withoutTexts).length =
        (props.map PropDecl.withoutTexts).length := by
      simpa using congrArg List.length first.names
    rw [List.map_append, List.map_append, ← first.withoutTexts, ← second.withoutTexts]
    exact List.append_eq_append_iff_of_size_eq_left sameLength

def ReadAlike (read otherRead : Option (List Declared)) (keeps : Prop) : Prop :=
  ∀ declared, read = some declared → ∃ otherDeclared, otherRead = some otherDeclared ∧
    PropsAlike (declared.filterMap Declared.prop?) (otherDeclared.filterMap Declared.prop?) keeps

/-- Types that face each other in two layouts of a type: the types themselves, and those of the
fields of shapes. -/
inductive Facing (survey otherSurvey : Survey) : Node → Node → Node → Node → Prop
  | self (value other : Node) : Facing survey otherSurvey value other value other
  | field {value other object otherObject member otherMember : Node} {name : String}
      {field otherField inner otherInner : Node}
      (isShape : fieldsObject? survey (splitRequired value).1 = some object)
      (isShapeToo : fieldsObject? otherSurvey (splitRequired other).1 = some otherObject)
      (facingMembers : (member, otherMember) ∈ object.childNodes.zip otherObject.childNodes)
      (isPair : member.kind = .pair) (isField : pair? member = some (name, field))
      (isFieldToo : pair? otherMember = some (name, otherField))
      (facing : Facing survey otherSurvey field otherField inner otherInner) :
      Facing survey otherSurvey value other inner otherInner

/-- At no depth of a type does another layout add anything around a member that names a known kind,
or to its namespace. -/
def KeepsTags (survey otherSurvey : Survey) (value other : Node) : Prop :=
  ∀ inner otherInner, Facing survey otherSurvey value other inner otherInner →
    kindOf (splitRequired inner).1 = .custom ∨
      KeepsTag (splitRequired inner).1 (splitRequired otherInner).1

/-- The same of the field that a member of a shape is. -/
def MemberKeepsTags (survey otherSurvey : Survey) (member otherMember : Node) : Prop :=
  ∀ name field otherField, member.kind = .pair → pair? member = some (name, field) →
    pair? otherMember = some (name, otherField) → KeepsTags survey otherSurvey field otherField

theorem keepsTags_iff : KeepsTags survey otherSurvey value other ↔
    (kindOf (splitRequired value).1 = .custom ∨
      KeepsTag (splitRequired value).1 (splitRequired other).1) ∧
    ∀ object otherObject, fieldsObject? survey (splitRequired value).1 = some object →
      fieldsObject? otherSurvey (splitRequired other).1 = some otherObject →
      ∀ pair ∈ object.childNodes.zip otherObject.childNodes,
        MemberKeepsTags survey otherSurvey pair.1 pair.2 := by
  constructor
  · intro keeps
    refine ⟨keeps value other (.self value other), ?_⟩
    intro object otherObject isShape isShapeToo pair facingMembers name field otherField isPair
      isField isFieldToo inner otherInner facing
    exact keeps inner otherInner
      (.field isShape isShapeToo facingMembers isPair isField isFieldToo facing)
  · rintro ⟨keeps, inFields⟩ inner otherInner facing
    cases facing with
    | self => exact keeps
    | field isShape isShapeToo facingMembers isPair isField isFieldToo facing =>
        exact inFields _ _ isShape isShapeToo _ facingMembers _ _ _ isPair isField isFieldToo _ _
          facing

theorem withoutTexts_declaredProp (name : String) (value : Node)
    (fields : Option (List PropDecl)) :
    (declaredProp name value fields).withoutTexts =
      ⟨name, some ⟨some (kindOf (splitRequired value).1), none,
        fields.map (·.map PropDecl.withoutTexts)⟩, (splitRequired value).2, none⟩ := by
  cases fields with
  | none => rfl
  | some fields =>
      rw [Option.map_some, ← PropDecl.allWithoutTexts_eq_map]
      rfl

theorem propsAlike_declaredProp (relaid : Relaid value other)
    {fields otherFields : Option (List PropDecl)} {keeps : Prop}
    (sameTypes : kindOf (splitRequired other).1 = kindOf (splitRequired value).1 ∧
      otherFields.map (·.map PropDecl.withoutTexts) = fields.map (·.map PropDecl.withoutTexts) ↔
        keeps) :
    PropsAlike [declaredProp name value fields] [declaredProp name other otherFields] keeps := by
  have sameMark := (splitRequired_relaid relaid).1
  refine ⟨rfl, ?_, ?_⟩
  · exact congrArg ([·]) sameMark
  · rw [← sameTypes]
    simp [withoutTexts_declaredProp, sameMark]

theorem key?_relaid {key otherKey : Node} (relaid : Relaid key otherKey)
    (sameKind : otherKey.kind = key.kind) : otherKey.key? = key.key? := by
  have sameText (isToken : key.kind.isToken) (plain : key.kind ≠ .parenthesized) :
      otherKey.text = key.text :=
    (relaid.form sameKind plain).token isToken
  unfold key? stringValue?
  rw [sameKind]
  cases isKind : key.kind <;> first
    | rfl
    | rw [sameText (by rw [isKind]; rfl) (by rw [isKind]; nofun)]

theorem pair?_relaid {member otherMember : Node} (form : Relaid.Form member otherMember) :
    Option.Rel BoundAlike (pair? member) (pair? otherMember) := by
  unfold pair?
  rcases form.child? .key with ⟨none, otherNone⟩ | ⟨key, otherKey, isKey, isOther, keeps, named⟩
  · rw [none, otherNone]
    exact .none
  · have sameName := key?_relaid named (keeps.key rfl)
    rcases form.child? .value with
      ⟨none, otherNone⟩ | ⟨value, otherValue, isValue, isOtherValue, _, relaid⟩
    · rw [isKey, isOther, none, otherNone]
      simp
    · rw [isKey, isOther, isValue, isOtherValue]
      dsimp only [Option.bind_eq_bind, Option.bind_some]
      rw [sameName]
      cases key.key? with
      | none => exact .none
      | some name => exact .some ⟨rfl, relaid⟩

section Members

variable {member otherMember : Node} {read otherRead : Node → Option (List Declared)}

theorem filterMap_prop?_append (spreads : List String) (prop : PropDecl) :
    (spreads.map Declared.spread ++ [Declared.prop prop]).filterMap Declared.prop? = [prop] := by
  simp [Declared.prop?, Function.comp_def]

def ObjectsReadAlike (survey otherSurvey : Survey)
    (read otherRead : Node → Option (List Declared)) : Prop :=
  ∀ object otherObject, ObjectsRelaid object otherObject →
    ReadAlike (read object) (otherRead otherObject)
      (∀ pair ∈ object.childNodes.zip otherObject.childNodes,
        MemberKeepsTags survey otherSurvey pair.1 pair.2)

theorem exists_filterMap_prop?_eq {declared : List Declared} (isPair : member.kind = .pair)
    (isField : pair? member = some (name, value))
    (isRead : memberDeclared? survey read member = some declared) :
    ∃ fields, declared.filterMap Declared.prop? = [declaredProp name value fields] := by
  unfold memberDeclared? at isRead
  rw [isPair, isField] at isRead
  dsimp only at isRead
  split at isRead
  · cases isRead
    exact ⟨none, rfl⟩
  · obtain ⟨inner, _, isRead⟩ := Option.bind_eq_some_iff.mp isRead
    cases isRead
    exact ⟨some (inner.filterMap Declared.prop?), filterMap_prop?_append _ _⟩

theorem readAlike_of_field (bindings : BindingsRelaid survey otherSurvey)
    (objects : ObjectsReadAlike survey otherSurvey read otherRead) (relaid : Relaid value other)
    (isPair : member.kind = .pair) (isPairToo : otherMember.kind = .pair)
    (isField : pair? member = some (name, value))
    (isFieldToo : pair? otherMember = some (name, other)) :
    ReadAlike (memberDeclared? survey read member)
      (memberDeclared? otherSurvey otherRead otherMember)
      (KeepsTags survey otherSurvey value other) := by
  intro declared isRead
  have inside := (splitRequired_relaid relaid).2
  rw [keepsTags_iff, ← kindOf_eq_iff inside]
  -- With the same kind the shapes are the same objects, and the fields decide. With another kind the
  -- type is custom in the other layout, so that no shape is read there.
  by_cases sameKind : kindOf (splitRequired other).1 = kindOf (splitRequired value).1
  · unfold memberDeclared? at isRead ⊢
    rw [isPair, isField] at isRead
    rw [isPairToo, isFieldToo]
    have shapes := fieldsObject?_relaid bindings inside sameKind
    dsimp only at isRead ⊢
    generalize fieldsObject? survey (splitRequired value).1 = shape at shapes isRead ⊢
    generalize fieldsObject? otherSurvey (splitRequired other).1 = otherShape at shapes ⊢
    cases shapes with
    | none =>
        cases isRead
        refine ⟨_, rfl, propsAlike_declaredProp relaid ?_⟩
        exact and_congr_right fun _ => iff_of_true rfl nofun
    | @some object otherObject objectsRelaid =>
        obtain ⟨inner, isInner, isRead⟩ := Option.bind_eq_some_iff.mp isRead
        cases isRead
        obtain ⟨otherInner, isOtherInner, alike⟩ := objects _ _ objectsRelaid inner isInner
        refine ⟨_, by dsimp only; rw [isOtherInner]; rfl, ?_⟩
        rw [filterMap_prop?_append, filterMap_prop?_append]
        refine propsAlike_declaredProp relaid (and_congr_right fun _ => ?_)
        rw [Option.map_some, Option.map_some, Option.some.injEq, alike.withoutTexts]
        exact ⟨fun keeps _ _ found foundToo => by cases found; cases foundToo; exact keeps,
          fun keeps => keeps _ _ rfl rfl⟩
  · obtain ⟨fields, isDeclared⟩ := exists_filterMap_prop?_eq isPair isField isRead
    have noShape : fieldsObject? otherSurvey (splitRequired other).1 = none := by
      by_contra isShape
      exact sameKind (kindOf_eq_of_fieldsObject? inside (Option.isSome_iff_ne_none.mpr isShape))
    unfold memberDeclared?
    rw [isPairToo, isFieldToo, isDeclared]
    dsimp only
    rw [noShape]
    refine ⟨_, rfl, propsAlike_declaredProp relaid ?_⟩
    exact iff_of_false (fun same => sameKind same.1) (fun same => sameKind same.1)

theorem memberKeepsTags_iff (isPair : member.kind = .pair)
    (isField : pair? member = some (name, value))
    (isFieldToo : pair? otherMember = some (name, other)) :
    MemberKeepsTags survey otherSurvey member otherMember ↔
      KeepsTags survey otherSurvey value other := by
  constructor
  · intro keeps
    exact keeps name value other isPair isField isFieldToo
  · intro keeps _ _ _ _ found foundToo
    cases isField.symm.trans found
    cases isFieldToo.symm.trans foundToo
    exact keeps

theorem readAlike_of_same (declared otherDeclared : List Declared) {keeps : Prop}
    {read otherRead : Option (List Declared)} (isRead : read = some declared)
    (isReadToo : otherRead = some otherDeclared)
    (same : otherDeclared.filterMap Declared.prop? = declared.filterMap Declared.prop?)
    (always : keeps) : ReadAlike read otherRead keeps := by
  intro found isFound
  cases isRead.symm.trans isFound
  refine ⟨otherDeclared, isReadToo, ?_⟩
  rw [same]
  exact ⟨rfl, rfl, iff_of_true rfl always⟩

theorem memberDeclared?_eq_nil (noPair : member.kind ≠ .pair)
    (noShorthand : member.kind ≠ .shorthand) (noSpread : member.kind ≠ .spread) :
    memberDeclared? survey read member = some [] := by
  unfold memberDeclared?
  split
  · contradiction
  · contradiction
  · contradiction
  · rfl

theorem readAlike_of_pair (bindings : BindingsRelaid survey otherSurvey)
    (objects : ObjectsReadAlike survey otherSurvey read otherRead)
    (relaid : Relaid member otherMember) (isPair : member.kind = .pair) :
    ReadAlike (memberDeclared? survey read member)
      (memberDeclared? otherSurvey otherRead otherMember)
      (MemberKeepsTags survey otherSurvey member otherMember) := by
  have isPairToo := (relaid.kind_iff rfl).mpr isPair
  have pairs := pair?_relaid (relaid.form (isPairToo.trans isPair.symm) (by rw [isPair]; nofun))
  generalize isField : pair? member = found at pairs
  generalize isFieldToo : pair? otherMember = foundToo at pairs
  cases pairs with
  | none =>
      apply readAlike_of_same [] []
      · rw [memberDeclared?, isPair, isField]
      · rw [memberDeclared?, isPairToo, isFieldToo]
      · rfl
      · intro _ _ _ _ found
        cases isField.symm.trans found
  | @some field otherField alike =>
      obtain ⟨name, value⟩ := field
      obtain ⟨otherName, other⟩ := otherField
      obtain ⟨rfl, relaid⟩ := alike
      rw [memberKeepsTags_iff isPair isField isFieldToo]
      exact readAlike_of_field bindings objects relaid isPair isPairToo isField isFieldToo

theorem readAlike_of_no_pair (relaid : Relaid member otherMember) (noPair : member.kind ≠ .pair) :
    ReadAlike (memberDeclared? survey read member)
      (memberDeclared? otherSurvey otherRead otherMember)
      (MemberKeepsTags survey otherSurvey member otherMember) := by
  have noField : MemberKeepsTags survey otherSurvey member otherMember :=
    fun _ _ _ isPair => absurd isPair noPair
  by_cases isShorthand : member.kind = .shorthand
  · have isShorthandToo := (relaid.kind_iff rfl).mpr isShorthand
    have form := relaid.form (isShorthandToo.trans isShorthand.symm) (by rw [isShorthand]; nofun)
    have sameText := form.token (by rw [isShorthand]; rfl)
    refine readAlike_of_same [.prop (shorthandProp member.text)]
      [.prop (shorthandProp member.text)] ?_ ?_ rfl noField
    · rw [memberDeclared?, isShorthand]
    · rw [memberDeclared?, isShorthandToo, sameText]
  · by_cases isSpread : member.kind = .spread
    · refine readAlike_of_same [.spread member.text] [.spread otherMember.text] ?_ ?_ rfl noField
      · rw [memberDeclared?, isSpread]
      · rw [memberDeclared?, (relaid.kind_iff rfl).mpr isSpread]
    · refine readAlike_of_same [] [] (memberDeclared?_eq_nil noPair isShorthand isSpread)
        (memberDeclared?_eq_nil ?_ ?_ ?_) rfl noField
      · exact (relaid.kind_iff rfl).not.mpr noPair
      · exact (relaid.kind_iff rfl).not.mpr isShorthand
      · exact (relaid.kind_iff rfl).not.mpr isSpread

theorem readAlike_of_member (bindings : BindingsRelaid survey otherSurvey)
    (objects : ObjectsReadAlike survey otherSurvey read otherRead)
    (relaid : Relaid member otherMember) :
    ReadAlike (memberDeclared? survey read member)
      (memberDeclared? otherSurvey otherRead otherMember)
      (MemberKeepsTags survey otherSurvey member otherMember) := by
  by_cases isPair : member.kind = .pair
  · exact readAlike_of_pair bindings objects relaid isPair
  · exact readAlike_of_no_pair relaid isPair

theorem map_flatten_mapM_cons {α β : Type} (f : α → Option (List β)) (item : α) (items : List α) :
    ((item :: items).mapM f).map List.flatten =
      (f item).bind fun group => ((items.mapM f).map List.flatten).map (group ++ ·) := by
  rw [List.mapM_cons]
  cases f item with
  | none => rfl
  | some group =>
      cases items.mapM f with
      | none => rfl
      | some groups => rfl

theorem readAlike_of_members {members otherMembers : List Node}
    (memberwise : ∀ member otherMember, Relaid member otherMember →
      ReadAlike (memberDeclared? survey read member)
        (memberDeclared? otherSurvey otherRead otherMember)
        (MemberKeepsTags survey otherSurvey member otherMember))
    (relaid : List.Forall₂ Relaid members otherMembers) :
    ReadAlike ((members.mapM (memberDeclared? survey read)).map List.flatten)
      ((otherMembers.mapM (memberDeclared? otherSurvey otherRead)).map List.flatten)
      (∀ pair ∈ members.zip otherMembers, MemberKeepsTags survey otherSurvey pair.1 pair.2) := by
  induction relaid with
  | nil => exact readAlike_of_same [] [] rfl rfl rfl nofun
  | @cons member otherMember members otherMembers relaid _ induction =>
      intro declared isRead
      rw [map_flatten_mapM_cons] at isRead ⊢
      obtain ⟨group, isGroup, isRead⟩ := Option.bind_eq_some_iff.mp isRead
      obtain ⟨more, isMore, rfl⟩ := Option.map_eq_some_iff.mp isRead
      obtain ⟨otherGroup, isOtherGroup, groupAlike⟩ := memberwise _ _ relaid group isGroup
      obtain ⟨otherMore, isOtherMore, moreAlike⟩ := induction more isMore
      refine ⟨otherGroup ++ otherMore, by rw [isOtherGroup, isOtherMore]; rfl, ?_⟩
      rw [List.filterMap_append, List.filterMap_append, List.zip_cons_cons, List.forall_mem_cons]
      exact groupAlike.append moreAlike

theorem declared?_relaid (bindings : BindingsRelaid survey otherSurvey) {limit otherLimit : Nat}
    (enough : limit ≤ otherLimit) :
    ObjectsReadAlike survey otherSurvey (declared? survey limit)
      (declared? otherSurvey otherLimit) := by
  induction limit generalizing otherLimit with
  | zero =>
      intro object otherObject _ declared isRead
      cases isRead
  | succ limit induction =>
      obtain _ | otherLimit := otherLimit
      · contradiction
      · intro object otherObject objects
        rw [declared?, declared?]
        apply readAlike_of_members _ objects.members
        intro member otherMember relaid
        exact readAlike_of_member bindings (induction (Nat.le_of_succ_le_succ enough)) relaid

end Members

/-- A member of the `propTypes` of a script declares a prop. -/
def Declares (program member : Node) (prop : PropDecl) : Prop :=
  ∃ declared, memberDeclared? (Survey.ofProgram program)
      (declared? (Survey.ofProgram program) (program.count .object)) member = some declared ∧
    declared.filterMap Declared.prop? = [prop]

/-- In every script and each of its layouts: a member that declares a prop declares one of the same
name in the other layout, required just if it was. Its kind and its fields, at any depth, are the
same just if no type of a known kind has anything added around the member that names it or to its
namespace. -/
theorem declares_of_relaid {program otherProgram member otherMember value : Node} {name : String}
    {prop : PropDecl} (isProgram : program.kind = .program) (layout : Relaid program otherProgram)
    (relaid : Relaid member otherMember) (isPair : member.kind = .pair)
    (isField : pair? member = some (name, value)) (declares : Declares program member prop) :
    ∃ other otherProp, pair? otherMember = some (name, other) ∧
      Declares otherProgram otherMember otherProp ∧
      otherProp.name = prop.name ∧ otherProp.required = prop.required ∧
      (otherProp.withoutTexts = prop.withoutTexts ↔
        KeepsTags (Survey.ofProgram program) (Survey.ofProgram otherProgram) value other) := by
  have bindings := bindingsRelaid_ofProgram isProgram layout
  have isPairToo := (relaid.kind_iff rfl).mpr isPair
  have pairs := pair?_relaid (relaid.form (isPairToo.trans isPair.symm) (by rw [isPair]; nofun))
  rw [isField] at pairs
  generalize isFieldToo : pair? otherMember = found at pairs
  cases pairs with
  | @some _ otherField alike =>
      obtain ⟨otherName, other⟩ := otherField
      obtain ⟨rfl, relaid⟩ := alike
      obtain ⟨declared, isRead, isDeclared⟩ := declares
      have sameCount : otherProgram.count .object = program.count .object :=
        layout.count_eq nofun
      have objects := declared?_relaid bindings (Nat.le_of_eq sameCount.symm)
      have fields :=
        readAlike_of_field bindings objects relaid isPair isPairToo isField isFieldToo
      obtain ⟨otherDeclared, isReadToo, propsAlike⟩ := fields declared isRead
      obtain ⟨fields, isDeclaredToo⟩ := exists_filterMap_prop?_eq isPairToo isFieldToo isReadToo
      rw [isDeclared, isDeclaredToo] at propsAlike
      refine ⟨other, _, rfl, ⟨otherDeclared, isReadToo, isDeclaredToo⟩, ?_, ?_, ?_⟩
      · exact List.singleton_inj.mp propsAlike.names
      · exact List.singleton_inj.mp propsAlike.required
      · exact (List.singleton_inj (a := _)).symm.trans propsAlike.withoutTexts

def word (text : String) : Node :=
  .mk .identifier text []

def memberOf (object : Node) (between property : String) : Node :=
  .mk .member (object.text ++ between ++ property) [(.object, object), (.property, word property)]

def inParentheses (node : Node) : Node :=
  .mk .parenthesized ("(" ++ node.text ++ ")") [(.part, node)]

def stringType : Node :=
  memberOf (word "PropTypes") "." "string"

def requiredString : Node :=
  memberOf stringType "." requiredMember

def markedParentheses : Node :=
  memberOf (inParentheses stringType) "." requiredMember

/-- The same as `requiredString`, in parentheses and on two lines. -/
def brokenString : Node :=
  inParentheses (memberOf stringType " /* text */\n  ." requiredMember)

def labelMember (value : Node) : Node :=
  .mk .pair ("label: " ++ value.text) [(.key, word "label"), (.value, value)]

def labelAssignment (value : Node) : Node :=
  .mk .assignment ("Card.propTypes = \x7b label: " ++ value.text ++ " \x7d")
    [(.left, memberOf (word "Card") "." "propTypes"),
      (.right, .mk .object ("\x7b label: " ++ value.text ++ " \x7d") [(.part, labelMember value)])]

def labelScript (value : Node) : Node :=
  .mk .program ("Card.propTypes = \x7b label: " ++ value.text ++ " \x7d;\n")
    [(.part, .mk .expressionStatement ("Card.propTypes = \x7b label: " ++ value.text ++ " \x7d;")
      [(.part, labelAssignment value)])]

theorem relaid_inParentheses (relaid : Relaid value other)
    (isExpression : value.kind.isExpression) : Relaid value (inParentheses other) := by
  have nothing : tokens "".toList = [] := by decide +kernel
  simpa [inParentheses] using Relaid.wrap "" "" isExpression nothing nothing relaid

theorem widened_within (relaid : Relaid value other) (front back : String) :
    Widened (front ++ value.text ++ back).toList (front ++ other.text ++ back).toList := by
  simp only [String.toList_append]
  exact ((Widened.refl _).append relaid.widened).append (.refl _)

theorem relaid_labelMember (relaid : Relaid value other) :
    Relaid (labelMember value) (labelMember other) := by
  refine .inPlace [(.key, word "label")] [] rfl ?_ ⟨nofun, nofun, nofun⟩ relaid
  simpa using widened_within relaid "label: " ""

theorem relaid_labelScript (relaid : Relaid value other) :
    Relaid (labelScript value) (labelScript other) := by
  refine .inPlace [] [] rfl (widened_within relaid _ _) ⟨nofun, nofun, nofun⟩ ?_
  refine .inPlace [] [] rfl (widened_within relaid _ _) ⟨nofun, nofun, nofun⟩ ?_
  refine .inPlace [(.left, memberOf (word "Card") "." "propTypes")] [] rfl
    (widened_within relaid _ _) ⟨nofun, nofun, nofun⟩ ?_
  exact .inPlace [] [] rfl (widened_within relaid _ _) ⟨nofun, nofun, nofun⟩
    (relaid_labelMember relaid)

theorem relaid_brokenString : Relaid requiredString brokenString := by
  refine relaid_inParentheses ?_ rfl
  refine .inPlace [] [(.property, word requiredMember)] rfl ?_ ⟨nofun, nofun, nofun⟩
    (.refl stringType)
  have isLayout : tokens " /* text */\n  ".toList = [] := by decide +kernel
  have mark := Widened.layout_append isLayout (.refl ".isRequired".toList)
  exact (Widened.refl "PropTypes.string".toList).append mark

theorem relaid_markedParentheses : Relaid requiredString markedParentheses := by
  have relaid : Relaid stringType (inParentheses stringType) :=
    relaid_inParentheses (.refl stringType) rfl
  refine .inPlace [] [(.property, word requiredMember)] rfl ?_ ⟨nofun, nofun, nofun⟩ relaid
  simpa [memberOf, requiredMember] using widened_within relaid "" ".isRequired"

theorem read?_requiredString :
    Module.read? .javaScript (labelScript requiredString).text.toList =
      some (labelScript requiredString) := by
  decide +kernel

/-- A label is what it was in parentheses, on two lines and with a comment. -/
theorem declares_of_relaid_label : ∃ other otherProp,
    Module.read? .javaScript (labelScript requiredString).text.toList =
        some (labelScript requiredString) ∧
      Module.read? .javaScript (labelScript brokenString).text.toList =
        some (labelScript brokenString) ∧
      pair? (labelMember brokenString) = some ("label", other) ∧
      Declares (labelScript brokenString) (labelMember brokenString) otherProp ∧
      otherProp.withoutTexts = ⟨"label", some ⟨some .string, none, none⟩, true, none⟩ := by
  have declares : Declares (labelScript requiredString) (labelMember requiredString)
      (declaredProp "label" requiredString none) := ⟨_, rfl, rfl⟩
  obtain ⟨other, otherProp, isField, declaresToo, _, _, same⟩ :=
    declares_of_relaid rfl (relaid_labelScript relaid_brokenString)
      (relaid_labelMember relaid_brokenString) rfl rfl declares
  refine ⟨other, otherProp, read?_requiredString, by decide +kernel, isField, declaresToo, ?_⟩
  refine (same.mpr ?_).trans rfl
  intro inner otherInner facing
  cases isField
  cases facing with
  | self => exact .inr ⟨rfl, rfl, rfl⟩
  | field isShape => cases isShape

def kindsIn (program : Node) : Option (List (Option PropKind)) :=
  (ofProgram program).toOption.map fun extract =>
    (extract.component.props.getD []).map PropDecl.kind?

/-- With parentheses in front of its mark a label is of no known kind. -/
theorem kindsIn_markedParentheses :
    Module.read? .javaScript (labelScript requiredString).text.toList =
        some (labelScript requiredString) ∧
      Module.read? .javaScript (labelScript markedParentheses).text.toList =
        some (labelScript markedParentheses) ∧
      Relaid (labelScript requiredString) (labelScript markedParentheses) ∧
      kindsIn (labelScript requiredString) = some [some .string] ∧
      kindsIn (labelScript markedParentheses) = some [some .custom] := by
  refine ⟨read?_requiredString, by decide +kernel, ?_, by decide +kernel, by decide +kernel⟩
  exact relaid_labelScript relaid_markedParentheses

end SnapshotGen.Extraction
