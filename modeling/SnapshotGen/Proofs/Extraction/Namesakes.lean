import SnapshotGen.Proofs.Extraction.NamedDefaults

/-!
Props that go by one name. The defaults of a component add none; they come from objects in the
script that give a name to two of their members.
-/

namespace SnapshotGen

/-- Props with names of their own, as have the fields of every shape among them. -/
inductive PropDecl.AllDistinct : List PropDecl → Prop
  | mk {props : List PropDecl} (nodup : (props.map (·.name)).Nodup)
      (fieldsDistinct : ∀ prop ∈ props, ∀ fields, prop.shape? = some fields → AllDistinct fields) :
      AllDistinct props

namespace PropDecl

theorem allDistinct_iff {props : List PropDecl} :
    AllDistinct props ↔
      (props.map (·.name)).Nodup ∧ ∀ fields ∈ props.filterMap (·.shape?), AllDistinct fields := by
  constructor
  · rintro ⟨nodup, fieldsDistinct⟩
    refine ⟨nodup, fun fields isShape => ?_⟩
    obtain ⟨prop, isProp, hasShape⟩ := List.mem_filterMap.mp isShape
    exact fieldsDistinct prop isProp fields hasShape
  · rintro ⟨nodup, fieldsDistinct⟩
    refine ⟨nodup, fun prop isProp fields hasShape => ?_⟩
    exact fieldsDistinct fields (List.mem_filterMap.mpr ⟨prop, isProp, hasShape⟩)

theorem allDistinct_nil : AllDistinct [] :=
  allDistinct_iff.mpr ⟨.nil, fun _ isShape => absurd isShape List.not_mem_nil⟩

end PropDecl

namespace Extraction

open Script Script.Node PropDecl

section Defaults

variable {props : List PropDecl} {defaults : List Default}

theorem map_name_attachDefaults (props : List PropDecl) (defaults : List Default) :
    (attachDefaults props defaults).map (·.name) =
      props.map (·.name) ++ addedNames props defaults := by
  induction props generalizing defaults with
  | nil => exact map_name_attachDefaults_nil defaults
  | cons prop props induction =>
      rw [attachDefaults_cons, List.map_cons, induction, addedNames_cons, List.map_cons,
        List.cons_append, settle]

theorem filterMap_shape?_attachDefaults (props : List PropDecl) (defaults : List Default) :
    (attachDefaults props defaults).filterMap (·.shape?) = props.filterMap (·.shape?) := by
  induction props generalizing defaults with
  | nil =>
      rw [attachDefaults_nil, List.filterMap_map]
      exact List.filterMap_eq_nil_iff.mpr fun _ _ => rfl
  | cons prop props induction =>
      rw [attachDefaults_cons, List.filterMap_cons, induction, List.filterMap_cons]
      rfl

theorem nodup_addedNames (props : List PropDecl) (defaults : List Default) :
    (addedNames props defaults).Nodup :=
  (pairwise_idxOf_eraseDups_filter _ _).imp fun before same => by
    rw [same] at before
    exact Nat.lt_irrefl _ before

theorem nodup_attachDefaults_iff :
    ((attachDefaults props defaults).map (·.name)).Nodup ↔ (props.map (·.name)).Nodup := by
  rw [map_name_attachDefaults, List.nodup_append]
  refine ⟨And.left, fun nodup => ⟨nodup, nodup_addedNames props defaults, ?_⟩⟩
  intro name isName added isAdded same
  exact (mem_addedNames.mp isAdded).2 (same ▸ isName)

theorem allDistinct_attachDefaults_iff :
    AllDistinct (attachDefaults props defaults) ↔ AllDistinct props := by
  rw [allDistinct_iff, allDistinct_iff, nodup_attachDefaults_iff, filterMap_shape?_attachDefaults]

theorem pairwise_attachDefaults (noDefault : ∀ prop ∈ props, prop.declaredDefault = none) :
    (attachDefaults props defaults).Pairwise fun one other =>
      one.name = other.name → other.declaredDefault = none := by
  induction props generalizing defaults with
  | nil =>
      have nodup : ((attachDefaults [] defaults).map (·.name)).Nodup :=
        nodup_attachDefaults_iff.mpr List.nodup_nil
      exact (List.pairwise_map.mp nodup).imp fun differ same => absurd same differ
  | cons prop props induction =>
      rw [List.forall_mem_cons] at noDefault
      rw [attachDefaults_cons]
      refine .cons (fun other isOther same => ?_) (induction noDefault.2)
      by_contra given
      have hasDefault : HasDefault
          (attachDefaults props (defaults.filter (·.1 != prop.name))) other.name :=
        ⟨other, isOther, rfl, Option.isSome_iff_ne_none.mpr given⟩
      rw [hasDefault_attachDefaults_iff noDefault.2, mem_map_filter_iff] at hasDefault
      exact hasDefault.2 same.symm

end Defaults

def NamesOnce (object : Node) : Prop :=
  (object.childNodes.filterMap memberName?).Nodup

/-- All objects that are read for the types of an object have members with names of their own. -/
def AllNamesOnce (survey : Survey) (object : Node) : Prop :=
  ∀ inner, Relation.ReflTransGen (Uses survey) object inner → NamesOnce inner

variable {survey : Survey} {object inner member : Node} {prop : PropDecl}
  {props fields : List PropDecl}

theorem exists_tells_of_mem_prop {members : List Node} :
    {props : List PropDecl} → TellAll survey members props → prop ∈ props →
    ∃ member ∈ members, Tells survey member prop
  | _, .nil, isProp => nomatch isProp
  | _, .named tells tellAll, isProp => by
      rcases List.mem_cons.mp isProp with rfl | inRest
      · exact ⟨_, .head _, tells⟩
      · obtain ⟨member, isMember, tells⟩ := exists_tells_of_mem_prop tellAll inRest
        exact ⟨member, .tail _ isMember, tells⟩
  | _, .nameless _ tellAll, isProp => by
      obtain ⟨member, isMember, tells⟩ := exists_tells_of_mem_prop tellAll isProp
      exact ⟨member, .tail _ isMember, tells⟩

theorem exists_tells_of_mem_member {name : String} (named : memberName? member = some name) :
    {members : List Node} → {props : List PropDecl} → TellAll survey members props →
    member ∈ members → ∃ prop ∈ props, Tells survey member prop
  | _, _, .nil, isMember => nomatch isMember
  | _, _, .named tells tellAll, isMember => by
      rcases List.mem_cons.mp isMember with rfl | inRest
      · exact ⟨_, .head _, tells⟩
      · obtain ⟨prop, isProp, tells⟩ := exists_tells_of_mem_member named tellAll inRest
        exact ⟨prop, .tail _ isProp, tells⟩
  | _, _, .nameless nameless tellAll, isMember => by
      rcases List.mem_cons.mp isMember with rfl | inRest
      · rw [nameless] at named
        cases named
      · exact exists_tells_of_mem_member named tellAll inRest

/-- The fields of a shape are those of an object that is used for it. -/
theorem exists_uses_of_shape? (tellAll : TellAll survey object.childNodes props)
    (isProp : prop ∈ props) (hasShape : prop.shape? = some fields) :
    ∃ inner, Uses survey object inner ∧ TellAll survey inner.childNodes fields := by
  obtain ⟨member, isMember, tells⟩ := exists_tells_of_mem_prop tellAll isProp
  cases tells with
  | shorthand _ => cases hasShape
  | plain _ _ _ _ => cases hasShape
  | shape pairs marks ofKind hasFields fieldsTold =>
      cases hasShape
      obtain ⟨isPair, hasPair⟩ := pairs_iff.mp pairs
      have isObject := fieldsObject?_eq_some marks hasFields
      exact ⟨_, ⟨member, isMember, _, _, isPair, hasPair, isObject⟩, fieldsTold⟩

/-- An object that is used gives a prop its fields. -/
theorem exists_shape?_of_uses (tellAll : TellAll survey object.childNodes props)
    (uses : Uses survey object inner) :
    ∃ prop ∈ props, ∃ fields, prop.shape? = some fields ∧
      TellAll survey inner.childNodes fields := by
  obtain ⟨member, isMember, name, value, isPair, hasPair, isInner⟩ := uses
  have pairs : Pairs member name value := pairs_iff.mpr ⟨isPair, hasPair⟩
  obtain ⟨prop, isProp, tells⟩ :=
    exists_tells_of_mem_member (memberName?_of_pairs pairs) tellAll isMember
  refine ⟨prop, isProp, ?_⟩
  cases tells with
  | shorthand isShorthand =>
      rw [isPair] at isShorthand
      cases isShorthand
  | plain ownPairs marks _ noFields =>
      cases hasPair.symm.trans (pairs_iff.mp ownPairs).2
      rw [fieldsObject?_eq_none marks noFields] at isInner
      cases isInner
  | shape ownPairs marks _ hasFields fieldsTold =>
      cases hasPair.symm.trans (pairs_iff.mp ownPairs).2
      cases isInner.symm.trans (fieldsObject?_eq_some marks hasFields)
      exact ⟨_, rfl, fieldsTold⟩

theorem nodup_iff_of_tellAll (tellAll : TellAll survey object.childNodes props) :
    (props.map (·.name)).Nodup ↔ NamesOnce object := by
  rw [map_name_of_tellAll tellAll, NamesOnce]

theorem allNamesOnce_of_allDistinct (tellAll : TellAll survey object.childNodes props)
    (distinct : AllDistinct props) : AllNamesOnce survey object := by
  intro inner reaches
  -- The induction takes the first of the objects in between away, and with it a level of fields.
  induction reaches using Relation.ReflTransGen.head_induction_on generalizing props with
  | refl => exact (nodup_iff_of_tellAll tellAll).mp (allDistinct_iff.mp distinct).1
  | head uses _ induction =>
      obtain ⟨prop, isProp, fields, hasShape, fieldsTold⟩ := exists_shape?_of_uses tellAll uses
      obtain ⟨_, fieldsDistinct⟩ := distinct
      exact induction fieldsTold (fieldsDistinct prop isProp fields hasShape)

theorem acc_of_tellAll (tellAll : TellAll survey object.childNodes props) :
    Acc (UsedBy survey) object := by
  obtain ⟨limit, declared, isRead, _⟩ := readAs_iff_tellAll.mpr tellAll
  exact acc_of_declared? (Option.isSome_iff_exists.mpr ⟨declared, isRead⟩)

theorem allDistinct_of_allNamesOnce (tellAll : TellAll survey object.childNodes props)
    (once : AllNamesOnce survey object) : AllDistinct props := by
  induction acc_of_tellAll tellAll generalizing props with
  | intro object _ induction =>
      refine .mk ((nodup_iff_of_tellAll tellAll).mpr (once object .refl)) ?_
      intro prop isProp fields hasShape
      obtain ⟨inner, uses, fieldsTold⟩ := exists_uses_of_shape? tellAll isProp hasShape
      exact induction inner uses fieldsTold fun last reaches => once last (.head uses reaches)

theorem allDistinct_iff_of_tellAll (tellAll : TellAll survey object.childNodes props) :
    AllDistinct props ↔ AllNamesOnce survey object :=
  ⟨allNamesOnce_of_allDistinct tellAll, allDistinct_of_allNamesOnce tellAll⟩

variable {program : Node} {candidate : Candidate}

/-- What is read of the types of a component: nothing if it has no object of types, or one for which
reading would never end. -/
theorem allDistinct_declarations_iff
    (resolved : (Survey.ofProgram program).resolve? = some candidate) :
    AllDistinct
        ((declarations (Survey.ofProgram program) program candidate).filterMap Declared.prop?) ↔
      ∀ object, typesObject? program = some object → ¬Endless (Survey.ofProgram program) object →
        AllNamesOnce (Survey.ofProgram program) object := by
  have isOf := Survey.isOf_ofProgram program
  have types : typesObject? program =
      ((Survey.ofProgram program).staticValue? candidate "propTypes").bind
        (Survey.ofProgram program).object? := by
    rw [typesObject?, resolved]
    rfl
  rw [declarations, types]
  cases isTypes : ((Survey.ofProgram program).staticValue? candidate "propTypes").bind
      (Survey.ofProgram program).object? with
  | none =>
      refine iff_of_true allDistinct_nil fun object isObject => ?_
      cases isObject
  | some object =>
      obtain ⟨inProgram, isObject⟩ := isOf.staticObject? (isOf.resolve? resolved) isTypes
      rw [Option.bind_some]
      simp only [Option.some.injEq, forall_eq']
      cases isRead : declared? (Survey.ofProgram program) (program.count .object + 1) object with
      | none =>
          refine iff_of_true allDistinct_nil fun ends => ?_
          have plain := not_selfContaining_of_acc (acc_usedBy_iff.mpr ends)
          have isSome := declared?_isSome isOf inProgram isObject plain
          rw [isRead] at isSome
          cases isSome
      | some declared =>
          have ends : ¬Endless (Survey.ofProgram program) object :=
            acc_usedBy_iff.mp (acc_of_declared? (Option.isSome_iff_exists.mpr ⟨_, isRead⟩))
          rw [Option.getD_some, allDistinct_iff_of_tellAll (tellAll_of_declared? isRead)]
          exact ⟨fun once _ => once, fun once => once ends⟩

/-- The props of a component, and the fields of all shapes among them, have names of their own just
if no object that is read for its types gives a name to two members. Of props with one name none but
the first has a default. -/
theorem allDistinct_iff_of_extract {path source : String} {found : Extract}
    (extracted : extract path source = .ok found) :
    ∃ dialect program, Dialect.ofPath? path.toList = some dialect ∧
      Module.read? dialect source.toList = some program ∧
      (AllDistinct (found.component.props.getD []) ↔
        ∀ object, typesObject? program = some object →
          ¬Endless (Survey.ofProgram program) object →
          AllNamesOnce (Survey.ofProgram program) object) ∧
      (found.component.props.getD []).Pairwise fun one other =>
        one.name = other.name → other.declaredDefault = none := by
  obtain ⟨dialect, program, isDialect, read, ofProgram⟩ := exists_read_of_extract extracted
  obtain ⟨candidate, resolved, rfl⟩ := exists_candidate_of_ofProgram ofProgram
  refine ⟨dialect, program, isDialect, read, ?_, ?_⟩
  · rw [props_extractFrom, allDistinct_attachDefaults_iff, allDistinct_declarations_iff resolved]
  · rw [props_extractFrom]
    exact pairwise_attachDefaults fun _ isDeclared => noDefault_of_declarations isDeclared

/-- A script with a prop whose fields share a name; a variable holds them. -/
def boxScript : String := Text.ofLines [
  "const box = \x7b w: A, 'w': B \x7d;",
  "const Card = () => <b />;",
  "Card.propTypes = \x7b box: PropTypes.shape(box), label: A \x7d;"]

theorem exists_box : ∃ found, extract "Card.js" boxScript = .ok found ∧
    ∃ prop ∈ found.component.props.getD [], ∃ fields, prop.shape? = some fields ∧
      fields.map (·.name) = ["w", "w"] := by
  have evaluated : (extract "Card.js" boxScript).toOption.any fun found =>
      (found.component.props.getD []).any fun prop =>
        prop.shape?.any fun fields => fields.map (·.name) == ["w", "w"] := by
    decide +kernel
  obtain ⟨found, isFound, evaluated⟩ := (Option.any_eq_true ..).mp evaluated
  obtain ⟨prop, isProp, evaluated⟩ := List.any_eq_true.mp evaluated
  obtain ⟨fields, hasShape, names⟩ := (Option.any_eq_true ..).mp evaluated
  exact ⟨found, extract_of_toOption isFound, prop, isProp, fields, hasShape, beq_iff_eq.mp names⟩

/-- The object of the variable tells that two fields have one name. -/
theorem allDistinct_iff_of_extract_box : ∃ found program object,
    extract "Card.js" boxScript = .ok found ∧ ¬AllDistinct (found.component.props.getD []) ∧
      Module.read? .javaScript boxScript.toList = some program ∧
      typesObject? program = some object ∧ ¬AllNamesOnce (Survey.ofProgram program) object := by
  obtain ⟨found, extracted, prop, isProp, fields, hasShape, names⟩ := exists_box
  have twice : ¬AllDistinct (found.component.props.getD []) := by
    rintro ⟨_, fieldsDistinct⟩
    have nodup := (allDistinct_iff.mp (fieldsDistinct prop isProp fields hasShape)).1
    rw [names] at nodup
    exact absurd nodup (by decide)
  obtain ⟨dialect, program, isDialect, read, exactly, _⟩ := allDistinct_iff_of_extract extracted
  obtain rfl : Dialect.javaScript = dialect := Option.some.inj isDialect
  have notAll := mt exactly.mpr twice
  push Not at notAll
  obtain ⟨object, isTypes, _, notOnce⟩ := notAll
  exact ⟨found, program, object, extracted, twice, read, isTypes, notOnce⟩

/-- A name given with quotes and without them makes two props, and the default goes to the one that
is declared first. -/
theorem default_of_first_namesake :
    let source := Text.ofLines [
      "const Card = () => <b />;",
      "Card.propTypes = \x7b size: PropTypes.string, 'size': PropTypes.number \x7d;",
      "Card.defaultProps = \x7b size: 3 \x7d;"]
    ∃ found, extract "Card.js" source = .ok found ∧
      ¬((found.component.props.getD []).map (·.name)).Nodup ∧
      ((found.component.props.getD []).map fun prop =>
        (prop.name, prop.kind?, prop.declaredDefault)) =
        [("size", some .string, some "3"), ("size", some .number, none)] := by
  intro source
  have evaluated : ((extract "Card.js" source).toOption.map fun found =>
      (found.component.props.getD []).map fun prop =>
        (prop.name, prop.kind?, prop.declaredDefault)) =
      some [("size", some .string, some "3"), ("size", some .number, none)] := by
    decide +kernel
  obtain ⟨found, isFound, shown⟩ := Option.map_eq_some_iff.mp evaluated
  refine ⟨found, extract_of_toOption isFound, fun nodup => ?_, shown⟩
  have names := congrArg (List.map (·.1)) shown
  rw [List.map_map] at names
  exact absurd (names ▸ nodup) (by decide)

end Extraction

end SnapshotGen
