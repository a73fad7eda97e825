import SnapshotGen.Proofs.Extraction.Attached
import SnapshotGen.Proofs.Extraction.Telling

/-!
Names of the members of object literals, as defaults and as prop types. Pairs are named alike; a
shorthand member has a name as a type and none as a default.
-/

namespace SnapshotGen.Extraction

open Script Script.Node

variable {survey : Survey} {object member : Node} {props : List PropDecl} {defaults : List Default}
  {name : String}

def defaultName? (member : Node) : Option String :=
  (objectDefault? member).map (·.1)

theorem defaultName?_of_pair (isPair : member.kind = .pair) :
    defaultName? member = memberName? member := by
  rw [memberName?_of_pair? isPair, defaultName?, objectDefault?, if_pos isPair, pair?]
  cases member.child? .key with
  | none => rfl
  | some key =>
      cases member.child? .value with
      | none => cases key.key? <;> simp
      | some value => cases key.key? <;> simp

theorem defaultName?_of_kind_ne (noPair : member.kind ≠ .pair) : defaultName? member = none := by
  rw [defaultName?, objectDefault?, if_neg noPair, Option.map_none]

theorem defaultName?_of_no_shorthand (noShorthand : member.kind ≠ .shorthand) :
    defaultName? member = memberName? member := by
  by_cases isPair : member.kind = .pair
  · exact defaultName?_of_pair isPair
  · rw [defaultName?_of_kind_ne isPair]
    unfold memberName?
    split
    · contradiction
    · contradiction
    · rfl

theorem map_fst_objectDefaults (object : Node) :
    (objectDefaults object).map (·.1) = object.childNodes.filterMap defaultName? :=
  List.map_filterMap

theorem mem_objectDefaults_iff : name ∈ (objectDefaults object).map (·.1) ↔
    ∃ member ∈ object.childNodes, member.kind = .pair ∧ memberName? member = some name := by
  rw [map_fst_objectDefaults, List.mem_filterMap]
  refine exists_congr fun member => and_congr_right fun _ => ?_
  by_cases isPair : member.kind = .pair
  · rw [defaultName?_of_pair isPair]
    exact (and_iff_right isPair).symm
  · rw [defaultName?_of_kind_ne isPair]
    exact iff_of_false nofun fun both => isPair both.1

theorem length_filterMap_defaultName?_le (members : List Node) :
    (members.filterMap defaultName?).length ≤ (members.filterMap memberName?).length := by
  induction members with
  | nil => exact Nat.le_refl 0
  | cons member members induction =>
      by_cases isShorthand : member.kind = .shorthand
      · rw [List.filterMap_cons_none (defaultName?_of_kind_ne (by rw [isShorthand]; nofun)),
          List.filterMap_cons_some (memberName?_of_shorthand isShorthand)]
        exact Nat.le_succ_of_le induction
      · rw [List.filterMap_cons, List.filterMap_cons, defaultName?_of_no_shorthand isShorthand]
        cases memberName? member with
        | none => exact induction
        | some name => exact Nat.succ_le_succ induction

/-- Members have the same names in both ways just if none of them is shorthand. -/
theorem filterMap_defaultName?_eq_iff (members : List Node) :
    members.filterMap defaultName? = members.filterMap memberName? ↔
      ∀ member ∈ members, member.kind ≠ .shorthand := by
  induction members with
  | nil => simp
  | cons member members induction =>
      rw [List.forall_mem_cons, ← induction]
      by_cases isShorthand : member.kind = .shorthand
      · refine iff_of_false (fun same => ?_) (fun both => both.1 isShorthand)
        rw [List.filterMap_cons_none (defaultName?_of_kind_ne (by rw [isShorthand]; nofun)),
          List.filterMap_cons_some (memberName?_of_shorthand isShorthand)] at same
        have shorter := length_filterMap_defaultName?_le members
        rw [same, List.length_cons] at shorter
        exact absurd shorter (Nat.not_succ_le_self _)
      · rw [List.filterMap_cons, List.filterMap_cons, defaultName?_of_no_shorthand isShorthand,
          and_iff_right isShorthand]
        cases memberName? member with
        | none => exact Iff.rfl
        | some name => exact List.cons_inj_right name

theorem settle_declaredDefault_isSome_iff {prop : PropDecl}
    (noDefault : prop.declaredDefault = none) :
    (settle prop defaults).declaredDefault.isSome ↔ prop.name ∈ defaults.map (·.1) := by
  rw [settle, noDefault, Option.or_none, lastDefault?_isSome_iff]

theorem mem_map_filter_iff {other : String} :
    name ∈ (defaults.filter (·.1 != other)).map (·.1) ↔
      name ∈ defaults.map (·.1) ∧ name ≠ other := by
  rw [List.mem_map, List.mem_map]
  constructor
  · rintro ⟨default, isDefault, rfl⟩
    obtain ⟨isDefault, differ⟩ := List.mem_filter.mp isDefault
    exact ⟨⟨default, isDefault, rfl⟩, bne_iff_ne.mp differ⟩
  · rintro ⟨⟨default, isDefault, rfl⟩, differ⟩
    exact ⟨default, List.mem_filter.mpr ⟨isDefault, bne_iff_ne.mpr differ⟩, rfl⟩

def HasDefault (props : List PropDecl) (name : String) : Prop :=
  ∃ prop ∈ props, prop.name = name ∧ prop.declaredDefault.isSome

theorem hasDefault_cons {prop : PropDecl} : HasDefault (prop :: props) name ↔
    (prop.name = name ∧ prop.declaredDefault.isSome) ∨ HasDefault props name := by
  simp [HasDefault]

/-- Where props come without defaults, just those have one that defaults name. -/
theorem hasDefault_attachDefaults_iff (noDefault : ∀ prop ∈ props, prop.declaredDefault = none) :
    HasDefault (attachDefaults props defaults) name ↔ name ∈ defaults.map (·.1) := by
  induction props generalizing defaults with
  | nil =>
      rw [attachDefaults_nil, ← mem_addedNames_nil]
      simp [HasDefault, PropDecl.untyped]
  | cons prop props induction =>
      rw [attachDefaults_cons, hasDefault_cons,
        induction fun other isOther => noDefault other (.tail _ isOther), mem_map_filter_iff,
        settle_declaredDefault_isSome_iff (noDefault prop (.head _))]
      by_cases same : prop.name = name
      · subst same
        simp [settle]
      · simp [settle, same, Ne.symm same]

theorem noDefault_of_declarations {program : Node} {candidate : Candidate} {prop : PropDecl}
    (isDeclared : prop ∈ (declarations survey program candidate).filterMap Declared.prop?) :
    prop.declaredDefault = none := by
  unfold declarations at isDeclared
  dsimp only at isDeclared
  cases isRead : ((survey.staticValue? candidate "propTypes").bind survey.object?).bind
      (declared? survey (program.count .object + 1)) with
  | none =>
      rw [isRead] at isDeclared
      cases isDeclared
  | some declared =>
      rw [isRead] at isDeclared
      obtain ⟨object, _, fromObject⟩ := Option.bind_eq_some_iff.mp isRead
      exact noDefault_of_tellAll (tellAll_of_declared? fromObject) prop isDeclared

def defaultsObject? (survey : Survey) (candidate : Candidate) : Option Node :=
  (survey.staticValue? candidate "defaultProps").bind survey.object?

/-- An object has the same names as one of defaults and as one of prop types just if no member of it
is shorthand. Just the names of its pairs become defaults of a component, beside those that the
component has of its own. -/
theorem names_agree_iff (survey : Survey) (object : Node) :
    (∀ props, ReadAs survey object props →
      ((objectDefaults object).map (·.1) = props.map (·.name) ↔
        ∀ member ∈ object.childNodes, member.kind ≠ .shorthand)) ∧
    ∀ program candidate, defaultsObject? survey candidate = some object → ∀ name,
      HasDefault ((extractFrom survey program candidate).component.props.getD []) name ↔
        name ∈ (ownDefaults candidate).map (·.1) ∨
          ∃ member ∈ object.childNodes, member.kind = .pair ∧ memberName? member = some name := by
  constructor
  · intro props readAs
    rw [map_fst_objectDefaults, map_name_of_tellAll (readAs_iff_tellAll.mp readAs),
      filterMap_defaultName?_eq_iff]
  · intro program candidate isObject name
    have given : givenDefaults survey candidate = objectDefaults object :=
      congrArg (fun found => (found.map objectDefaults).getD []) isObject
    rw [props_extractFrom,
      hasDefault_attachDefaults_iff fun _ isDeclared => noDefault_of_declarations isDeclared,
      ← mem_objectDefaults_iff, ← given, ← List.mem_append, ← List.map_append]

/-- A member without a colon: its name is read as that of a prop type, and not as that of a
default. -/
theorem shorthand_default_lost :
    let source := Text.ofLines [
      "const size = 3;",
      "const Card = () => <b />;",
      "Card.propTypes = \x7b size: PropTypes.number \x7d;",
      "Card.defaultProps = \x7b size \x7d;"]
    (∃ program candidate object props, Module.read? .javaScript source.toList = some program ∧
      (Survey.ofProgram program).resolve? = some candidate ∧
      defaultsObject? (Survey.ofProgram program) candidate = some object ∧
      ReadAs (Survey.ofProgram program) object props ∧ props.map (·.name) = ["size"] ∧
      (objectDefaults object).map (·.1) = []) ∧
    (extract "Card.js" source).toOption.map (fun found =>
      (found.component.props.getD []).map fun prop => (prop.name, prop.declaredDefault)) =
      some [("size", none)] := by
  intro source
  refine ⟨?_, by decide +kernel⟩
  have evaluated : (Module.read? .javaScript source.toList).any fun program =>
      (Survey.ofProgram program).resolve?.any fun candidate =>
        (defaultsObject? (Survey.ofProgram program) candidate).any fun object =>
          (declared? (Survey.ofProgram program) 1 object).any fun declared =>
            (declared.filterMap Declared.prop?).map (·.name) == ["size"] &&
              (objectDefaults object).map (·.1) == [] := by
    decide +kernel
  obtain ⟨program, read, evaluated⟩ := (Option.any_eq_true ..).mp evaluated
  obtain ⟨candidate, resolved, evaluated⟩ := (Option.any_eq_true ..).mp evaluated
  obtain ⟨object, isObject, evaluated⟩ := (Option.any_eq_true ..).mp evaluated
  obtain ⟨declared, isRead, evaluated⟩ := (Option.any_eq_true ..).mp evaluated
  obtain ⟨named, unnamed⟩ := Bool.and_eq_true_iff.mp evaluated
  exact ⟨program, candidate, object, _, read, resolved, isObject, ⟨1, declared, isRead, rfl⟩,
    beq_iff_eq.mp named, beq_iff_eq.mp unnamed⟩

end SnapshotGen.Extraction
