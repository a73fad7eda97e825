import SnapshotGen.Proofs.Building.Declared
import SnapshotGen.Proofs.Synthesis.Shapes
import SnapshotGen.TestText

/-!
Two ways to declare a prop without saying of what type: without a type, and with one in which kind,
text and shape are absent. Both are remarked on as props without a type, and both count as strings.
But only the first has the value of a string; the second has a value by its name, if it is named for
a plain kind, and an unknown one else.
-/

namespace SnapshotGen

def PropType.blank : PropType :=
  ⟨none, none, none⟩

def PropDecl.withType (prop : PropDecl) (type : Option PropType) : PropDecl :=
  { prop with type }

/-- The literal for a prop of which nothing but the name is known. -/
def FakeValue.nameLiteral (name : String) : String :=
  ((ofName? name).getD unknown).literal

/-- Of the values that props have by their names, only that of a string stands in quotes. -/
theorem AttributeValue.ofString_nameLiteral {name : String} (notString : name ≠ "string") :
    ofString (FakeValue.nameLiteral name) = .expression (FakeValue.nameLiteral name) := by
  unfold FakeValue.nameLiteral FakeValue.ofName?
  cases known : PropKind.ofTag? name with
  | none => decide
  | some kind =>
      have isTag : kind.tag = name := by simpa using List.find?_some known
      subst isTag
      cases kind with
      | string => exact absurd rfl notString
      | _ => decide

namespace Building

open TestModel

section Property

variable (catalog : Catalog) (sourceFile : String) (prop : PropDecl)

theorem typeLiteral_of_no_type :
    typeLiteral catalog (prop.withType none) = "\"lorem ipsum\"" := by
  rw [typeLiteral, PropDecl.synthesize_of_no_shape rfl]
  rfl

theorem typeLiteral_of_blank :
    typeLiteral catalog (prop.withType (some .blank)) = FakeValue.nameLiteral prop.name := by
  rw [typeLiteral, PropDecl.synthesize_of_no_shape rfl]
  change (FakeValue.ofPlain catalog prop.name none none).literal = _
  rw [FakeValue.ofPlain, Option.bind_none, Option.none_or, Option.bind_none, Option.bind_none,
    Option.bind_none, Option.or_none, Option.or_none, Option.or_none]
  rfl

theorem declaredProperty_of_no_type :
    declaredProperty catalog sourceFile (prop.withType none) =
      ⟨prop.name, .string, .ofString (prop.declaredDefault.getD "\"lorem ipsum\""), sourceFile⟩ := by
  rw [declaredProperty, typeLiteral_of_no_type]
  rfl

theorem declaredProperty_of_blank :
    declaredProperty catalog sourceFile (prop.withType (some .blank)) =
      ⟨prop.name, .string, .ofString (prop.declaredDefault.getD (FakeValue.nameLiteral prop.name)),
        sourceFile⟩ := by
  rw [declaredProperty, typeLiteral_of_blank]
  rfl

theorem declaredProperty_of_blank_eq_iff :
    declaredProperty catalog sourceFile (prop.withType (some .blank)) =
        declaredProperty catalog sourceFile (prop.withType none) ↔
      prop.declaredDefault.isSome ∨ prop.name = "string" := by
  rw [declaredProperty_of_blank, declaredProperty_of_no_type]
  cases prop.declaredDefault with
  | some text => simp
  | none =>
      have quoted : AttributeValue.ofString "\"lorem ipsum\"" = .quoted "\"lorem ipsum\"" := by
        decide
      by_cases isString : prop.name = "string"
      · rw [isString]
        exact iff_of_true rfl (.inr rfl)
      · simp [AttributeValue.ofString_nameLiteral isString, quoted, isString]

end Property

section Among

variable (displayName : Option String) (description : String) (front back : List PropDecl)
  (prop : PropDecl)

/-- A component that has a prop with a type between others. -/
def among (type : Option PropType) : Component :=
  ⟨displayName, description, some (front ++ prop.withType type :: back)⟩

theorem attributeProps_among (isShown : prop.name ≠ childrenProp) (type : Option PropType) :
    attributeProps (among displayName description front back prop type) =
      front.filter (·.name != childrenProp) ++
        prop.withType type :: back.filter (·.name != childrenProp) := by
  simp [attributeProps, among, PropDecl.withType, isShown]

theorem attributeProps_among_of_children (isChildren : prop.name = childrenProp)
    (type : Option PropType) :
    attributeProps (among displayName description front back prop type) =
      front.filter (·.name != childrenProp) ++ back.filter (·.name != childrenProp) := by
  simp [attributeProps, among, PropDecl.withType, isChildren]

variable {type other : Option PropType}

theorem map_attributeProps_among {α : Type} (told : PropDecl → α)
    (same : told (prop.withType type) = told (prop.withType other)) :
    (attributeProps (among displayName description front back prop type)).map told =
      (attributeProps (among displayName description front back prop other)).map told := by
  by_cases isChildren : prop.name = childrenProp
  · rw [attributeProps_among_of_children _ _ _ _ _ isChildren,
      attributeProps_among_of_children _ _ _ _ _ isChildren]
  · rw [attributeProps_among _ _ _ _ _ isChildren, attributeProps_among _ _ _ _ _ isChildren,
      List.map_append, List.map_append, List.map_cons, List.map_cons, same]

/-- What is remarked on a prop is told by no more of its type than the kind. -/
theorem diagnostics_among (sameKind : (prop.withType type).kind? = (prop.withType other).kind?)
    (sourcePath : String) :
    diagnostics sourcePath (among displayName description front back prop type) =
      diagnostics sourcePath (among displayName description front back prop other) := by
  have notEmpty (type : Option PropType) :
      ((among displayName description front back prop type).props.getD []).isEmpty = false := by
    simp [among]
  have sameRemarks (component : String) :
      propDiagnostics component sourcePath (prop.withType type) =
        propDiagnostics component sourcePath (prop.withType other) := by
    rw [propDiagnostics, propDiagnostics, sameKind]
    rfl
  rw [diagnostics, diagnostics, notEmpty, notEmpty, List.flatMap_def, List.flatMap_def]
  exact congrArg List.flatten (map_attributeProps_among _ _ _ _ _ _ (sameRemarks _))

/-- Only the property of a prop is told by more of its type than the text. -/
theorem model_among (sameText : (prop.withType type).raw? = (prop.withType other).raw?)
    (catalog : Catalog) (sourcePath relativePath : String) :
    TestModel.ofComponent catalog sourcePath relativePath
        (among displayName description front back prop type) =
      { TestModel.ofComponent catalog sourcePath relativePath
          (among displayName description front back prop other) with
        properties :=
          (attributeProps (among displayName description front back prop type)).map
            (testProp catalog relativePath) } := by
  have sameImport : catalog.importLine? (prop.withType type).raw? =
      catalog.importLine? (prop.withType other).raw? := congrArg catalog.importLine? sameText
  have imports := congrArg (List.filterMap id)
    (map_attributeProps_among displayName description front back prop
      (fun prop => catalog.importLine? prop.raw?) sameImport)
  have children (type : Option PropType) :
      ((among displayName description front back prop type).props.getD []).any
        (·.name == childrenProp) = (front ++ prop :: back).any (·.name == childrenProp) := by
    simp [among, PropDecl.withType]
  rw [List.filterMap_map, List.filterMap_map] at imports
  rw [TestModel.mk.injEq]
  exact ⟨rfl, rfl, rfl, rfl, rfl, (children type).trans (children other).symm,
    congrArg distinct imports⟩

theorem exists_properties_among (isShown : prop.name ≠ childrenProp) (catalog : Catalog)
    (sourceFile : String) : ∃ before after, ∀ type,
      (attributeProps (among displayName description front back prop type)).map
          (testProp catalog sourceFile) =
        before ++ declaredProperty catalog sourceFile (prop.withType type) :: after := by
  refine ⟨(front.filter (·.name != childrenProp)).map (testProp catalog sourceFile),
    (back.filter (·.name != childrenProp)).map (testProp catalog sourceFile), fun type => ?_⟩
  rw [attributeProps_among _ _ _ _ _ isShown, List.map_append, List.map_cons,
    testProp_eq_declaredProperty]

/-- Of a prop without a type and one with a type of which nothing is said the same is remarked. The
models are the same just if the prop is no attribute, has a default, or is named for strings; else
one property has a value by its name where the other has that of a string. -/
theorem blank_type_iff (catalog : Catalog) (sourcePath relativePath : String)
    (remarks : List Diagnostic) :
    let build := fun type => ofComponent catalog sourcePath relativePath
      (among displayName description front back prop type) remarks
    let blank := build (some .blank)
    let untyped := build none
    blank.remarks = untyped.remarks ∧
    (blank.model = untyped.model ↔
      prop.name = "children" ∨ prop.declaredDefault.isSome ∨ prop.name = "string") ∧
    (prop.name ≠ "children" → ∃ before after,
      untyped.model.properties = before ++ ⟨prop.name, .string,
        .ofString (prop.declaredDefault.getD "\"lorem ipsum\""), relativePath⟩ :: after ∧
      blank.model = { untyped.model with
        properties := before ++ ⟨prop.name, .string,
          .ofString (prop.declaredDefault.getD (FakeValue.nameLiteral prop.name)),
          relativePath⟩ :: after }) := by
  intro build blank untyped
  have sameKind : (prop.withType (some .blank)).kind? = (prop.withType none).kind? := rfl
  have sameText : (prop.withType (some .blank)).raw? = (prop.withType none).raw? := rfl
  have remarked : blank.remarks = untyped.remarks := by
    rw [remarks_ofComponent, remarks_ofComponent]
    exact congrArg (remarks ++ ·) (diagnostics_among _ _ _ _ _ sameKind sourcePath)
  have untypedModel : untyped.model = TestModel.ofComponent catalog sourcePath relativePath
      (among displayName description front back prop none) := model_ofComponent _ _ _ _ _
  have blankModel : blank.model = { untyped.model with
      properties := (attributeProps (among displayName description front back prop
        (some .blank))).map (testProp catalog relativePath) } := by
    rw [untypedModel]
    exact (model_ofComponent _ _ _ _ _).trans (model_among _ _ _ _ _ sameText _ _ _)
  by_cases isChildren : prop.name = childrenProp
  · refine ⟨remarked, iff_of_true ?_ (.inl isChildren), fun isShown => absurd isChildren isShown⟩
    rw [blankModel, attributeProps_among_of_children _ _ _ _ _ isChildren,
      ← attributeProps_among_of_children _ _ _ _ _ isChildren none, untypedModel]
    rfl
  · obtain ⟨before, after, properties⟩ := exists_properties_among displayName description front back
      prop isChildren catalog relativePath
    have untypedProperties : untyped.model.properties =
        before ++ declaredProperty catalog relativePath (prop.withType none) :: after := by
      rw [untypedModel]
      exact properties none
    rw [properties] at blankModel
    refine ⟨remarked, ?_, fun _ => ⟨before, after, ?_, ?_⟩⟩
    · have sameModel : blank.model = untyped.model ↔
          declaredProperty catalog relativePath (prop.withType (some .blank)) =
            declaredProperty catalog relativePath (prop.withType none) := by
        rw [blankModel]
        constructor
        · intro same
          have sameProperties := congrArg TestModel.properties same
          rw [untypedProperties] at sameProperties
          exact (List.cons.inj (List.append_cancel_left sameProperties)).1
        · intro same
          rw [same, ← untypedProperties]
      rw [sameModel, declaredProperty_of_blank_eq_iff]
      exact (or_iff_right isChildren).symm
    · rw [untypedProperties, declaredProperty_of_no_type]
    · rw [blankModel, declaredProperty_of_blank]

/-- A prop named for nothing gets an unknown value where its type says nothing, though the remark on
it says that it is a string. -/
theorem blank_type_title :
    let title : PropDecl := ⟨"title", none, false, none⟩
    let build := fun type => ofComponent .builtin "Card.js" "Card.js"
      (among (some "Card") "" [] [] title type) []
    (build (some .blank)).remarks = [.missingType "title" "Card" "Card.js",
        .missingDefault "title" "Card" "Card.js"] ∧
      (build none).model.properties.map TestModel.attributeOf = ["title=\"lorem ipsum\""] ∧
      (build (some .blank)).model.properties.map TestModel.attributeOf =
        ["title=\x7b\x7b\x7d\x7d"] := by
  decide

end Among

end Building

end SnapshotGen
