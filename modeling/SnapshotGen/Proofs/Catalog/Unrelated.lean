import SnapshotGen.Batch
import SnapshotGen.Proofs.Catalog.Override
import SnapshotGen.Proofs.Outcomes

/-!
What a test takes from its catalog: the fixtures of the types that its component declares, those of
fields included. Fixtures of other types change nothing, wherever they are stored.
-/

namespace SnapshotGen

open Fixture

namespace PropDecl

mutual

/-- The texts of the types that a prop and its fields are declared with, at any depth. -/
def typeTexts : PropDecl → List String
  | ⟨_, some ⟨_, raw, some fields⟩, _, _⟩ => raw.toList ++ fieldTypeTexts fields
  | ⟨_, some ⟨_, raw, none⟩, _, _⟩ => raw.toList
  | ⟨_, none, _, _⟩ => []

def fieldTypeTexts : List PropDecl → List String
  | [] => []
  | field :: more => field.typeTexts ++ fieldTypeTexts more

end

theorem mem_typeTexts_of_raw? {prop : PropDecl} {raw : String} (hasRaw : prop.raw? = some raw) :
    raw ∈ prop.typeTexts := by
  obtain ⟨name, type, required, default⟩ := prop
  obtain ⟨⟨kind, text, shape⟩, rfl, isRaw⟩ := Option.bind_eq_some_iff.mp hasRaw
  obtain rfl : text = some raw := isRaw
  cases shape with
  | none => exact .head _
  | some fields => exact .head _

theorem mem_fieldTypeTexts_of_mem {fields : List PropDecl} {field : PropDecl} {raw : String}
    (member : field ∈ fields) (inField : raw ∈ field.typeTexts) : raw ∈ fieldTypeTexts fields := by
  induction fields with
  | nil => cases member
  | cons first more induction =>
      rw [fieldTypeTexts, List.mem_append]
      rcases List.mem_cons.mp member with rfl | inMore
      · exact .inl inField
      · exact .inr (induction inMore)

end PropDecl

def Component.typeTexts (component : Component) : List String :=
  PropDecl.fieldTypeTexts (component.props.getD [])

def Catalog.AgreeOn (texts : List String) (catalog other : Catalog) : Prop :=
  ∀ raw ∈ texts, other.lookup? raw = catalog.lookup? raw

theorem Catalog.AgreeOn.importLine? {texts : List String} {catalog other : Catalog}
    {raw : Option String} (agree : AgreeOn texts catalog other)
    (included : ∀ text, raw = some text → text ∈ texts) :
    other.importLine? raw = catalog.importLine? raw := by
  cases raw with
  | none => rfl
  | some text => simp only [Catalog.importLine?, Option.bind_some, agree text (included text rfl)]

theorem FakeValue.ofPlain_of_agreeOn {catalog other : Catalog} {raw : Option String}
    (agree : Catalog.AgreeOn raw.toList catalog other) (name : String) (kind : Option PropKind) :
    ofPlain other name kind raw = ofPlain catalog name kind raw := by
  cases raw with
  | none => rfl
  | some text => simp only [ofPlain, Option.bind_some, ofCatalog?, agree text (.head _)]

namespace PropDecl

mutual

theorem synthesize_of_agreeOn {catalog other : Catalog} : (prop : PropDecl) →
    Catalog.AgreeOn prop.typeTexts catalog other → prop.synthesize other = prop.synthesize catalog
  | ⟨name, some ⟨kind, raw, some fields⟩, required, default⟩, agree => by
      rw [typeTexts] at agree
      have inFields := synthesizeFields_of_agreeOn fields fun text member =>
        agree text (List.mem_append_right _ member)
      rw [synthesize, synthesize, inFields]
  | ⟨name, some ⟨kind, raw, none⟩, required, default⟩, agree => by
      rw [typeTexts] at agree
      rw [synthesize, synthesize, FakeValue.ofPlain_of_agreeOn agree]
  | ⟨name, none, required, default⟩, _ => by
      rw [synthesize, synthesize]
      rfl

theorem synthesizeFields_of_agreeOn {catalog other : Catalog} : (fields : List PropDecl) →
    Catalog.AgreeOn (fieldTypeTexts fields) catalog other →
    synthesizeFields other fields = synthesizeFields catalog fields
  | [], _ => rfl
  | field :: more, agree => by
      rw [fieldTypeTexts] at agree
      have first := synthesize_of_agreeOn field fun text member =>
        agree text (List.mem_append_left _ member)
      have rest := synthesizeFields_of_agreeOn more fun text member =>
        agree text (List.mem_append_right _ member)
      rw [synthesizeFields, synthesizeFields, first, rest]

end

end PropDecl

namespace TestModel

variable {catalog other : Catalog} {component : Component}

theorem agreeOn_of_mem_attributeProps (agree : Catalog.AgreeOn component.typeTexts catalog other)
    {prop : PropDecl} (member : prop ∈ attributeProps component) :
    Catalog.AgreeOn prop.typeTexts catalog other := fun text inProp =>
  agree text (PropDecl.mem_fieldTypeTexts_of_mem (List.mem_filter.mp member).1 inProp)

theorem propText_of_agreeOn {prop : PropDecl}
    (agree : Catalog.AgreeOn prop.typeTexts catalog other) :
    propText other prop = propText catalog prop := by
  obtain ⟨name, type, required, default⟩ := prop
  unfold propText
  cases default with
  | some text => rfl
  | none =>
      cases type with
      | none => simp only [propText.standIn, PropType.ofKind, PropDecl.synthesize]; rfl
      | some type => simp only [propText.standIn, PropDecl.synthesize_of_agreeOn _ agree]

/-- The model of a test is told by what the catalog finds for the types of the component. -/
theorem ofComponent_of_agreeOn (agree : Catalog.AgreeOn component.typeTexts catalog other)
    (sourcePath relativePath : String) :
    ofComponent other sourcePath relativePath component =
      ofComponent catalog sourcePath relativePath component := by
  have sameProps : (attributeProps component).map (testProp other relativePath) =
      (attributeProps component).map (testProp catalog relativePath) := by
    refine List.map_congr_left fun prop member => ?_
    rw [testProp, testProp, propText_of_agreeOn (agreeOn_of_mem_attributeProps agree member)]
  have sameImports :
      (attributeProps component).filterMap (fun prop => other.importLine? prop.raw?) =
        (attributeProps component).filterMap (fun prop => catalog.importLine? prop.raw?) := by
    refine List.filterMap_congr fun prop member => ?_
    exact (agreeOn_of_mem_attributeProps agree member).importLine? fun _ hasRaw =>
      PropDecl.mem_typeTexts_of_raw? hasRaw
  simp only [ofComponent, sameProps, sameImports]

end TestModel

namespace Batch

variable {catalog other : Catalog} {component : Component}

theorem standInNotices_of_agreeOn (agree : Catalog.AgreeOn component.typeTexts catalog other) :
    standInNotices other component = standInNotices catalog component := by
  refine List.map_congr_left fun prop member => ?_
  have isProp := (List.mem_filter.mp member).1
  rw [TestModel.propText_of_agreeOn (TestModel.agreeOn_of_mem_attributeProps agree isProp)]

theorem step_of_agreeOn {generator : Generator} {root file : String} {disk : Disk}
    {found : Extraction.Extract} (extracted : SourceFile.extract file (disk.read file) = .ok found)
    (agree : Catalog.AgreeOn found.component.typeTexts generator.catalog other) :
    step { generator with catalog := other } root disk file = step generator root disk file := by
  unfold step
  simp only [extracted, TestModel.ofComponent_of_agreeOn agree, standInNotices_of_agreeOn agree]
  rfl

end Batch

namespace Catalog

/-- No fixture of the list has the type of a prop or of a field. -/
def Unrelated (extra : List Fixture) (component : Component) : Prop :=
  ∀ fixture ∈ extra, ∀ raw ∈ component.typeTexts, fixture.key ≠ stripRequired raw

theorem agreeOn_insertAll {extra : List Fixture} {component : Component}
    (unrelated : Unrelated extra component) (catalog : Catalog) :
    AgreeOn component.typeTexts catalog (catalog.insertAll extra) := by
  intro raw member
  have nothing : lastFor? (stripRequired raw) extra = none := by
    rw [lastFor?, Option.map_eq_none_iff, List.find?_eq_none]
    intro fixture isExtra
    simpa using unrelated fixture (List.mem_reverse.mp isExtra) raw member
  rw [lookup?_insertAll, nothing, Option.none_or]

/-- Fixtures of types that a component does not declare change neither the model of its test nor
the stand-ins that are reported for it, in whatever catalog they are stored (the other diagnostics
read no catalog at all); so from a file with the component the same test is written, and the same
is said of it. -/
theorem test_of_unrelated {extra : List Fixture} {component : Component}
    (unrelated : Unrelated extra component) (catalog : Catalog) (file relativePath : String) :
    TestModel.ofComponent (catalog.insertAll extra) file relativePath component =
        TestModel.ofComponent catalog file relativePath component ∧
      Batch.standInNotices (catalog.insertAll extra) component =
        Batch.standInNotices catalog component ∧
      ∀ (generator : Generator) (root : String) (disk : Disk) (found : Extraction.Extract),
        generator.catalog = catalog → SourceFile.extract file (disk.read file) = .ok found →
        found.component = component →
        Batch.step { generator with catalog := catalog.insertAll extra } root disk file =
          Batch.step generator root disk file := by
  have agree := agreeOn_insertAll unrelated catalog
  refine ⟨TestModel.ofComponent_of_agreeOn agree file relativePath,
    Batch.standInNotices_of_agreeOn agree, ?_⟩
  rintro generator root disk found rfl extracted rfl
  exact Batch.step_of_agreeOn extracted agree

def orderDisk : Disk :=
  let script := Text.ofLines [
    "const Card = () => <b />;",
    "Card.propTypes = \x7b",
    "  info: PropTypes.shape(\x7b order: RomanPropTypes.Order.isRequired \x7d)",
    "\x7d;"]
  ⟨.directory [("Card.js", .file script.toUTF8)], []⟩

/-- Another fixture of users, and one of carts, mean nothing to a card of orders. -/
theorem test_of_unrelated_shop : ∃ found,
    SourceFile.extract "Card.js" (orderDisk.read "Card.js") = .ok found ∧
      found.component.typeTexts =
        ["PropTypes.shape(\x7b order: RomanPropTypes.Order.isRequired \x7d)",
          "RomanPropTypes.Order.isRequired"] ∧
      Unrelated shopFixtures found.component ∧
      TestModel.ofComponent (builtin.insertAll shopFixtures) "Card.js" "Card.js" found.component =
        TestModel.ofComponent builtin "Card.js" "Card.js" found.component ∧
      ∀ render format,
        Batch.step ⟨builtin.insertAll shopFixtures, render, format⟩ "." orderDisk "Card.js" =
          Batch.step ⟨builtin, render, format⟩ "." orderDisk "Card.js" := by
  have evaluated :
      (SourceFile.extract "Card.js" (orderDisk.read "Card.js")).toOption.map
          (·.component.typeTexts) =
        some ["PropTypes.shape(\x7b order: RomanPropTypes.Order.isRequired \x7d)",
          "RomanPropTypes.Order.isRequired"] := by
    decide +kernel
  obtain ⟨found, isFound, texts⟩ := Option.map_eq_some_iff.mp evaluated
  have extracted := toOption_eq_some.mp isFound
  have unrelated : Unrelated shopFixtures found.component := by
    unfold Unrelated
    rw [texts]
    decide +kernel
  obtain ⟨sameModel, _, sameStep⟩ := test_of_unrelated unrelated builtin "Card.js" "Card.js"
  exact ⟨found, extracted, texts, unrelated, sameModel, fun render format =>
    sameStep ⟨builtin, render, format⟩ "." orderDisk found rfl extracted rfl⟩

end Catalog

end SnapshotGen
