import SnapshotGen.Proofs.Extraction.Props
import SnapshotGen.Proofs.Script.Names
import SnapshotGen.Proofs.Script.Whole
import SnapshotGen.Proofs.Synthesis.Plain
import SnapshotGen.TestText

/-!
The names that a test takes over from a script: of the attributes in its tag, and of the fields in
the values that are made up. Both are written as they are, without the quotes of their keys.
-/

namespace SnapshotGen

open Script

namespace FakeValue

mutual

def fieldNames : FakeValue → List String
  | object fields => namesOf fields
  | _ => []

def namesOf : List (String × FakeValue) → List String
  | [] => []
  | (name, value) :: more => name :: value.fieldNames ++ namesOf more

end

theorem fieldNames_ofKind? {kind : PropKind} {value : FakeValue}
    (known : ofKind? kind = some value) : value.fieldNames = [] := by
  cases kind <;> cases known <;> rfl

theorem fieldNames_ofPlain (catalog : Catalog) (name : String) (kind : Option PropKind)
    (raw : Option String) : (ofPlain catalog name kind raw).fieldNames = [] :=
  ofPlain_induction (fun _ _ => fieldNames_ofKind?) (fun _ _ => rfl) rfl rfl name kind raw

end FakeValue

theorem PropDecl.exists_field_of_mem_namesOf {catalog : Catalog} {name : String}
    {fields : List PropDecl}
    (member : name ∈ FakeValue.namesOf (PropDecl.synthesizeFields catalog fields)) :
    ∃ field ∈ fields, name = field.name ∨ name ∈ (field.synthesize catalog).fieldNames := by
  induction fields with
  | nil =>
      rw [synthesizeFields, FakeValue.namesOf] at member
      cases member
  | cons field more induction =>
      rw [synthesizeFields, FakeValue.namesOf, List.cons_append, List.mem_cons,
        List.mem_append] at member
      rcases member with isName | inValue | inMore
      · exact ⟨field, .head _, .inl isName⟩
      · exact ⟨field, .head _, .inr inValue⟩
      · obtain ⟨other, isField, named⟩ := induction inMore
        exact ⟨other, .tail _ isField, named⟩

namespace Extraction

variable {program : Node} {prop : PropDecl}

theorem IsDeclared.isKey (isDeclared : IsDeclared program prop) : IsKey program prop.name := by
  cases isDeclared with
  | shorthand isKey => exact isKey
  | plain isKey value => exact isKey
  | shape isKey isShape areDeclared => exact isKey

theorem IsExtracted.isKey (isExtracted : IsExtracted program prop) : IsKey program prop.name := by
  cases isExtracted with
  | declared isDeclared => exact isDeclared.isKey
  | defaulted isDeclared text => exact isDeclared.isKey
  | untyped isKey text => exact isKey

theorem IsExtracted.isDeclared (isExtracted : IsExtracted program prop)
    (noDefault : prop.declaredDefault = none) : IsDeclared program prop := by
  cases isExtracted with
  | declared isDeclared => exact isDeclared
  | defaulted isDeclared text => cases noDefault
  | untyped isKey text => cases noDefault

/-- The names of fields are keys like those of props. -/
theorem IsDeclared.isKey_of_mem_fieldNames (isDeclared : IsDeclared program prop)
    {catalog : Catalog} {name : String} (member : name ∈ (prop.synthesize catalog).fieldNames) :
    IsKey program name := by
  induction isDeclared with
  | shorthand isKey =>
      rw [shorthandProp, PropDecl.synthesize, FakeValue.fieldNames_ofPlain] at member
      cases member
  | plain isKey value =>
      rw [declaredProp, PropDecl.synthesize, FakeValue.fieldNames_ofPlain] at member
      cases member
  | shape isKey isShape areDeclared induction =>
      rw [declaredProp, PropDecl.synthesize, FakeValue.fieldNames] at member
      obtain ⟨field, isField, rfl | inValue⟩ := PropDecl.exists_field_of_mem_namesOf member
      · exact (areDeclared field isField).isKey
      · exact induction field isField inValue

/-- The name is that of a key in a script, and all keys of the name tell whether it can stand as an
attribute and as a property, whatever letters names can have. -/
structure KeysTell (program : Node) (name : String) : Prop where
  isKey : IsKey program name
  inTag : ∀ key ∈ program.parts, key.key? = some name →
    ∀ letters, isAttributeName letters name = true ↔ key.NamesAttribute letters
  inLiteral : ∀ key ∈ program.parts, key.key? = some name →
    ∀ letters, IsPropertyName letters name ↔ key.NamesProperty letters

theorem keysTell_of_isKey {name : String} (faithful : program.Faithful)
    (isKey : IsKey program name) : KeysTell program name :=
  ⟨isKey,
    fun key inProgram named letters =>
      (Node.names_iff_of_key? letters (faithful key inProgram) named).1,
    fun key inProgram named letters =>
      (Node.names_iff_of_key? letters (faithful key inProgram) named).2⟩

/-- Every name that a test takes over is that of a key in the script. As an attribute it is what it
should be just if the key is a name without escapes, or has an attribute name in its quotes; as a
field just if the key is a name, a number without a zero in front, or has a property name in its
quotes. Of a name beyond printed ASCII or with escapes a table of letters decides. -/
theorem keysTell_of_extract {path source : String} {found : Extract}
    (extracted : extract path source = .ok found) :
    ∃ dialect program, Dialect.ofPath? path.toList = some dialect ∧
      Module.read? dialect source.toList = some program ∧
      ∀ (catalog : Catalog) (sourcePath relativePath : String),
        (∀ prop ∈ (TestModel.ofComponent catalog sourcePath relativePath found.component).properties,
          KeysTell program prop.name) ∧
        ∀ prop ∈ TestModel.attributeProps found.component, prop.declaredDefault = none →
          ∀ name ∈ (prop.synthesize catalog).fieldNames, KeysTell program name := by
  obtain ⟨dialect, program, ofPath, read, ofProgram⟩ := exists_read_of_extract extracted
  have faithful := Module.faithful_of_read? read
  refine ⟨dialect, program, ofPath, read, fun catalog sourcePath relativePath => ⟨?_, ?_⟩⟩
  · intro written isWritten
    obtain ⟨prop, isProp, rfl⟩ := List.mem_map.mp isWritten
    have isExtracted := isExtracted_of_ofProgram ofProgram (List.mem_filter.mp isProp).1
    exact keysTell_of_isKey faithful isExtracted.isKey
  · intro prop isProp noDefault name member
    have isExtracted := isExtracted_of_ofProgram ofProgram (List.mem_filter.mp isProp).1
    have isDeclared := isExtracted.isDeclared noDefault
    exact keysTell_of_isKey faithful (isDeclared.isKey_of_mem_fieldNames member)

/-- A script with a shape that has one field; its key stands as it is given. -/
def fieldScript (key : String) : String := Text.ofLines [
  "const Card = () => <b />;",
  "Card.propTypes = \x7b",
  "  info: PropTypes.shape(\x7b " ++ key ++ ": PropTypes.string \x7d)",
  "\x7d;"]

theorem exists_dataId : ∃ found prop, extract "Card.js" (fieldScript "'data-id'") = .ok found ∧
    prop ∈ TestModel.attributeProps found.component ∧ prop.declaredDefault = none ∧
    (prop.synthesize .builtin).fieldNames = ["data-id"] ∧
    TestModel.attributeOf (TestModel.testProp .builtin "Card.js" prop) =
      "info=\x7b\x7b data-id: \"lorem ipsum\" \x7d\x7d" := by
  have evaluated : ((extract "Card.js" (fieldScript "'data-id'")).toOption.bind fun found =>
      (TestModel.attributeProps found.component).head?.map fun prop =>
        (prop.declaredDefault, (prop.synthesize .builtin).fieldNames,
          TestModel.attributeOf (TestModel.testProp .builtin "Card.js" prop))) =
      some (none, ["data-id"], "info=\x7b\x7b data-id: \"lorem ipsum\" \x7d\x7d") := by
    decide +kernel
  obtain ⟨found, isFound, first⟩ := Option.bind_eq_some_iff.mp evaluated
  obtain ⟨prop, isFirst, same⟩ := Option.map_eq_some_iff.mp first
  simp only [Prod.mk.injEq] at same
  exact ⟨found, prop, extract_of_toOption isFound, List.mem_of_head? isFirst, same⟩

theorem not_isPropertyName_dataId (letters : Letters) : ¬IsPropertyName letters "data-id" := by
  have chars : "data-id".toList = ['d', 'a', 't', 'a', '-', 'i', 'd'] := rfl
  rintro (isName | isNumeral | ⟨quote, rest, same, isQuote, -⟩)
  · obtain ⟨-, continue'⟩ := (isIdentifierName_iff_of_plain chars (by decide)).mp isName
    have dash := continue' '-' (by decide)
    rw [Letters.continues_of_ascii (by decide)] at dash
    exact absurd dash (by decide)
  · obtain ⟨c, rest, same, isFirst⟩ := isNumeral.exists_cons
    obtain rfl := (List.cons.inj (chars.symm.trans same)).1
    exact absurd isFirst (by decide)
  · obtain rfl := (List.cons.inj (chars.symm.trans same)).1
    exact absurd isQuote (by decide)

/-- The key of the field tells that its name cannot stand without quotes. -/
theorem keysTell_of_extract_dataId : ∃ found dialect program key,
    extract "Card.js" (fieldScript "'data-id'") = .ok found ∧
      Dialect.ofPath? "Card.js".toList = some dialect ∧
      Module.read? dialect (fieldScript "'data-id'").toList = some program ∧
      key ∈ program.parts ∧ key.key? = some "data-id" ∧
      ∀ letters, ¬key.NamesProperty letters := by
  obtain ⟨found, prop, extracted, isProp, noDefault, names, _⟩ := exists_dataId
  obtain ⟨dialect, program, ofPath, read, tells⟩ := keysTell_of_extract extracted
  have keysTell : KeysTell program "data-id" :=
    (tells .builtin "" "").2 prop isProp noDefault "data-id" (by simp [names])
  obtain ⟨key, inProgram, named⟩ := keysTell.isKey
  refine ⟨found, dialect, program, key, extracted, ofPath, read, inProgram, named, ?_⟩
  intro letters
  rw [← keysTell.inLiteral key inProgram named letters]
  exact not_isPropertyName_dataId letters

/-- A key in quotes is written without them, also where its name needs them. -/
theorem dataId_written_without_quotes : ∃ found prop,
    extract "Card.js" (fieldScript "'data-id'") = .ok found ∧
      prop ∈ TestModel.attributeProps found.component ∧ prop.declaredDefault = none ∧
      "data-id" ∈ (prop.synthesize .builtin).fieldNames ∧
      (∀ letters, ¬IsPropertyName letters "data-id") ∧
      TestModel.attributeOf (TestModel.testProp .builtin "Card.js" prop) =
        "info=\x7b\x7b data-id: \"lorem ipsum\" \x7d\x7d" := by
  obtain ⟨found, prop, extracted, isProp, noDefault, names, written⟩ := exists_dataId
  exact ⟨found, prop, extracted, isProp, noDefault, by simp [names], not_isPropertyName_dataId,
    written⟩

end Extraction

end SnapshotGen
