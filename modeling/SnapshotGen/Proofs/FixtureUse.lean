import SnapshotGen.TestModel

/-!
Which fixtures the values of a test name, and which of them the test imports. Values name fixtures
at any depth of a shape; imports are asked for by the types of the props alone.
-/

namespace SnapshotGen

namespace FakeValue

theorem fixtures_ofKind? {kind : PropKind} {value : FakeValue}
    (known : ofKind? kind = some value) : value.fixtures = [] := by
  cases kind <;> simp only [ofKind?, Option.some.injEq, reduceCtorEq] at known <;>
    subst known <;> rfl

theorem fixtures_ofName? {name : String} {value : FakeValue}
    (known : ofName? name = some value) : value.fixtures = [] := by
  obtain ⟨kind, _, ofKind⟩ := Option.bind_eq_some_iff.mp known
  exact fixtures_ofKind? ofKind

theorem fixtures_ofRawMember? {raw : String} {value : FakeValue}
    (known : ofRawMember? raw = some value) : value.fixtures = [] := by
  obtain ⟨tag, _, ofTag⟩ := Option.bind_eq_some_iff.mp known
  by_cases isNode : tag = "node"
  · simp [isNode] at ofTag
  · rw [if_neg isNode] at ofTag
    exact fixtures_ofName? ofTag

/-- The rules that go before the catalog: the kind, the name and the plain members of the type. -/
def beforeCatalog? (name : String) (kind : Option PropKind) (raw : Option String) :
    Option FakeValue :=
  (kind.bind ofKind?).or <| (ofName? name).or <| raw.bind ofRawMember?

theorem fixtures_beforeCatalog? {name : String} {kind : Option PropKind} {raw : Option String}
    {value : FakeValue} (known : beforeCatalog? name kind raw = some value) :
    value.fixtures = [] := by
  simp only [beforeCatalog?, Option.or_eq_some_iff] at known
  rcases known with ofKind | ⟨_, ofName | ⟨_, ofRaw⟩⟩
  · obtain ⟨_, _, found⟩ := Option.bind_eq_some_iff.mp ofKind
    exact fixtures_ofKind? found
  · exact fixtures_ofName? ofName
  · obtain ⟨_, _, found⟩ := Option.bind_eq_some_iff.mp ofRaw
    exact fixtures_ofRawMember? found

/-- The fixture that is the value of a prop without fields: that of its type, where no earlier rule
gives a value. -/
def plainFixture? (catalog : Catalog) (name : String) (kind : Option PropKind)
    (raw : Option String) : Option Fixture :=
  match beforeCatalog? name kind raw with
  | some _ => none
  | none => raw.bind catalog.lookup?

theorem fixtures_ofPlain (catalog : Catalog) (name : String) (kind : Option PropKind)
    (raw : Option String) :
    (ofPlain catalog name kind raw).fixtures =
      (plainFixture? catalog name kind raw).toList.map Fixture.identifier := by
  have split :
      ofPlain catalog name kind raw =
        ((beforeCatalog? name kind raw).or <|
          (raw.bind (ofCatalog? catalog)).or <| raw.bind ofRawNode?).getD unknown := by
    simp only [ofPlain, beforeCatalog?, Option.or_assoc]
  rw [split, plainFixture?]
  cases early : beforeCatalog? name kind raw with
  | some value => simpa using fixtures_beforeCatalog? early
  | none =>
      cases raw with
      | none => rfl
      | some raw =>
          cases found : catalog.lookup? raw with
          | some fixture => simp [ofCatalog?, found, fixtures]
          | none =>
              by_cases isNode : Fixture.stripRequired raw = "node" <;>
                simp [ofCatalog?, ofRawNode?, found, isNode, fixtures]

end FakeValue

namespace PropDecl

mutual

/-- The fixtures that a prop's value names, one for each place, as the catalog gives them. -/
def usedFixtures (catalog : Catalog) : PropDecl → List Fixture
  | ⟨_, some ⟨_, _, some fields⟩, _, _⟩ => fieldFixtures catalog fields
  | ⟨name, some ⟨kind, raw, none⟩, _, _⟩ =>
    (FakeValue.plainFixture? catalog name kind raw).toList
  | ⟨name, none, _, _⟩ => (FakeValue.plainFixture? catalog name none none).toList

def fieldFixtures (catalog : Catalog) : List PropDecl → List Fixture
  | [] => []
  | field :: more => field.usedFixtures catalog ++ fieldFixtures catalog more

end

mutual

theorem fixtures_synthesize (catalog : Catalog) : (prop : PropDecl) →
    (prop.synthesize catalog).fixtures =
      (prop.usedFixtures catalog).map Fixture.identifier
  | ⟨_, some ⟨_, _, some fields⟩, _, _⟩ => by
      simpa only [synthesize, FakeValue.fixtures, usedFixtures] using
        fixtures_synthesizeFields catalog fields
  | ⟨name, some ⟨kind, raw, none⟩, _, _⟩ => by
      simpa only [synthesize, usedFixtures] using
        FakeValue.fixtures_ofPlain catalog name kind raw
  | ⟨name, none, _, _⟩ => by
      simpa only [synthesize, usedFixtures] using
        FakeValue.fixtures_ofPlain catalog name none none

theorem fixtures_synthesizeFields (catalog : Catalog) : (fields : List PropDecl) →
    FakeValue.fieldFixtures (synthesizeFields catalog fields) =
      (fieldFixtures catalog fields).map Fixture.identifier
  | [] => rfl
  | field :: more => by
      rw [synthesizeFields, FakeValue.fieldFixtures, fieldFixtures, List.map_append,
        fixtures_synthesize catalog field, fixtures_synthesizeFields catalog more]

end

theorem usedFixtures_of_shape? {catalog : Catalog} {prop : PropDecl} {fields : List PropDecl}
    (shaped : prop.shape? = some fields) :
    prop.usedFixtures catalog = fieldFixtures catalog fields := by
  obtain ⟨name, type, required, default⟩ := prop
  obtain ⟨⟨kind, raw, shape⟩, rfl, hasFields⟩ := Option.bind_eq_some_iff.mp shaped
  obtain rfl : shape = some fields := hasFields
  rw [usedFixtures]

/-- A prop that is no shape names at most the fixture of its own type. -/
theorem lookup?_of_mem_usedFixtures {catalog : Catalog} {prop : PropDecl} {fixture : Fixture}
    (plain : prop.shape? = none) (used : fixture ∈ prop.usedFixtures catalog) :
    ∃ raw, prop.raw? = some raw ∧ catalog.lookup? raw = some fixture := by
  obtain ⟨name, type, required, default⟩ := prop
  cases type with
  | none =>
      rw [usedFixtures, FakeValue.plainFixture?] at used
      cases early : FakeValue.beforeCatalog? name none none <;> simp [early] at used
  | some type =>
      obtain ⟨kind, raw, shape⟩ := type
      obtain rfl : shape = none := plain
      rw [usedFixtures, FakeValue.plainFixture?] at used
      cases early : FakeValue.beforeCatalog? name kind raw with
      | some _ => simp [early] at used
      | none =>
          simp only [early, Option.mem_toList] at used
          exact Option.bind_eq_some_iff.mp used

end PropDecl

namespace TestModel

theorem mem_foldl_distinct (line : String) (imports seen : List String) :
    line ∈ imports.foldl
        (fun seen line => if seen.contains line then seen else seen ++ [line]) seen ↔
      line ∈ seen ∨ line ∈ imports := by
  induction imports generalizing seen with
  | nil => simp
  | cons first more induction =>
      rw [List.foldl_cons, induction]
      by_cases known : first ∈ seen
      · simp only [List.contains_iff_mem.mpr known, if_true, List.mem_cons]
        constructor
        · rintro (inSeen | inMore)
          · exact .inl inSeen
          · exact .inr (.inr inMore)
        · rintro (inSeen | rfl | inMore)
          · exact .inl inSeen
          · exact .inl known
          · exact .inr inMore
      · simp [known, or_assoc]

@[simp] theorem mem_distinct {line : String} {imports : List String} :
    line ∈ distinct imports ↔ line ∈ imports := by
  rw [distinct, mem_foldl_distinct]
  simp

/-- Some attribute has a type in the catalog whose fixture is imported by the line. -/
def AsksFor (catalog : Catalog) (component : Component) (line : String) : Prop :=
  ∃ prop ∈ attributeProps component, ∃ raw fixture,
    prop.raw? = some raw ∧ catalog.lookup? raw = some fixture ∧ fixture.importLine = line

theorem mem_fixtureImports_iff {catalog : Catalog} {sourcePath relativePath line : String}
    {component : Component} :
    line ∈ (ofComponent catalog sourcePath relativePath component).fixtureImports ↔
      AsksFor catalog component line := by
  simp only [ofComponent, mem_distinct, List.mem_filterMap, AsksFor, Catalog.importLine?,
    Option.bind_eq_some_iff, Option.map_eq_some_iff]
  constructor
  · rintro ⟨prop, member, raw, hasRaw, fixture, found, written⟩
    exact ⟨prop, member, raw, fixture, hasRaw, found, written⟩
  · rintro ⟨prop, member, raw, fixture, hasRaw, found, written⟩
    exact ⟨prop, member, raw, hasRaw, fixture, found, written⟩

/-- The fixtures that values name are imported just if those inside shapes are also the types of
attributes. What a value names is given by `usedFixtures`, place by place. -/
theorem fixtureImports_cover_iff (catalog : Catalog) (sourcePath relativePath : String)
    (component : Component) :
    (∀ prop : PropDecl, (prop.synthesize catalog).fixtures =
      (prop.usedFixtures catalog).map Fixture.identifier) ∧
    ((∀ prop ∈ attributeProps component, prop.declaredDefault = none →
        ∀ fixture ∈ prop.usedFixtures catalog, fixture.importLine ∈
          (ofComponent catalog sourcePath relativePath component).fixtureImports) ↔
      ∀ prop ∈ attributeProps component, prop.declaredDefault = none →
        ∀ fields, prop.shape? = some fields →
          ∀ fixture ∈ PropDecl.fieldFixtures catalog fields,
            AsksFor catalog component fixture.importLine) := by
  refine ⟨PropDecl.fixtures_synthesize catalog, ?_⟩
  simp only [mem_fixtureImports_iff]
  constructor
  · intro imported prop member noDefault fields shaped fixture used
    apply imported prop member noDefault
    rwa [PropDecl.usedFixtures_of_shape? shaped]
  · intro nested prop member noDefault fixture used
    cases shaped : prop.shape? with
    | none =>
        obtain ⟨raw, hasRaw, found⟩ := PropDecl.lookup?_of_mem_usedFixtures shaped used
        exact ⟨prop, member, raw, fixture, hasRaw, found, rfl⟩
    | some fields =>
        apply nested prop member noDefault fields shaped
        rwa [PropDecl.usedFixtures_of_shape? shaped] at used

/-- The type of a field has no import of its own. -/
theorem nested_fixture_not_imported :
    let owner : PropDecl :=
      ⟨"owner", some ⟨some .custom, some "RomanPropTypes.User", none⟩, false, none⟩
    let info : PropDecl :=
      ⟨"info", some ⟨some .shape, some "PropTypes.shape(\x7b owner: RomanPropTypes.User \x7d)",
        some [owner]⟩, false, none⟩
    let component : Component := ⟨some "Card", "", some [info]⟩
    info ∈ attributeProps component ∧ info.declaredDefault = none ∧
      (info.synthesize .builtin).fixtures = ["user"] ∧
      (ofComponent .builtin "Card.js" "Card.js" component).fixtureImports = [] := by
  refine ⟨?_, rfl, ?_, ?_⟩
  · simp [attributeProps, childrenProp]
  · decide
  · decide

end TestModel

end SnapshotGen
