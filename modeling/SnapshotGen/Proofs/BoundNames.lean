import Mathlib.Data.List.Nodup
import Mathlib.Data.Set.Finite.Basic
import SnapshotGen.Proofs.Catalog
import SnapshotGen.Proofs.FixtureUse
import SnapshotGen.Proofs.Script.Identifiers
import SnapshotGen.TestText

/-!
The names that the imports of a test bind. Imports are told apart by their whole text, so a name is
bound once in every test just if no two imports of the catalog share a name and none binds one that
every test binds. Which names a statement binds is for a reading of scripts to tell; nothing is
asked of it but that it knows the plainest form of an import.
-/

namespace SnapshotGen

open Script

namespace PropDecl

mutual

theorem mem_fixtures_of_mem_usedFixtures {catalog : Catalog} {fixture : Fixture} :
    (prop : PropDecl) → fixture ∈ prop.usedFixtures catalog → fixture ∈ catalog.fixtures
  | ⟨name, some ⟨kind, raw, some fields⟩, required, default⟩, used => by
      rw [usedFixtures] at used
      exact mem_fixtures_of_mem_fieldFixtures fields used
  | ⟨name, some ⟨kind, raw, none⟩, required, default⟩, used => by
      obtain ⟨_, _, found⟩ := lookup?_of_mem_usedFixtures rfl used
      exact Catalog.mem_of_lookup? found
  | ⟨name, none, required, default⟩, used => by
      obtain ⟨_, _, found⟩ := lookup?_of_mem_usedFixtures rfl used
      exact Catalog.mem_of_lookup? found

theorem mem_fixtures_of_mem_fieldFixtures {catalog : Catalog} {fixture : Fixture} :
    (fields : List PropDecl) → fixture ∈ fieldFixtures catalog fields → fixture ∈ catalog.fixtures
  | [], used => by
      rw [fieldFixtures] at used
      cases used
  | field :: more, used => by
      rw [fieldFixtures] at used
      rcases List.mem_append.mp used with inField | inMore
      · exact mem_fixtures_of_mem_usedFixtures field inField
      · exact mem_fixtures_of_mem_fieldFixtures more inMore

end

end PropDecl

namespace Fixture

theorem importLine_inj_of_identifier_eq {fixture other : Fixture}
    (sameName : fixture.identifier = other.identifier) :
    fixture.importLine = other.importLine ↔ fixture.path = other.path := by
  unfold importLine
  rw [sameName, String.append_left_inj, String.append_right_inj]

/-- No mark in a path ends the quotes around it, or escapes what follows. -/
def isPlainPath (path : String) : Bool :=
  !path.toList.any (['\'', '\\', '\n', '\r'].contains ·)

/-- A name and a path that stand in an import as they are. -/
structure IsPlain (fixture : Fixture) : Prop where
  name : isIdentifier .ascii fixture.identifier = true
  path : isPlainPath fixture.path = true

end Fixture

/-- A reading tells the names that a statement binds. Of an import in the plain form it has to know
that this is the name it is written with. -/
def ReadsPlain (bound : String → List String) : Prop :=
  ∀ fixture : Fixture, fixture.IsPlain → bound fixture.importLine = [fixture.identifier]

namespace Catalog

variable {bound : String → List String} {catalog : Catalog}

/-- Different imports share no name, and none has a name twice or one that every test binds. -/
structure NamesOnce (bound : String → List String) (catalog : Catalog) : Prop where
  apart : ∀ fixture ∈ catalog.fixtures, ∀ other ∈ catalog.fixtures,
    ∀ name ∈ bound fixture.importLine, name ∈ bound other.importLine →
      fixture.importLine = other.importLine
  nodup : ∀ fixture ∈ catalog.fixtures, (bound fixture.importLine).Nodup
  notReact : ∀ fixture ∈ catalog.fixtures, "React" ∉ bound fixture.importLine
  notShallow : ∀ fixture ∈ catalog.fixtures, "shallow" ∉ bound fixture.importLine

/-- One path for each identifier, and no identifier that every test binds. -/
structure OnePath (catalog : Catalog) : Prop where
  samePath : ∀ fixture ∈ catalog.fixtures, ∀ other ∈ catalog.fixtures,
    fixture.identifier = other.identifier → fixture.path = other.path
  notReact : ∀ fixture ∈ catalog.fixtures, fixture.identifier ≠ "React"
  notShallow : ∀ fixture ∈ catalog.fixtures, fixture.identifier ≠ "shallow"

theorem namesOnce_iff_onePath (reads : ReadsPlain bound)
    (plain : ∀ fixture ∈ catalog.fixtures, fixture.IsPlain) :
    catalog.NamesOnce bound ↔ catalog.OnePath := by
  have readAs : ∀ fixture ∈ catalog.fixtures, bound fixture.importLine = [fixture.identifier] :=
    fun fixture stored => reads fixture (plain fixture stored)
  constructor
  · intro namesOnce
    refine ⟨?_, ?_, ?_⟩
    · intro fixture stored other otherStored sameName
      refine (Fixture.importLine_inj_of_identifier_eq sameName).mp ?_
      refine namesOnce.apart fixture stored other otherStored fixture.identifier ?_ ?_
      · simp [readAs fixture stored]
      · simp [readAs other otherStored, sameName]
    · intro fixture stored isReact
      exact namesOnce.notReact fixture stored (by simp [readAs fixture stored, isReact])
    · intro fixture stored isShallow
      exact namesOnce.notShallow fixture stored (by simp [readAs fixture stored, isShallow])
  · intro onePath
    refine ⟨?_, ?_, ?_, ?_⟩
    · intro fixture stored other otherStored name inFixture inOther
      rw [readAs fixture stored, List.mem_singleton] at inFixture
      rw [readAs other otherStored, List.mem_singleton] at inOther
      have sameName := inFixture.symm.trans inOther
      exact (Fixture.importLine_inj_of_identifier_eq sameName).mpr
        (onePath.samePath fixture stored other otherStored sameName)
    · intro fixture stored
      rw [readAs fixture stored]
      exact List.nodup_singleton _
    · intro fixture stored
      rw [readAs fixture stored, List.mem_singleton]
      exact (onePath.notReact fixture stored).symm
    · intro fixture stored
      rw [readAs fixture stored, List.mem_singleton]
      exact (onePath.notShallow fixture stored).symm

theorem isPlain_of_mem_builtin {fixture : Fixture} (stored : fixture ∈ builtin.fixtures) :
    fixture.IsPlain := by
  have allPlain : builtin.fixtures.all (fun fixture => isIdentifier .ascii fixture.identifier &&
      Fixture.isPlainPath fixture.path) = true := by
    decide +kernel
  have isPlain := List.all_eq_true.mp allPlain fixture stored
  rw [Bool.and_eq_true] at isPlain
  exact ⟨isPlain.1, isPlain.2⟩

theorem namesOnce_builtin (reads : ReadsPlain bound) : Catalog.builtin.NamesOnce bound := by
  refine (namesOnce_iff_onePath reads fun _ => isPlain_of_mem_builtin).mpr ⟨?_, ?_, ?_⟩ <;> decide

end Catalog

namespace TestModel

variable {bound : String → List String} {catalog : Catalog} {model : TestModel}

def ownImport (model : TestModel) : String :=
  "import " ++ model.componentName ++ " from '" ++ model.relativeImportPath ++ "'"

theorem importLines_eq_map (model : TestModel) :
    model.importLines =
      (["import React from 'react'", "import \x7b shallow \x7d from 'enzyme'"] ++
        model.fixtureImports ++ [model.ownImport]).map (· ++ ";") := by
  have closed : model.ownImport ++ ";" =
      "import " ++ model.componentName ++ " from '" ++ model.relativeImportPath ++ "';" := by
    rw [ownImport, String.append_assoc]
    rfl
  rw [List.map_append, List.map_append, List.map_singleton, closed]
  rfl

def fixtureNames (bound : String → List String) (model : TestModel) : List String :=
  model.fixtureImports.flatMap bound

/-- No import of a fixture binds the name that the test has for the component, in its tag or by its
own import. -/
def LeavesComponent (bound : String → List String) (model : TestModel) : Prop :=
  ∀ name ∈ model.componentName :: bound model.ownImport, name ∉ model.fixtureNames bound

/-- No import of a fixture binds a name that the test has bound already. -/
structure BindsOnce (bound : String → List String) (model : TestModel) : Prop where
  nodup : (model.fixtureNames bound).Nodup
  leavesComponent : model.LeavesComponent bound
  notReact : "React" ∉ model.fixtureNames bound
  notShallow : "shallow" ∉ model.fixtureNames bound

theorem nodup_foldl_distinct {imports seen : List String} (nodup : seen.Nodup) :
    (imports.foldl (fun seen line => if seen.contains line then seen else seen ++ [line])
      seen).Nodup := by
  induction imports generalizing seen with
  | nil => exact nodup
  | cons line more induction =>
      apply induction
      dsimp only
      split
      · exact nodup
      · rename_i known
        refine List.nodup_append.mpr ⟨nodup, List.nodup_singleton _, ?_⟩
        rintro first inSeen _ isLast rfl
        rw [List.mem_singleton.mp isLast] at inSeen
        exact known (List.contains_iff_mem.mpr inSeen)

theorem nodup_distinct (imports : List String) : (distinct imports).Nodup :=
  nodup_foldl_distinct List.nodup_nil

theorem foldl_distinct_of_nodup {imports : List String} (seen : List String)
    (nodup : (seen ++ imports).Nodup) :
    imports.foldl (fun seen line => if seen.contains line then seen else seen ++ [line]) seen =
      seen ++ imports := by
  induction imports generalizing seen with
  | nil => rw [List.append_nil, List.foldl_nil]
  | cons line more induction =>
      have isNew : line ∉ seen :=
        fun inSeen => (List.nodup_append.mp nodup).2.2 line inSeen line (.head _) rfl
      rw [List.foldl_cons, if_neg (mt List.contains_iff_mem.mp isNew), induction]
      · rw [List.append_assoc, List.singleton_append]
      · rwa [List.append_assoc, List.singleton_append]

theorem distinct_of_nodup {imports : List String} (nodup : imports.Nodup) :
    distinct imports = imports := by
  rw [distinct, foldl_distinct_of_nodup [] (by simpa using nodup), List.nil_append]

theorem exists_fixture_of_mem_fixtureImports {sourcePath relativePath line : String}
    {component : Component}
    (imported : line ∈ (ofComponent catalog sourcePath relativePath component).fixtureImports) :
    ∃ fixture ∈ catalog.fixtures, fixture.importLine = line := by
  obtain ⟨prop, _, raw, fixture, _, found, written⟩ := mem_fixtureImports_iff.mp imported
  exact ⟨fixture, Catalog.mem_of_lookup? found, written⟩

theorem bindsOnce_of_namesOnce (namesOnce : catalog.NamesOnce bound)
    {sourcePath relativePath : String} {component : Component}
    (leaves : (ofComponent catalog sourcePath relativePath component).LeavesComponent bound) :
    (ofComponent catalog sourcePath relativePath component).BindsOnce bound := by
  refine ⟨List.nodup_flatMap.mpr ⟨?_, ?_⟩, leaves, ?_, ?_⟩
  · intro line imported
    obtain ⟨fixture, stored, rfl⟩ := exists_fixture_of_mem_fixtureImports imported
    exact namesOnce.nodup fixture stored
  · refine List.Nodup.pairwise_of_forall_ne (nodup_distinct _) ?_
    intro line imported other otherImported different
    obtain ⟨fixture, stored, rfl⟩ := exists_fixture_of_mem_fixtureImports imported
    obtain ⟨fixture', otherStored, rfl⟩ := exists_fixture_of_mem_fixtureImports otherImported
    exact fun name inLine inOther =>
      different (namesOnce.apart fixture stored fixture' otherStored name inLine inOther)
  · intro member
    obtain ⟨line, imported, binds⟩ := List.mem_flatMap.mp member
    obtain ⟨fixture, stored, rfl⟩ := exists_fixture_of_mem_fixtureImports imported
    exact namesOnce.notReact fixture stored binds
  · intro member
    obtain ⟨line, imported, binds⟩ := List.mem_flatMap.mp member
    obtain ⟨fixture, stored, rfl⟩ := exists_fixture_of_mem_fixtureImports imported
    exact namesOnce.notShallow fixture stored binds

def propOf (fixture : Fixture) : PropDecl :=
  ⟨"prop", some ⟨some .custom, some (fixture.typeName ++ Fixture.requiredMark), none⟩, true, none⟩

def componentOf (name : String) (fixtures : List Fixture) : Component :=
  ⟨some name, "", some (fixtures.map propOf)⟩

theorem fixtureImports_componentOf (keyed : catalog.Keyed) (name : String)
    {fixtures : List Fixture} (stored : ∀ fixture ∈ fixtures, fixture ∈ catalog.fixtures)
    (nodup : (fixtures.map Fixture.importLine).Nodup) :
    (ofComponent catalog "" "" (componentOf name fixtures)).fixtureImports =
      fixtures.map Fixture.importLine := by
  have attributes : attributeProps (componentOf name fixtures) = fixtures.map propOf := by
    refine List.filter_eq_self.mpr fun prop isProp => ?_
    obtain ⟨fixture, _, rfl⟩ := List.mem_map.mp isProp
    rfl
  have asked : (fixtures.map propOf).filterMap (fun prop => catalog.importLine? prop.raw?) =
      fixtures.map Fixture.importLine := by
    rw [List.filterMap_map, ← List.filterMap_eq_map]
    refine List.filterMap_congr fun fixture member => ?_
    exact congrArg (Option.map Fixture.importLine) (keyed.lookup?_typeName (stored fixture member))
  rw [ofComponent, attributes, asked]
  exact distinct_of_nodup nodup

theorem nameOf_componentOf {name : String} (notEmpty : name ≠ "") (fixtures : List Fixture)
    (sourcePath : String) : nameOf (componentOf name fixtures) sourcePath = name := by
  rw [nameOf, componentOf, Option.filter_some_pos (by simpa using notEmpty), Option.getD_some]

/-- A name of the given length that every import can have. -/
def longName (n : Nat) : String :=
  String.ofList (List.replicate (n + 1) 'x')

theorem toList_longName (n : Nat) : (longName n).toList = List.replicate (n + 1) 'x' :=
  String.toList_ofList

theorem longName_not_mem {words : List String} (n : Nat)
    (others : words.all (fun word => word.toList.any (· != 'x')) = true) : longName n ∉ words := by
  intro member
  have other := List.all_eq_true.mp others _ member
  rw [toList_longName] at other
  simp at other

theorem isIdentifier_longName (n : Nat) : isIdentifier .ascii (longName n) = true := by
  unfold isIdentifier
  rw [toList_longName, List.replicate_succ]
  simp only [Bool.and_eq_true, Bool.not_eq_true', List.contains_eq_mem, decide_eq_false_iff_not]
  refine ⟨⟨⟨rfl, ?_⟩, longName_not_mem n rfl⟩, longName_not_mem n rfl⟩
  refine List.all_eq_true.mpr fun c member => ?_
  rw [List.eq_of_mem_replicate member]
  rfl

theorem longName_ne_empty (n : Nat) : longName n ≠ "" := by
  intro same
  have chars := congrArg String.toList same
  rw [toList_longName] at chars
  cases chars

theorem exists_longName (names : List String) : ∃ n, longName n ∉ names := by
  have injective : Function.Injective longName := by
    intro n m same
    have lengths := congrArg (List.length ∘ String.toList) same
    simpa [toList_longName] using lengths
  obtain ⟨_, ⟨n, rfl⟩, isFree⟩ :=
    (Set.infinite_range_of_injective injective).exists_notMem_finset names.toFinset
  exact ⟨n, fun member => isFree (List.mem_toFinset.mpr member)⟩

theorem bound_ownImport (reads : ReadsPlain bound)
    (isName : isIdentifier .ascii model.componentName = true)
    (isPath : Fixture.isPlainPath model.relativeImportPath = true) :
    bound model.ownImport = [model.componentName] :=
  reads ⟨"", model.componentName, model.relativeImportPath⟩ ⟨isName, isPath⟩

/-- For fixtures with different imports there is a test that imports just them, and whose component
goes by a name that they leave free. -/
theorem exists_leavesComponent (reads : ReadsPlain bound) (keyed : catalog.Keyed)
    {fixtures : List Fixture} (stored : ∀ fixture ∈ fixtures, fixture ∈ catalog.fixtures)
    (nodup : (fixtures.map Fixture.importLine).Nodup) :
    ∃ component sourcePath relativePath,
      let model := ofComponent catalog sourcePath relativePath component
      model.fixtureImports = fixtures.map Fixture.importLine ∧ model.LeavesComponent bound := by
  obtain ⟨n, isFree⟩ := exists_longName ((fixtures.map Fixture.importLine).flatMap bound)
  have imports := fixtureImports_componentOf keyed (longName n) stored nodup
  refine ⟨componentOf (longName n) fixtures, "", "", imports, ?_⟩
  have named : (ofComponent catalog "" "" (componentOf (longName n) fixtures)).componentName =
      longName n :=
    nameOf_componentOf (longName_ne_empty n) fixtures ""
  have isPath : Fixture.isPlainPath ("./" ++ fileNameOf "") = true := by decide
  have ownNames := bound_ownImport reads (by rw [named]; exact isIdentifier_longName n) isPath
  rw [LeavesComponent, ownNames, named, fixtureNames, imports]
  intro name isOwn
  have isLong : name = longName n := by simpa using isOwn
  exact isLong ▸ isFree

theorem namesOnce_of_bindsOnce (reads : ReadsPlain bound) (keyed : catalog.Keyed)
    (binds : ∀ component sourcePath relativePath,
      (ofComponent catalog sourcePath relativePath component).LeavesComponent bound →
        (ofComponent catalog sourcePath relativePath component).BindsOnce bound) :
    catalog.NamesOnce bound := by
  have single : ∀ fixture ∈ catalog.fixtures, ∃ component sourcePath relativePath,
      let model := ofComponent catalog sourcePath relativePath component
      model.fixtureNames bound = bound fixture.importLine ∧ model.BindsOnce bound := by
    intro fixture stored
    have allStored : ∀ single ∈ [fixture], single ∈ catalog.fixtures := by simpa
    obtain ⟨component, sourcePath, relativePath, imports, leaves⟩ :=
      exists_leavesComponent reads keyed allStored (List.nodup_singleton _)
    refine ⟨component, sourcePath, relativePath, ?_, binds component sourcePath relativePath leaves⟩
    rw [fixtureNames, imports, List.map_singleton, List.flatMap_singleton]
  refine ⟨?_, ?_, ?_, ?_⟩
  · intro fixture stored other otherStored name inFixture inOther
    by_contra different
    have allStored : ∀ either ∈ [fixture, other], either ∈ catalog.fixtures := by
      simp [stored, otherStored]
    obtain ⟨component, sourcePath, relativePath, imports, leaves⟩ :=
      exists_leavesComponent reads keyed allStored (by simpa using different)
    have nodup := (binds component sourcePath relativePath leaves).nodup
    rw [fixtureNames, imports, List.nodup_flatMap] at nodup
    exact List.rel_of_pairwise_cons nodup.2 (.head _) inFixture inOther
  · intro fixture stored
    obtain ⟨component, sourcePath, relativePath, names, bindsOnce⟩ := single fixture stored
    exact names ▸ bindsOnce.nodup
  · intro fixture stored
    obtain ⟨component, sourcePath, relativePath, names, bindsOnce⟩ := single fixture stored
    exact names ▸ bindsOnce.notReact
  · intro fixture stored
    obtain ⟨component, sourcePath, relativePath, names, bindsOnce⟩ := single fixture stored
    exact names ▸ bindsOnce.notShallow

/-- Whatever fixtures are configured, and however statements are read: the imports of every test
differ, and they bind each name once, unless one binds a name of the component itself, just if the
catalog names once. Then an import that binds a name of a fixture in a value is the import of this
fixture. For plain imports it comes to one path for each identifier and to no identifier that every
test binds, which the builtin catalog has. -/
theorem bindsOnce_iff_namesOnce {bound : String → List String} (reads : ReadsPlain bound)
    (settings : Settings) :
    (∀ component sourcePath relativePath,
      let model := ofComponent settings.catalog sourcePath relativePath component
      model.importLines =
          (["import React from 'react'", "import \x7b shallow \x7d from 'enzyme'"] ++
            model.fixtureImports ++ [model.ownImport]).map (· ++ ";") ∧
        model.fixtureImports.Nodup) ∧
    ((∀ component sourcePath relativePath,
        (ofComponent settings.catalog sourcePath relativePath component).BindsOnce bound ↔
          (ofComponent settings.catalog sourcePath relativePath component).LeavesComponent bound) ↔
      settings.catalog.NamesOnce bound) ∧
    (settings.catalog.NamesOnce bound → ∀ component sourcePath relativePath,
      ∀ prop ∈ attributeProps component, ∀ used ∈ prop.usedFixtures settings.catalog,
        ∀ line ∈
            (ofComponent settings.catalog sourcePath relativePath component).fixtureImports,
          ∀ name ∈ bound used.importLine, name ∈ bound line → line = used.importLine) ∧
    ((∀ fixture ∈ settings.catalog.fixtures, fixture.IsPlain) →
      (settings.catalog.NamesOnce bound ↔ settings.catalog.OnePath)) ∧
    (settings.fixtures = [] → settings.catalog.NamesOnce bound) := by
  refine ⟨fun _ _ _ => ⟨importLines_eq_map _, nodup_distinct _⟩, ⟨?_, ?_⟩, ?_,
    Catalog.namesOnce_iff_onePath reads, ?_⟩
  · intro binds
    refine namesOnce_of_bindsOnce reads (Catalog.keyed_ofSettings settings) ?_
    intro component sourcePath relativePath
    exact (binds component sourcePath relativePath).mpr
  · intro namesOnce component sourcePath relativePath
    exact ⟨BindsOnce.leavesComponent, bindsOnce_of_namesOnce namesOnce⟩
  · intro namesOnce component sourcePath relativePath prop _ used isUsed line imported name inUsed
      inLine
    obtain ⟨fixture, stored, rfl⟩ := exists_fixture_of_mem_fixtureImports imported
    exact namesOnce.apart fixture stored used (PropDecl.mem_fixtures_of_mem_usedFixtures prop isUsed)
      name inLine inUsed
  · intro nothing
    rw [Settings.catalog, nothing]
    exact Catalog.namesOnce_builtin reads

def lastWord? (cs : List Char) : Option String :=
  ((cs.splitOnP Text.isBlank).filter (!·.isEmpty)).getLast?.map String.ofList

/-- The names that an import without comments and escapes lists between `import` and `from`: the
last word of each piece that braces and commas part. -/
def listedNames (statement : String) : List String :=
  let upToPath := (statement.toList.drop "import ".toList.length).takeWhile (· != '\'')
  let clause := upToPath.take (upToPath.length - " from ".toList.length)
  (clause.splitOnP (['\x7b', '\x7d', ','].contains ·)).filterMap lastWord?

theorem isMark_of_isPlainRest {c : Char} (isPart : isPlainRest c = true) :
    c ≠ '\'' ∧ ['\x7b', '\x7d', ','].contains c = false ∧ Text.isBlank c = false := by
  have ofCode : ∀ n < 0x80, isPlainRest (Char.ofNat n) = true → Char.ofNat n ≠ '\'' ∧
      ['\x7b', '\x7d', ','].contains (Char.ofNat n) = false ∧
        Text.isBlank (Char.ofNat n) = false := by
    decide +kernel
  simpa using ofCode c.toNat (toNat_lt_of_isPlainRest isPart) (by simpa using isPart)

theorem isPlainRest_of_isIdentifier {text : String} (isName : isIdentifier .ascii text = true) :
    text.toList ≠ [] ∧ ∀ c ∈ text.toList, isPlainRest c = true := by
  unfold isIdentifier at isName
  split at isName
  · cases isName
  · rename_i c rest chars
    simp only [Bool.and_eq_true, List.all_eq_true] at isName
    obtain ⟨⟨⟨starts, continues⟩, -⟩, -⟩ := isName
    rw [chars]
    refine ⟨List.cons_ne_nil _ _, fun d member => ?_⟩
    rcases List.mem_cons.mp member with rfl | inRest
    · have plain : isPlainStart d = true := by simpa [Letters.starts, Letters.ascii] using starts
      rw [isPlainRest, plain, Bool.true_or]
    · simpa [Letters.continues, Letters.ascii] using continues d inRest

theorem readsPlain_listedNames : ReadsPlain listedNames := by
  intro fixture isPlain
  obtain ⟨notEmpty, areParts⟩ := isPlainRest_of_isIdentifier isPlain.name
  have upToPath : (fixture.importLine.toList.drop "import ".toList.length).takeWhile (· != '\'') =
      fixture.identifier.toList ++ " from ".toList := by
    simp only [Fixture.importLine, String.toList_append, List.append_assoc]
    rw [List.drop_left, List.takeWhile_append_of_pos]
    · rfl
    · intro c member
      simpa using (isMark_of_isPlainRest (areParts c member)).1
  have word : lastWord? fixture.identifier.toList = some fixture.identifier := by
    rw [lastWord?, List.splitOnP_eq_singleton fun c member =>
      (isMark_of_isPlainRest (areParts c member)).2.2]
    simp [notEmpty]
  simp only [listedNames, upToPath]
  rw [List.length_append, Nat.add_sub_cancel, List.take_left,
    List.splitOnP_eq_singleton fun c member => (isMark_of_isPlainRest (areParts c member)).2.1,
    List.filterMap_cons_some word, List.filterMap_nil]

example : listedNames "import Card, \x7b item, shallow as render \x7d from './Card'" =
    ["Card", "item", "render"] := by
  decide +kernel

/-- Settings with identifiers that are different texts, though their imports bind the same name. -/
def spacedSettings : Settings := { Settings.standard with
  fixtures := [⟨"A.Item", "item", "items/a.json"⟩, ⟨"B.Item", "item ", "items/b.json"⟩] }

theorem not_namesOnce_spacedSettings : ¬spacedSettings.catalog.NamesOnce listedNames := by
  intro namesOnce
  have sameLine := namesOnce.apart ⟨"A.Item", "item", "items/a.json"⟩ (by decide +kernel)
    ⟨"B.Item", "item ", "items/b.json"⟩ (by decide +kernel) "item" (by decide +kernel)
    (by decide +kernel)
  exact absurd sameLine (by decide +kernel)

/-- A blank behind an identifier makes no other name of it: some test binds it twice. -/
theorem bindsOnce_iff_namesOnce_spaced :
    ReadsPlain listedNames ∧ spacedSettings.invalid? = none ∧
      ∃ component sourcePath relativePath,
        let model := ofComponent spacedSettings.catalog sourcePath relativePath component
        model.LeavesComponent listedNames ∧ ¬model.BindsOnce listedNames := by
  refine ⟨readsPlain_listedNames, by decide +kernel, ?_⟩
  obtain ⟨-, binds, -⟩ := bindsOnce_iff_namesOnce readsPlain_listedNames spacedSettings
  by_contra none
  refine not_namesOnce_spacedSettings (binds.mp fun component sourcePath relativePath => ?_)
  refine ⟨BindsOnce.leavesComponent, fun leaves => by_contra fun twice => ?_⟩
  exact none ⟨component, sourcePath, relativePath, leaves, twice⟩

def itemSettings : Settings := { Settings.standard with
  fixtures := [⟨"A.Item", "item", "items/a.json"⟩, ⟨"B.Item", "item", "items/b.json"⟩] }

def itemComponent : Component :=
  ⟨some "Card", "", some [
    ⟨"a", some ⟨some .custom, some "A.Item", none⟩, false, none⟩,
    ⟨"b", some ⟨some .custom, some "B.Item", none⟩, false, none⟩]⟩

/-- Valid settings may give one identifier to two paths; then a test can import both. -/
theorem item_bound_twice :
    let model := ofComponent itemSettings.catalog "Card.js" "Card.js" itemComponent
    itemSettings.invalid? = none ∧
      model.fixtureImports =
        ["import item from 'items/a.json'", "import item from 'items/b.json'"] ∧
      ∀ bound, ReadsPlain bound → ¬model.BindsOnce bound := by
  have imports :
      (ofComponent itemSettings.catalog "Card.js" "Card.js" itemComponent).fixtureImports =
        ["import item from 'items/a.json'", "import item from 'items/b.json'"] := by
    decide +kernel
  refine ⟨by decide +kernel, imports, ?_⟩
  intro bound reads bindsOnce
  have first : bound "import item from 'items/a.json'" = ["item"] :=
    reads ⟨"", "item", "items/a.json"⟩ ⟨by decide, by decide⟩
  have second : bound "import item from 'items/b.json'" = ["item"] :=
    reads ⟨"", "item", "items/b.json"⟩ ⟨by decide, by decide⟩
  have nodup := bindsOnce.nodup
  rw [fixtureNames, imports, List.flatMap_cons, List.flatMap_singleton, first, second] at nodup
  exact absurd nodup (by decide)

end TestModel

end SnapshotGen
