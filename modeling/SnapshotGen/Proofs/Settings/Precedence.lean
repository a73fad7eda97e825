import SnapshotGen.Proofs.Outcomes
import SnapshotGen.Proofs.Settings.VariableData
import SnapshotGen.Proofs.Toml.Ordered
import SnapshotGen.Settings.Load

/-!
Which source a setting is taken from. Every setting has the value of the highest source that gives
it, whatever the sources give of the others: records are merged key by key, lists are replaced. The
variables that a file of variables adds stand behind those of the process, so they are the highest.
-/

namespace SnapshotGen

open Datum

namespace Datum

/-- A value is what is found somewhere, or the standard one if nothing is. -/
def IsReadFrom {α : Type} (found : Option Datum) (read : Datum → Decoded α) (standard value : α) :
    Prop :=
  match found with
  | some datum => read datum = .ok value
  | none => value = standard

/-- No record is read as a value. -/
def Plainly {α : Type} (read : Datum → Decoded α) : Prop :=
  ∀ entries value, read (.record entries) ≠ .ok value

variable {Slot α : Type} {layout : Layout Slot} {entries : List (String × Datum)}
  {fields : List (String × Slot)} {key : String}

theorem IsReadFrom.of_outline {found other : Option Datum} {read : Datum → Decoded α}
    {standard value : α} (plainly : Plainly read) (same : found.map outline = other.map outline)
    (isRead : IsReadFrom found read standard value) : IsReadFrom other read standard value := by
  cases found with
  | none =>
      cases other with
      | none => exact isRead
      | some _ => cases same
  | some datum =>
      cases other with
      | none => cases same
      | some _ =>
          have notRecord : datum.isRecord = false := by
            cases datum <;> first | rfl | exact absurd isRead (plainly _ _)
          rw [← eq_of_outline_eq (Option.some.inj same) notRecord]
          exact isRead

/-- What is read for a field is the entry with its key. -/
theorem Layout.find?_of_entries (isField : key ∈ layout.fields)
    (decoded : layout.entries entries = .ok fields) :
    (fields.find? (·.1 == key)).map (fun field => .ok field.2) =
      (Datum.entry? key entries).map (layout.read key) := by
  induction entries generalizing fields with
  | nil =>
      cases decoded
      rfl
  | cons entry entries induction =>
      obtain ⟨other, datum⟩ := entry
      unfold Layout.entries at decoded
      split at decoded
      · obtain ⟨slot, isRead, decoded⟩ := bind_eq_ok.mp decoded
        obtain ⟨more, rest, kept⟩ := bind_eq_ok.mp decoded
        cases kept
        by_cases same : other = key
        · subst same
          rw [entry?_cons_self]
          simp [mapError_eq_ok.mp isRead]
        · rw [entry?_cons_other same, ← induction rest]
          simp [same]
      · rename_i notField
        have differs : other ≠ key := by
          rintro rfl
          exact notField (by simpa using isField)
        rw [entry?_cons_other differs, induction decoded]

theorem Layout.entries_of_ofRecord (decoded : layout.ofRecord entries = .ok fields) :
    layout.entries entries = .ok fields := by
  obtain ⟨found, isFound, decoded⟩ := bind_eq_ok.mp decoded
  split at decoded
  · cases decoded
  · cases decoded
    exact isFound

/-- A slot that holds values of a sort is read from the entry with the key of its field. -/
theorem isReadFrom_entry (key : String) {read : Datum → Decoded α} {hold : α → Slot}
    {sort : Slot → Option α} (isField : key ∈ layout.fields)
    (decoded : layout.ofRecord entries = .ok fields)
    (reads : ∀ datum, layout.read key datum = hold <$> read datum)
    (sorted : ∀ value, sort (hold value) = some value) (standard : α) :
    IsReadFrom (Datum.entry? key entries) read standard
      ((pick? fields key sort).getD standard) := by
  have found := Layout.find?_of_entries isField (Layout.entries_of_ofRecord decoded)
  unfold pick?
  cases isEntry : entry? key entries with
  | none =>
      rw [isEntry] at found
      rw [Option.map_eq_none_iff.mp found]
      rfl
  | some datum =>
      rw [isEntry] at found
      obtain ⟨field, isFound, isSlot⟩ := Option.map_eq_some_iff.mp found
      rw [reads] at isSlot
      obtain ⟨value, isValue, isHeld⟩ := map_eq_ok.mp isSlot.symm
      change read datum = .ok _
      rw [isFound, isValue, Option.bind_some, ← isHeld, sorted, Option.getD_some]

theorem isReadFrom_section {Part : Type} {name : String} {of : List (String × Slot) → Part}
    {standard part : Part} (key : String) (field : Part → α) {read : Datum → Decoded α}
    {hold : α → Slot} {sort : Slot → Option α}
    (given : IsReadFrom (Datum.entry? name entries) (fun datum => of <$> layout.decode datum)
      standard part)
    (isTable : ∀ datum ∈ entry? name entries, datum.isRecord = true)
    (isField : key ∈ layout.fields) (reads : ∀ datum, layout.read key datum = hold <$> read datum)
    (sorted : ∀ value, sort (hold value) = some value)
    (picks : ∀ fields, field (of fields) = (pick? fields key sort).getD (field standard)) :
    IsReadFrom (at? [name, key] (record entries)) read (field standard) (field part) := by
  unfold at?
  cases isEntry : entry? name entries with
  | none =>
      rw [isEntry] at given
      exact congrArg field given
  | some datum =>
      rw [isEntry] at given
      have isRecord := isTable datum isEntry
      cases datum with
      | record inner =>
          change IsReadFrom ((Datum.entry? key inner).bind some) read (field standard) (field part)
          obtain ⟨fields, decoded, rfl⟩ := map_eq_ok.mp given
          rw [Option.bind_fun_some, picks]
          exact isReadFrom_entry key isField decoded reads sorted (field standard)
      | _ => contradiction

end Datum

namespace Settings

def asTexts (datum : Datum) : Decoded (List String) :=
  datum.asList asText

def asFixtures (datum : Datum) : Decoded (List Fixture) :=
  datum.asList fun item => Fixture.ofFields <$> (Fixture.layout "FixtureEntry" true).decode item

/-- Every setting is what the first of some layers has at its path, and standard if none has
anything there. -/
structure FollowsFrom (give? : List String → Option Datum) (settings : Settings) : Prop where
  componentsPath : IsReadFrom (give? ["general", "components_path"]) asText
    standard.general.componentsPath settings.general.componentsPath
  prettify : IsReadFrom (give? ["general", "prettify"]) asFlag standard.general.prettify
    settings.general.prettify
  template : IsReadFrom (give? ["general", "template"]) asText standard.general.template
    settings.general.template
  extensions : IsReadFrom (give? ["general", "extensions"]) asTexts standard.general.extensions
    settings.general.extensions
  skipTests : IsReadFrom (give? ["general", "skip_tests"]) asFlag standard.general.skipTests
    settings.general.skipTests
  command : IsReadFrom (give? ["formatter", "command"]) asText standard.formatter.command
    settings.formatter.command
  args : IsReadFrom (give? ["formatter", "args"]) asTexts standard.formatter.args
    settings.formatter.args
  fixtures : IsReadFrom (give? ["fixtures"]) asFixtures standard.fixtures settings.fixtures

def sectionNames : List String :=
  ["general", "formatter"]

def givesTables (layer : Datum) : Bool :=
  sectionNames.all fun name => (layer.at? [name]).all isRecord

theorem givesTables_record {entries : List (String × Datum)} :
    givesTables (.record entries) = true ↔
      ∀ name ∈ sectionNames, ∀ inner ∈ entry? name entries, inner.isRecord = true := by
  have found (name : String) : at? [name] (.record entries) = entry? name entries := by
    change (Datum.entry? name entries).bind some = _
    rw [Option.bind_fun_some]
  unfold givesTables
  simp [found, Option.all_eq_true]

theorem followsFrom_of_ofDatum {entries : List (String × Datum)} {settings : Settings}
    (gives : givesTables (.record entries) = true)
    (read : ofDatum true (.record entries) = .ok settings) :
    FollowsFrom (at? · (.record entries)) settings := by
  have isTable := givesTables_record.mp gives
  obtain ⟨sections, decoded, rfl⟩ := map_eq_ok.mp read
  have readsGeneral (datum : Datum) : (layout true).read "general" datum =
      Section.general <$> (generalOf <$> (generalLayout true).decode datum) := by
    change (Section.general <| generalOf ·) <$> (generalLayout true).decode datum = _
    cases (generalLayout true).decode datum <;> rfl
  have readsFormatter (datum : Datum) : (layout true).read "formatter" datum =
      Section.formatter <$> (formatterOf <$> (formatterLayout true).decode datum) := by
    change (Section.formatter <| formatterOf ·) <$> (formatterLayout true).decode datum = _
    cases (formatterLayout true).decode datum <;> rfl
  have general : IsReadFrom (Datum.entry? "general" entries)
      (fun datum => generalOf <$> (generalLayout true).decode datum) .standard
      (ofSections sections).general :=
    isReadFrom_entry "general" (by decide) decoded readsGeneral (fun _ => rfl) _
  have formatter : IsReadFrom (Datum.entry? "formatter" entries)
      (fun datum => formatterOf <$> (formatterLayout true).decode datum) .standard
      (ofSections sections).formatter :=
    isReadFrom_entry "formatter" (by decide) decoded readsFormatter (fun _ => rfl) _
  have fixtures : IsReadFrom (Datum.entry? "fixtures" entries) asFixtures []
      (ofSections sections).fixtures :=
    isReadFrom_entry "fixtures" (by decide) decoded (fun _ => rfl) (fun _ => rfl) _
  have generalTable := isTable "general" (by decide)
  have formatterTable := isTable "formatter" (by decide)
  exact {
    componentsPath := isReadFrom_section "components_path" GeneralSettings.componentsPath
      general generalTable (by decide) (fun _ => rfl) (fun _ => rfl) fun _ => rfl
    prettify := isReadFrom_section "prettify" GeneralSettings.prettify general
      generalTable (by decide) (fun _ => rfl) (fun _ => rfl) fun _ => rfl
    template := isReadFrom_section "template" GeneralSettings.template general
      generalTable (by decide) (fun _ => rfl) (fun _ => rfl) fun _ => rfl
    extensions := isReadFrom_section "extensions" GeneralSettings.extensions general
      generalTable (by decide) (fun _ => rfl) (fun _ => rfl) fun _ => rfl
    skipTests := isReadFrom_section "skip_tests" GeneralSettings.skipTests general
      generalTable (by decide) (fun _ => rfl) (fun _ => rfl) fun _ => rfl
    command := isReadFrom_section "command" Formatter.command formatter
      formatterTable (by decide) (fun _ => rfl) (fun _ => rfl) fun _ => rfl
    args := isReadFrom_section "args" Formatter.args formatter
      formatterTable (by decide) (fun _ => rfl) (fun _ => rfl) fun _ => rfl
    fixtures := by
      change IsReadFrom ((Datum.entry? "fixtures" entries).bind some) _ _ _
      rwa [Option.bind_fun_some] }

inductive IsPath : List String → Prop
  | inSection {name : String} (isSection : name ∈ sectionNames) (key : String) : IsPath [name, key]
  | fixtures : IsPath ["fixtures"]

theorem FollowsFrom.of_outline {give? other? : List String → Option Datum} {settings : Settings}
    (same : ∀ path, IsPath path → (give? path).map outline = (other? path).map outline)
    (follows : FollowsFrom give? settings) : FollowsFrom other? settings := by
  have general (key : String) := same _ (.inSection (by decide : "general" ∈ sectionNames) key)
  have formatter (key : String) := same _ (.inSection (by decide : "formatter" ∈ sectionNames) key)
  have noText : Plainly asText := fun _ _ isRead => by cases isRead
  have noFlag : Plainly asFlag := fun _ _ isRead => by cases isRead
  have noTexts : Plainly asTexts := fun _ _ isRead => by cases isRead
  have noFixtures : Plainly asFixtures := fun _ _ isRead => by cases isRead
  exact {
    componentsPath := follows.componentsPath.of_outline noText (general _)
    prettify := follows.prettify.of_outline noFlag (general _)
    template := follows.template.of_outline noText (general _)
    extensions := follows.extensions.of_outline noTexts (general _)
    skipTests := follows.skipTests.of_outline noFlag (general _)
    command := follows.command.of_outline noText (formatter _)
    args := follows.args.of_outline noTexts (formatter _)
    fixtures := follows.fixtures.of_outline noFixtures (same _ .fixtures) }

/-- Every setting is what the first of some layers has for it, and standard if none has anything. -/
def Follows (settings : Settings) (layers : List Datum) : Prop :=
  FollowsFrom (fun path => layers.findSome? (at? path)) settings

theorem isClear_iff {name key : String} {entries : List (String × Datum)} :
    IsClear [name, key] (.record entries) ↔
      ∀ inner ∈ entry? name entries, inner.isRecord = true := by
  refine forall₂_congr fun inner _ => ?_
  cases inner <;> simp [IsClear, Datum.isRecord]

theorem isClear_of_givesTables {layer : Datum} {path : List String} (isTable : layer.IsTable)
    (gives : givesTables layer = true) (isPath : IsPath path) : IsClear path layer := by
  obtain ⟨_, isRecord⟩ := isTable
  cases layer with
  | record entries =>
      cases isPath with
      | fixtures => exact fun _ _ => trivial
      | inSection isSection key => exact isClear_iff.mpr (givesTables_record.mp gives _ isSection)
  | _ => contradiction

theorem leaf?_nil {path : List String} (isPath : IsPath path) : leaf? path (.record []) = none := by
  cases isPath <;> rfl

theorem follows_of_leaf? {merged : Datum} {layers : List Datum} {settings : Settings}
    (isTable : merged.IsTable) (areClear : ∀ path, IsPath path → IsClear path merged)
    (read : ofDatum true merged = .ok settings)
    (same : ∀ path, IsPath path → leaf? path merged = layers.findSome? (leaf? path)) :
    settings.Follows layers := by
  obtain ⟨_, isRecord⟩ := isTable
  cases merged with
  | record entries =>
      have gives : givesTables (.record entries) = true :=
        givesTables_record.mpr fun name isSection =>
          isClear_iff.mp (areClear [name, ""] (.inSection isSection ""))
      refine (followsFrom_of_ofDatum gives read).of_outline fun path isPath => ?_
      rw [List.map_findSome?]
      exact same path isPath
  | _ => contradiction

namespace Sources

variable (sources : Sources)

def added : List (String × String) :=
  sources.fullEnvironment.variables.drop sources.environment.variables.length

/-- What every source gives, the highest first: the variables that a file adds, those of the
process, the project's file, and the user's file. -/
def ranked? : Option (List Datum) := do
  let userFile ← sources.userFile.toList.mapM Toml.read?
  let projectFile ← sources.projectFile.toList.mapM Toml.read?
  return Variable.settings ⟨sources.added⟩ :: Variable.settings sources.environment ::
    projectFile ++ userFile

theorem adds_added :
    VariableFile.Adds sources.environment sources.added sources.fullEnvironment := by
  have known : ∃ added, VariableFile.Adds sources.environment added sources.fullEnvironment := by
    unfold fullEnvironment
    split
    · exact VariableFile.exists_adds_extend _ _
    · exact ⟨[], (List.append_nil _).symm, by simp⟩
  obtain ⟨more, adds⟩ := known
  have same : sources.added = more := by
    rw [added, adds.1, List.drop_left]
  rwa [same]

theorem settings_fullEnvironment : Variable.settings sources.fullEnvironment =
    (Variable.givenBy sources.added).foldl overlay (Variable.settings sources.environment) := by
  have inOrder : sources.fullEnvironment = ⟨sources.environment.variables ++ sources.added⟩ := by
    rw [← sources.adds_added.1]
  rw [inOrder, Variable.settings_append]

section Paths

variable {sources} {path : List String} (isPath : IsPath path)
  (gives : givesTables (Variable.settings sources.environment) = true)
  (addedGive : ∀ datum ∈ Variable.givenBy sources.added, givesTables datum = true)

include isPath addedGive

theorem isClear_of_mem_givenBy {datum : Datum} (member : datum ∈ Variable.givenBy sources.added) :
    IsClear path datum :=
  isClear_of_givesTables (Variable.isTable_of_givenBy member) (addedGive datum member) isPath

theorem leaf?_fullEnvironment : leaf? path (Variable.settings sources.fullEnvironment) =
    (leaf? path (Variable.settings ⟨sources.added⟩)).or
      (leaf? path (Variable.settings sources.environment)) := by
  have areTables : ∀ datum ∈ Variable.givenBy sources.added, datum.IsTable := fun _ =>
    Variable.isTable_of_givenBy
  have areClear : ∀ datum ∈ Variable.givenBy sources.added, IsClear path datum := fun _ =>
    isClear_of_mem_givenBy isPath addedGive
  have ofAdded : leaf? path (Variable.settings ⟨sources.added⟩) =
      (Variable.givenBy sources.added).reverse.findSome? (leaf? path) := by
    rw [Variable.settings_eq, leaf?_foldl areTables areClear, leaf?_nil isPath, Option.or_none]
  rw [settings_fullEnvironment, leaf?_foldl areTables areClear, ofAdded]

include gives

theorem isClear_fullEnvironment : IsClear path (Variable.settings sources.fullEnvironment) := by
  rw [settings_fullEnvironment]
  exact isClear_foldl (isClear_of_givesTables (Variable.isTable_settings _) gives isPath)
    (fun _ => Variable.isTable_of_givenBy) fun _ => isClear_of_mem_givenBy isPath addedGive

end Paths

end Sources

theorem isTable_of_mapM {text : Option String} {data : List Datum}
    (read : text.toList.mapM Toml.read? = some data) :
    data.reverse = data ∧ ∀ datum ∈ data, datum.IsTable := by
  cases text with
  | none =>
      cases read
      simp
  | some text =>
      simp only [Option.toList_some, List.mapM_cons, List.mapM_nil, Option.bind_eq_bind,
        Option.bind_eq_some_iff, pure, Option.some.injEq] at read
      obtain ⟨datum, isRead, _, rfl, rfl⟩ := read
      exact ⟨rfl, List.forall_mem_singleton.mpr (Toml.isTable_of_read? isRead)⟩

theorem findSome?_cons_eq_or {α β : Type} (f : α → Option β) (first : α) (more : List α) :
    (first :: more).findSome? f = (f first).or (more.findSome? f) := by
  cases found : f first <;> simp [found]

theorem isClear_nil {path : List String} (isPath : IsPath path) : IsClear path (.record []) := by
  cases isPath with
  | fixtures => exact fun _ _ => trivial
  | inSection isSection key => exact isClear_iff.mpr (by simp [Datum.entry?])

/-- Settings are read from the data of both files with those of all variables laid over them. -/
theorem exists_of_load {sources : Sources} {settings : Settings}
    (loaded : load sources = .ok settings) :
    ∃ userFile projectFile, sources.userFile.toList.mapM Toml.read? = some userFile ∧
      sources.projectFile.toList.mapM Toml.read? = some projectFile ∧
      ofDatum true ((userFile ++ projectFile ++
        [Variable.settings sources.fullEnvironment]).foldl overlay (.record [])) =
          .ok settings := by
  unfold load at loaded
  split at loaded
  · contradiction
  · rename_i layers isLayers
    simp only [Sources.layers?, Option.bind_eq_bind, Option.bind_eq_some_iff, pure,
      Option.some.injEq] at isLayers
    obtain ⟨userFile, isUserFile, projectFile, isProjectFile, rfl⟩ := isLayers
    refine ⟨userFile, projectFile, isUserFile, isProjectFile, ?_⟩
    simp only [List.map_append, List.map_map, Function.comp_def, List.map_id', List.map_cons,
      List.map_nil] at loaded
    exact mapError_eq_ok.mp loaded

/-- Whenever settings can be loaded, each is what the highest source gives for it. The variables
that a file adds have names that the process does not set, and stand above those that it sets. -/
theorem follows_of_load {sources : Sources} {settings : Settings}
    (loaded : load sources = .ok settings) :
    ∃ layers, sources.ranked? = some layers ∧
      VariableFile.Adds sources.environment sources.added sources.fullEnvironment ∧
      ((∀ layer ∈ layers, givesTables layer = true) →
        (∀ datum ∈ Variable.givenBy sources.added, givesTables datum = true) →
          settings.Follows layers) := by
  obtain ⟨userFile, projectFile, isUserFile, isProjectFile, read⟩ := exists_of_load loaded
  have ranked : sources.ranked? = some (Variable.settings ⟨sources.added⟩ ::
      Variable.settings sources.environment :: projectFile ++ userFile) := by
    simp [Sources.ranked?, isUserFile, isProjectFile]
  refine ⟨_, ranked, sources.adds_added, fun gives addedGive => ?_⟩
  obtain ⟨userReversed, userTables⟩ := isTable_of_mapM isUserFile
  obtain ⟨projectReversed, projectTables⟩ := isTable_of_mapM isProjectFile
  simp only [List.cons_append, List.forall_mem_cons, List.forall_mem_append] at gives
  obtain ⟨_, environmentGives, projectGives, userGives⟩ := gives
  have areTables : ∀ datum ∈ userFile ++ projectFile ++
      [Variable.settings sources.fullEnvironment], datum.IsTable := by
    simp only [List.forall_mem_append, List.forall_mem_singleton]
    exact ⟨⟨userTables, projectTables⟩, Variable.isTable_settings _⟩
  have areClear (path : List String) (isPath : IsPath path) : ∀ datum ∈ userFile ++ projectFile ++
      [Variable.settings sources.fullEnvironment], IsClear path datum := by
    simp only [List.forall_mem_append, List.forall_mem_singleton]
    exact ⟨⟨fun _ isUser =>
        isClear_of_givesTables (userTables _ isUser) (userGives _ isUser) isPath,
      fun _ isProject =>
        isClear_of_givesTables (projectTables _ isProject) (projectGives _ isProject) isPath⟩,
      Sources.isClear_fullEnvironment isPath environmentGives addedGive⟩
  refine follows_of_leaf? (isTable_foldl isTable_nil areTables)
    (fun path isPath => isClear_foldl (isClear_nil isPath) areTables (areClear path isPath)) read
    fun path isPath => ?_
  -- The last layer laid over the others is the first one to look into.
  rw [leaf?_foldl areTables (areClear path isPath), leaf?_nil isPath, Option.or_none,
    List.reverse_append, List.reverse_append, userReversed, projectReversed,
    List.reverse_singleton, List.singleton_append, findSome?_cons_eq_or,
    Sources.leaf?_fullEnvironment isPath addedGive, Option.or_assoc, List.cons_append,
    List.cons_append, findSome?_cons_eq_or, findSome?_cons_eq_or]

/-- Sources that all give something, the flag for tests and the template twice. -/
def layeredSources : Sources where
  userFile := some "[general]\nprettify = false\ntemplate = \"a.tera\"\n"
  projectFile := some "[general]\nextensions = [\"vue\"]\ntemplate = \"b.tera\"\n"
  variableFile := some "SNAPGEN_GENERAL__SKIP_TESTS=true\nSNAPGEN_FORMATTER__COMMAND=biome\n"
  environment := ⟨[("SNAPGEN_GENERAL__SKIP_TESTS", "false")]⟩

def layeredSettings : Settings where
  general := { GeneralSettings.standard with
    prettify := false
    template := "b.tera"
    extensions := ["vue"]
    skipTests := false }
  formatter := { Formatter.standard with command := "biome" }
  fixtures := []

theorem follows_of_load_layered : load layeredSources = .ok layeredSettings ∧
    ∃ layers, layeredSources.ranked? = some layers ∧ layeredSettings.Follows layers := by
  have loaded : load layeredSources = .ok layeredSettings := toOption_eq_some.mp (by decide +kernel)
  have gives : layeredSources.ranked?.all (·.all givesTables) = true := by decide +kernel
  have addedGive : (Variable.givenBy layeredSources.added).all givesTables = true := by
    decide +kernel
  obtain ⟨layers, ranked, _, follows⟩ := follows_of_load loaded
  rw [ranked] at gives
  exact ⟨loaded, layers, ranked,
    follows (List.all_eq_true.mp gives) (List.all_eq_true.mp addedGive)⟩

def disputingFile : String :=
  "SNAPGEN_GENERAL=\x7bprettify=false\x7d\n"

/-- A file that sets a section of which the process sets a key. -/
def disputedSources : Sources :=
  ⟨none, none, some disputingFile, ⟨[("SNAPGEN_GENERAL__PRETTIFY", "true")]⟩⟩

/-- The variables of the process do not stand above those of a file. -/
theorem not_follows_environment_first : ∃ settings layers, load disputedSources = .ok settings ∧
    layers = [Variable.settings disputedSources.environment,
      Variable.settings (VariableFile.extend ⟨[]⟩ disputingFile)] ∧
    layers.all givesTables = true ∧ ¬ settings.Follows layers := by
  have loaded : load disputedSources = .ok { Settings.standard with
      general := { GeneralSettings.standard with prettify := false } } :=
    toOption_eq_some.mp (by decide +kernel)
  refine ⟨_, _, loaded, rfl, by decide +kernel, fun follows => ?_⟩
  have first : ([Variable.settings disputedSources.environment,
      Variable.settings (VariableFile.extend ⟨[]⟩ disputingFile)].findSome?
        (at? ["general", "prettify"])).bind (asFlag · |>.toOption) = some true := by
    decide +kernel
  obtain ⟨datum, found, isFlag⟩ := Option.bind_eq_some_iff.mp first
  have isRead := follows.prettify
  dsimp only at isRead
  rw [found] at isRead
  change asFlag datum = .ok false at isRead
  rw [isRead] at isFlag
  cases isFlag

/-- Each variable that a file adds must give tables: the second brings back a section that the first
has replaced, without what the process set in it. -/
example :
    let sources : Sources := ⟨none, none,
      some "SNAPGEN_GENERAL=x\nSNAPGEN_GENERAL__PRETTIFY=false\n",
      ⟨[("SNAPGEN_GENERAL__TEMPLATE", "own.tera")]⟩⟩
    sources.ranked?.all (·.all givesTables) = true ∧
      (load sources).toOption.map (·.general.template) = some "" := by
  decide +kernel

end Settings

end SnapshotGen
