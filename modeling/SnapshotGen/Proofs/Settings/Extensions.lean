import SnapshotGen.Proofs.Text.Lines
import SnapshotGen.Settings

/-!
The extensions by which files are sought. They are what is given, without blanks around it and then
without dots in front. What is looked at where settings are checked is only whether a given text is
blank; so a text of dots is let through and gives nothing, and a blank between dots and a name
stays.
-/

namespace SnapshotGen

namespace Settings

/-- An extension as it is compared with that of a file: something, without a dot in front and
without blanks at its ends. -/
structure IsNormal (extension : String) : Prop where
  notEmpty : extension ≠ ""
  noDot : ∀ c ∈ extension.toList.head?, c ≠ '.'
  noBlankInFront : ∀ c ∈ extension.toList.head?, Text.isBlank c = false
  noBlankBehind : ∀ c ∈ extension.toList.getLast?, Text.isBlank c = false

/-- At least one extension, and all of them as they are compared. -/
structure Usable (extensions : List String) : Prop where
  notEmpty : extensions ≠ []
  normal : ∀ extension ∈ extensions, IsNormal extension
  settled : extensions.map plainExtension = extensions

/-- Nothing but dots, and blanks around them. -/
def IsDots (given : String) : Prop :=
  ∀ c ∈ Text.trim given.toList, c = '.'

/-- A blank that follows the dots in front of a name. -/
def HasBlankBehindDots (given : String) : Prop :=
  ∃ dots blank name, Text.trim given.toList = dots ++ blank :: name ∧ (∀ c ∈ dots, c = '.') ∧
    Text.isBlank blank = true

theorem toList_plainExtension (given : String) :
    (plainExtension given).toList = (Text.trim given.toList).dropWhile (· == '.') :=
  String.toList_ofList

theorem plainExtension_ne_empty_iff {given : String} :
    plainExtension given ≠ "" ↔ ¬IsDots given := by
  rw [ne_eq, ← String.toList_inj, toList_plainExtension, String.toList_empty,
    List.dropWhile_eq_nil_iff]
  simp [IsDots]

/-- Dots in front are dropped together, so none is left in front. -/
theorem ne_dot_head_plainExtension {given : String} :
    ∀ c ∈ (plainExtension given).toList.head?, c ≠ '.' := by
  intro c isFirst
  rw [toList_plainExtension] at isFirst
  have head := List.head?_dropWhile_not (· == '.') (Text.trim given.toList)
  rw [Option.mem_def.mp isFirst] at head
  simpa using head

theorem isBlank_getLast_plainExtension {given : String} :
    ∀ c ∈ (plainExtension given).toList.getLast?, Text.isBlank c = false := by
  intro c isLast
  rw [toList_plainExtension] at isLast
  have isSuffix : (Text.trim given.toList).dropWhile (· == '.') <:+ Text.trim given.toList :=
    List.dropWhile_suffix _
  obtain ⟨dots, whole⟩ := isSuffix
  have lastOfTrim : c ∈ (Text.trim given.toList).getLast? := by
    rw [← whole, List.getLast?_append, Option.mem_def.mp isLast]
    rfl
  exact Text.isBlank_getLast_trim lastOfTrim

/-- What is left of a text begins with a blank just if one follows its dots. -/
theorem exists_blank_head_plainExtension_iff {given : String} :
    (∃ c ∈ (plainExtension given).toList.head?, Text.isBlank c = true) ↔
      HasBlankBehindDots given := by
  constructor
  · rintro ⟨blank, isFirst, isBlank⟩
    rw [toList_plainExtension] at isFirst
    obtain ⟨name, same⟩ := List.head?_eq_some_iff.mp isFirst
    refine ⟨(Text.trim given.toList).takeWhile (· == '.'), blank, name, ?_, ?_, isBlank⟩
    · rw [← same, List.takeWhile_append_dropWhile]
    · intro c isDot
      simpa using List.mem_takeWhile_imp isDot
  · rintro ⟨dots, blank, name, same, areDots, isBlank⟩
    have notDot : blank ≠ '.' := by
      rintro rfl
      exact absurd isBlank (by decide)
    refine ⟨blank, ?_, isBlank⟩
    rw [toList_plainExtension, same, List.dropWhile_append_of_pos (by simpa using areDots),
      List.dropWhile_cons_of_neg (by simpa using notDot)]
    rfl

theorem isNormal_plainExtension_iff {given : String} (hasName : ¬IsDots given) :
    IsNormal (plainExtension given) ↔ ¬HasBlankBehindDots given := by
  rw [← exists_blank_head_plainExtension_iff]
  constructor
  · rintro normal ⟨c, isFirst, isBlank⟩
    rw [normal.noBlankInFront c isFirst] at isBlank
    cases isBlank
  · intro noBlank
    exact ⟨plainExtension_ne_empty_iff.mpr hasName, ne_dot_head_plainExtension,
      fun c isFirst => Bool.eq_false_iff.mpr fun isBlank => noBlank ⟨c, isFirst, isBlank⟩,
      isBlank_getLast_plainExtension⟩

/-- Nothing is left to drop from an extension as it is compared. -/
theorem IsNormal.plainExtension_eq {extension : String} (normal : IsNormal extension) :
    plainExtension extension = extension := by
  rw [← String.toList_inj, toList_plainExtension,
    Text.trim_eq_self normal.noBlankInFront normal.noBlankBehind]
  cases same : extension.toList with
  | nil => rfl
  | cons c rest =>
      have notDot : c ≠ '.' := normal.noDot c (by rw [same]; rfl)
      exact List.dropWhile_cons_of_neg (by simpa using notDot)

theorem mem_extensions_iff {settings : Settings} {extension : String} :
    extension ∈ settings.extensions ↔
      ∃ given ∈ settings.general.extensions, ¬IsDots given ∧ plainExtension given = extension := by
  unfold extensions
  rw [List.mem_filter, List.mem_map]
  constructor
  · rintro ⟨⟨given, isGiven, rfl⟩, notEmpty⟩
    exact ⟨given, isGiven, plainExtension_ne_empty_iff.mp (by simpa using notEmpty), rfl⟩
  · rintro ⟨given, isGiven, hasName, rfl⟩
    exact ⟨⟨given, isGiven, rfl⟩, by simpa using plainExtension_ne_empty_iff.mpr hasName⟩

theorem extensions_ne_nil_iff {settings : Settings} :
    settings.extensions ≠ [] ↔ ∃ given ∈ settings.general.extensions, ¬IsDots given := by
  constructor
  · intro notEmpty
    obtain ⟨extension, member⟩ := List.exists_mem_of_ne_nil _ notEmpty
    obtain ⟨given, isGiven, hasName, _⟩ := mem_extensions_iff.mp member
    exact ⟨given, isGiven, hasName⟩
  · rintro ⟨given, isGiven, hasName⟩
    exact List.ne_nil_of_mem (mem_extensions_iff.mpr ⟨given, isGiven, hasName, rfl⟩)

theorem not_isDots_of_hasBlankBehindDots {given : String} (has : HasBlankBehindDots given) :
    ¬IsDots given := by
  obtain ⟨dots, blank, name, same, _, isBlank⟩ := has
  intro areDots
  have isDot : blank = '.' := areDots blank (by rw [same]; simp)
  rw [isDot] at isBlank
  exact absurd isBlank (by decide)

/-- The extensions of settings are usable just if one given text has more than dots, and no given
text has a blank right behind its dots; that they are accepted tells neither. -/
theorem usable_extensions_iff (settings : Settings) :
    Usable settings.extensions ↔
      (∃ given ∈ settings.general.extensions, ¬IsDots given) ∧
        ∀ given ∈ settings.general.extensions, ¬HasBlankBehindDots given := by
  rw [← extensions_ne_nil_iff]
  constructor
  · intro usable
    refine ⟨usable.notEmpty, fun given isGiven has => ?_⟩
    have hasName := not_isDots_of_hasBlankBehindDots has
    have normal := usable.normal _ (mem_extensions_iff.mpr ⟨given, isGiven, hasName, rfl⟩)
    exact (isNormal_plainExtension_iff hasName).mp normal has
  · rintro ⟨notEmpty, noBlank⟩
    have areNormal : ∀ extension ∈ settings.extensions, IsNormal extension := by
      intro extension member
      obtain ⟨given, isGiven, hasName, rfl⟩ := mem_extensions_iff.mp member
      exact (isNormal_plainExtension_iff hasName).mpr (noBlank given isGiven)
    refine ⟨notEmpty, areNormal, ?_⟩
    calc settings.extensions.map plainExtension
        = settings.extensions.map id :=
          List.map_congr_left fun extension member => (areNormal extension member).plainExtension_eq
      _ = settings.extensions := List.map_id _

def withExtensions (given : List String) : Settings :=
  { standard with general := { GeneralSettings.standard with extensions := given } }

/-- A dot alone is accepted and gives no extension; behind a dot a blank is kept. -/
theorem accepted_not_usable :
    (withExtensions ["."]).invalid? = none ∧ ¬Usable (withExtensions ["."]).extensions ∧
      (withExtensions [". js"]).invalid? = none ∧
      ¬Usable (withExtensions [". js"]).extensions := by
  have nothing : (withExtensions ["."]).extensions = [] := by decide +kernel
  have blank : (withExtensions [". js"]).extensions = [" js"] := by decide +kernel
  refine ⟨by decide +kernel, fun usable => usable.notEmpty nothing, by decide +kernel,
    fun usable => ?_⟩
  have normal := usable.normal " js" (by simp [blank])
  exact absurd (normal.noBlankInFront ' ' rfl) (by decide)

end Settings

end SnapshotGen
