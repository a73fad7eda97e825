import SnapshotGen.Proofs.Synthesis.Plain

/-!
Values mirror shapes. A value has fields just if its prop has a shape, and then those of the shape,
each with the value that the field has for itself. A prop with a shape is told by its fields alone;
a prop without one by its name, its kind, and its type expression up to the mark of a required type.
-/

namespace SnapshotGen

/-- The prop that a path leads to, where each step is the place of a field in a shape. -/
def PropDecl.at? : PropDecl → List Nat → Option PropDecl
  | prop, [] => some prop
  | prop, place :: path => (prop.shape?.bind (·[place]?)).bind (·.at? path)

def FakeValue.at? : FakeValue → List Nat → Option FakeValue
  | value, [] => some value
  | .object fields, place :: path => fields[place]?.bind (·.2.at? path)
  | _, _ :: _ => none

theorem FakeValue.at?_cons_of_ne_object {value : FakeValue}
    (noFields : ∀ fields, value ≠ .object fields) (place : Nat) (path : List Nat) :
    value.at? (place :: path) = none := by
  cases value with
  | object fields => exact absurd rfl (noFields fields)
  | _ => rfl

namespace PropDecl

variable {catalog : Catalog} {prop other : PropDecl}

theorem synthesizeFields_eq_map (catalog : Catalog) (fields : List PropDecl) :
    synthesizeFields catalog fields =
      fields.map fun field => (field.name, field.synthesize catalog) := by
  induction fields with
  | nil => rfl
  | cons field more induction => rw [synthesizeFields, induction, List.map_cons]

theorem synthesize_of_shape {fields : List PropDecl} (hasShape : prop.shape? = some fields) :
    prop.synthesize catalog =
      .object (fields.map fun field => (field.name, field.synthesize catalog)) := by
  obtain ⟨name, type, required, default⟩ := prop
  obtain ⟨⟨kind, raw, shape⟩, rfl, isShape⟩ := Option.bind_eq_some_iff.mp hasShape
  obtain rfl : shape = some fields := isShape
  rw [synthesize, synthesizeFields_eq_map]

theorem synthesize_of_no_shape (noShape : prop.shape? = none) :
    prop.synthesize catalog = .ofPlain catalog prop.name prop.kind? prop.raw? := by
  obtain ⟨name, type, required, default⟩ := prop
  cases type with
  | none => rw [synthesize]; rfl
  | some type =>
      obtain ⟨kind, raw, shape⟩ := type
      obtain rfl : shape = none := noShape
      rw [synthesize]
      rfl

theorem synthesize_ne_object (noShape : prop.shape? = none)
    (fields : List (String × FakeValue)) : prop.synthesize catalog ≠ .object fields := by
  rw [synthesize_of_no_shape noShape]
  exact FakeValue.ofPlain_ne_object _ _ _ _ fields

theorem synthesize_eq_object_iff {written : List (String × FakeValue)} :
    prop.synthesize catalog = .object written ↔ ∃ fields, prop.shape? = some fields ∧
      written = fields.map fun field => (field.name, field.synthesize catalog) := by
  constructor
  · intro isObject
    cases isShape : prop.shape? with
    | none => exact absurd isObject (synthesize_ne_object isShape written)
    | some fields =>
        rw [synthesize_of_shape isShape] at isObject
        exact ⟨fields, rfl, (FakeValue.object.inj isObject).symm⟩
  · rintro ⟨fields, isShape, rfl⟩
    exact synthesize_of_shape isShape

/-- What stands in a value is the value of what stands at the same place in the shape. -/
theorem at?_synthesize (path : List Nat) :
    (prop.synthesize catalog).at? path = (prop.at? path).map (·.synthesize catalog) := by
  induction path generalizing prop with
  | nil => simp [at?, FakeValue.at?]
  | cons place path induction =>
      rw [at?]
      cases isShape : prop.shape? with
      | none => exact FakeValue.at?_cons_of_ne_object (synthesize_ne_object isShape) place path
      | some fields =>
          rw [synthesize_of_shape isShape, FakeValue.at?, List.getElem?_map, Option.bind_some]
          cases fields[place]? with
          | none => rfl
          | some field => exact induction

/-- Type expressions that are the same, or of which one has the mark of a required type where the
other ends without it. -/
inductive MarkedAlike : Option String → Option String → Prop
  | same (raw : Option String) : MarkedAlike raw raw
  | added {raw : String} (unmarked : ¬Fixture.requiredMark.toList <:+ raw.toList) :
      MarkedAlike (some raw) (some (raw ++ Fixture.requiredMark))
  | removed {raw : String} (unmarked : ¬Fixture.requiredMark.toList <:+ raw.toList) :
      MarkedAlike (some (raw ++ Fixture.requiredMark)) (some raw)

mutual

/-- Props that differ in no more than what their values do not show: at every depth in what is
required and in defaults, with a shape also in name, kind and type expression, and without one in the
mark of the type expression. -/
inductive Alike : PropDecl → PropDecl → Prop
  | shape {prop other : PropDecl} {fields others : List PropDecl}
      (hasShape : prop.shape? = some fields) (otherShape : other.shape? = some others)
      (fieldsAlike : FieldsAlike fields others) : Alike prop other
  | plain {prop other : PropDecl} (noShape : prop.shape? = none) (otherPlain : other.shape? = none)
      (name : prop.name = other.name) (kind : prop.kind? = other.kind?)
      (raw : MarkedAlike prop.raw? other.raw?) : Alike prop other

inductive FieldsAlike : List PropDecl → List PropDecl → Prop
  | nil : FieldsAlike [] []
  | cons {field other : PropDecl} {more others : List PropDecl} (name : field.name = other.name)
      (alike : Alike field other) (moreAlike : FieldsAlike more others) :
      FieldsAlike (field :: more) (other :: others)

end

theorem MarkedAlike.ofPlain_eq {raw marked : Option String} (alike : MarkedAlike raw marked)
    (catalog : Catalog) (name : String) (kind : Option PropKind) :
    FakeValue.ofPlain catalog name kind raw = FakeValue.ofPlain catalog name kind marked := by
  cases alike with
  | same => rfl
  | added unmarked =>
      apply FakeValue.ofPlain_of_stripRequired_eq
      rw [Fixture.stripRequired_append, Fixture.stripRequired_of_not_suffix unmarked]
  | removed unmarked =>
      apply FakeValue.ofPlain_of_stripRequired_eq
      rw [Fixture.stripRequired_append, Fixture.stripRequired_of_not_suffix unmarked]

mutual

theorem Alike.synthesize_eq (catalog : Catalog) {prop other : PropDecl} :
    Alike prop other → prop.synthesize catalog = other.synthesize catalog
  | .shape hasShape otherShape fieldsAlike => by
      rw [synthesize_of_shape hasShape, synthesize_of_shape otherShape,
        fieldsAlike.map_synthesize_eq catalog]
  | .plain noShape otherPlain name kind raw => by
      rw [synthesize_of_no_shape noShape, synthesize_of_no_shape otherPlain, name, kind]
      exact raw.ofPlain_eq catalog _ _

theorem FieldsAlike.map_synthesize_eq (catalog : Catalog) {fields others : List PropDecl} :
    FieldsAlike fields others →
      fields.map (fun field => (field.name, field.synthesize catalog)) =
        others.map fun field => (field.name, field.synthesize catalog)
  | .nil => rfl
  | .cons name alike moreAlike => by
      rw [List.map_cons, List.map_cons, name, alike.synthesize_eq catalog,
        moreAlike.map_synthesize_eq catalog]

end

/-- The value of a prop is built like its shape, at every depth: at each place it has fields just if
the shape has, the same ones in order, each with the value that the field has for itself. And it
shows nothing else: props that are alike have one value. -/
theorem synthesize_mirrors (catalog : Catalog) (prop : PropDecl) :
    (∀ path inner, prop.at? path = some inner →
      (prop.synthesize catalog).at? path = some (inner.synthesize catalog) ∧
      ((∃ written, inner.synthesize catalog = .object written) ↔ inner.shape?.isSome) ∧
      ∀ fields, inner.shape? = some fields → inner.synthesize catalog =
        .object (fields.map fun field => (field.name, field.synthesize catalog))) ∧
    ∀ other, Alike prop other → prop.synthesize catalog = other.synthesize catalog := by
  refine ⟨fun path inner found => ⟨?_, ?_, fun fields => synthesize_of_shape⟩,
    fun other alike => alike.synthesize_eq catalog⟩
  · rw [at?_synthesize, found, Option.map_some]
  · simp only [synthesize_eq_object_iff, Option.isSome_iff_exists]
    constructor
    · rintro ⟨_, fields, isShape, _⟩
      exact ⟨fields, isShape⟩
    · rintro ⟨fields, isShape⟩
      exact ⟨_, fields, isShape, rfl⟩

def ownerField (raw : String) (required : Bool) (default : Option String) : PropDecl :=
  ⟨"owner", some ⟨some .custom, some raw, none⟩, required, default⟩

def ownerShape (name : String) (kind : Option PropKind) (field : PropDecl) : PropDecl :=
  ⟨name, some ⟨kind, none, some [field]⟩, false, none⟩

theorem synthesize_mirrors_owner :
    let field := ownerField "RomanPropTypes.User.isRequired" true none
    let prop := ownerShape "info" (some .shape) field
    let other := ownerShape "number" (some .number) (ownerField "RomanPropTypes.User" false "null")
    prop.at? [0] = some field ∧
      (prop.synthesize .builtin).at? [0] = some (.fixture "user") ∧
      Alike prop other ∧ prop.synthesize .builtin = other.synthesize .builtin := by
  intro field prop other
  have found : prop.at? [0] = some field := rfl
  have unmarked : ¬Fixture.requiredMark.toList <:+ "RomanPropTypes.User".toList := by decide
  have alike : Alike prop other :=
    .shape rfl rfl (.cons rfl (.plain rfl rfl rfl rfl (.removed unmarked)) .nil)
  have ofField : field.synthesize .builtin = .fixture "user" := by rfl
  refine ⟨found, ?_, alike, (synthesize_mirrors .builtin prop).2 other alike⟩
  rw [((synthesize_mirrors .builtin prop).1 [0] field found).1, ofField]

end PropDecl

end SnapshotGen
