import SnapshotGen.Proofs.Literal.Reading
import SnapshotGen.Proofs.Synthesis.Shapes

/-!
Literals can be read back. What is read of the literal of a legible value is that value, but for
objects without fields: these are written like unknown values. Synthesized values are legible where
the fields of shapes and the fixtures of the catalog have names.
-/

namespace SnapshotGen

open Text Script

namespace FakeValue

mutual

/-- The value with an unknown one in place of each object without fields. -/
def withoutEmpty : FakeValue → FakeValue
  | object fields =>
    match fields with
    | [] => unknown
    | _ :: _ => object (fieldsWithoutEmpty fields)
  | value => value

def fieldsWithoutEmpty : List (String × FakeValue) → List (String × FakeValue)
  | [] => []
  | (name, value) :: more => (name, value.withoutEmpty) :: fieldsWithoutEmpty more

end

theorem fieldsWithoutEmpty_eq_map (fields : List (String × FakeValue)) :
    fieldsWithoutEmpty fields = fields.map fun field => (field.1, field.2.withoutEmpty) := by
  induction fields with
  | nil => rw [fieldsWithoutEmpty, List.map_nil]
  | cons field more induction => rw [fieldsWithoutEmpty, induction, List.map_cons]

theorem withoutEmpty_object (field : String × FakeValue) (more : List (String × FakeValue)) :
    (object (field :: more)).withoutEmpty =
      object ((field :: more).map fun field => (field.1, field.2.withoutEmpty)) := by
  rw [withoutEmpty, fieldsWithoutEmpty_eq_map]

theorem colon_not_mem_of_isToken {name : String} (isName : IsToken nameLength name) :
    ':' ∉ name.toList := by
  intro member
  rcases inName_or_mem_of_isToken isName ':' member with inside | isMark
  · exact absurd inside (by decide)
  · exact absurd isMark (by decide)

theorem takeWhile_ne_append {mark : Char} {front : List Char} (free : mark ∉ front)
    (rest : List Char) :
    Reading.takeWhile (· != mark) (front ++ mark :: rest) = some (front, mark :: rest) := by
  refine Reading.takeWhile_append ?_ ?_
  · intro c member
    rw [bne_iff_ne]
    rintro rfl
    exact free member
  · rintro _ ⟨⟩
    exact bne_self_eq_false mark

/-- The words that are no names. -/
theorem isWord_of_mem : ∀ word ∈ ["true", "false", "[]"], IsWord word.toList := by
  simp only [List.forall_mem_cons]
  exact ⟨⟨by simp, by simp [endsValue], by simp⟩, ⟨by simp, by simp [endsValue], by simp⟩,
    ⟨by simp, by simp [endsValue], by simp⟩, nofun⟩

theorem toList_literal_text (s : String) :
    (text s).literal.toList = '"' :: (s.toList ++ ['"']) := by
  simp [literal]

theorem readText_append {s : String} (closed : '"' ∉ s.toList) (rest : List Char) :
    readText ((text s).literal.toList ++ rest) = some (text s, rest) := by
  have written : (text s).literal.toList ++ rest = "\"".toList ++ (s.toList ++ '"' :: rest) := by
    rw [toList_literal_text, List.cons_append, List.append_assoc]
    rfl
  have closing : Reading.token "\"" ('"' :: rest) = some ((), rest) := Reading.token_append _ _
  rw [written, readText, Reading.bind_of_eq_some (Reading.token_append _ _),
    Reading.bind_of_eq_some (takeWhile_ne_append closed rest), Reading.bind_of_eq_some closing,
    String.ofList_toList]
  rfl

theorem readConstant_append (value : FakeValue) (rest : List Char) :
    readConstant value (value.literal.toList ++ rest) = some (value, rest) := by
  rw [readConstant, Reading.bind_of_eq_some (Reading.token_append _ _)]
  rfl

section Fields

variable {readInner : Reading FakeValue} {given : FakeValue → FakeValue} {rest : List Char}

theorem readField_append {field : String × FakeValue} (isName : IsToken nameLength field.1)
    (reads : readInner (field.2.literal.toList ++ rest) = some (given field.2, rest)) :
    readField readInner (fieldText field ++ rest) = some ((field.1, given field.2), rest) := by
  have written : fieldText field ++ rest =
      field.1.toList ++ ':' :: ' ' :: (field.2.literal.toList ++ rest) := by
    simp [fieldText]
  have named := takeWhile_ne_append (colon_not_mem_of_isToken isName)
    (' ' :: (field.2.literal.toList ++ rest))
  have colon : Reading.token ": " (':' :: ' ' :: (field.2.literal.toList ++ rest)) =
      some ((), field.2.literal.toList ++ rest) := Reading.token_append _ _
  rw [written, readField, Reading.bind_of_eq_some named, Reading.bind_of_eq_some colon,
    Reading.bind_of_eq_some reads, String.ofList_toList]
  rfl

theorem readObject_append {first : String × FakeValue} {more : List (String × FakeValue)}
    (named : ∀ field ∈ first :: more, IsToken nameLength field.1)
    (reads : ∀ field ∈ first :: more, ∀ rest, EndsHere rest →
      readInner (field.2.literal.toList ++ rest) = some (given field.2, rest)) (rest : List Char) :
    readObject readInner ((object (first :: more)).literal.toList ++ rest) =
      some (object ((first :: more).map fun field => (field.1, given field.2)), rest) := by
  have readsMore : Reading.Reads (readNextField readInner) EndsHere
      (fun field => ", ".toList ++ fieldText field) (fun field => (field.1, given field.2))
      more := by
    refine ⟨?_, ?_, ?_⟩
    · intro field isField rest ends
      have ofField := reads field (.tail _ isField) rest ends
      rw [List.append_assoc, readNextField, Reading.bind_of_eq_some (Reading.token_append _ _)]
      exact readField_append (named field (.tail _ isField)) ofField
    · rintro field rest _ ⟨⟩
      rfl
    · exact fun field => List.cons_ne_nil _ _
  -- The space in front of the closing brace ends the last value, and is no comma.
  have closing : EndsHere (" \x7d".toList ++ rest) := by
    rintro _ ⟨⟩
    rfl
  have noMore : readNextField readInner (" \x7d".toList ++ rest) = none :=
    Reading.bind_of_eq_none rfl
  have ofFirst := readField_append (named first (.head _))
    (reads first (.head _) _ (readsMore.follows_items closing))
  rw [toList_literal_object, List.append_assoc, List.append_assoc, List.append_assoc, readObject,
    Reading.bind_of_eq_some (Reading.token_append _ _), Reading.bind_of_eq_some ofFirst,
    Reading.bind_of_eq_some (Reading.many_flatMap readsMore closing noMore),
    Reading.bind_of_eq_some (Reading.token_append _ _)]
  rfl

end Fields

/-- In front of what ends a value the literal of a legible value is read, and nothing behind it. -/
theorem readValue_literal {value : FakeValue} (isLegible : value.IsLegible) {depth : Nat}
    {rest : List Char} (enough : value.literal.toList.length ≤ depth) (ends : EndsHere rest) :
    readValue (depth + 1) (value.literal.toList ++ rest) = some (value.withoutEmpty, rest) := by
  induction isLegible generalizing depth rest with
  | number n =>
      rw [literal, readValue_word (isWord_toString n) ends, String.ofList_toList, ofWord,
        numberOf?_toString]
      rfl
  | @text s closed balanced =>
      have kind : readValue (depth + 1) ((text s).literal.toList ++ rest) =
          readText ((text s).literal.toList ++ rest) := by
        rw [toList_literal_text]
        rfl
      rw [kind, readText_append closed]
      rfl
  | bool b =>
      cases b with
      | false => exact readValue_word (isWord_of_mem "false" (by decide)) ends depth
      | true => exact readValue_word (isWord_of_mem "true" (by decide)) ends depth
  | emptyArray => exact readValue_word (isWord_of_mem "[]" (by decide)) ends depth
  | node => exact readConstant_append node rest
  | noop => exact readConstant_append noop rest
  | fixture isName unreserved =>
      rw [literal, readValue_word (isWord_of_isToken isName) ends, String.ofList_toList,
        ofWord_of_isToken isName unreserved]
      rfl
  | @object fields named legible induction =>
      cases fields with
      | nil => exact readWord_append (by simp [literal, endsValue]) ends
      | cons first more =>
          -- A field is shorter than what it stands in, so one level less is enough to read it.
          have longer := length_literal_lt (List.mem_cons_self (a := first) (l := more))
          obtain ⟨less, rfl⟩ : ∃ less, depth = less + 1 := Nat.exists_eq_succ_of_ne_zero (by omega)
          have kind : readValue (less + 1 + 1) ((object (first :: more)).literal.toList ++ rest) =
              readObject (readValue (less + 1))
                ((object (first :: more)).literal.toList ++ rest) := by
            rw [toList_literal_object]
            rfl
          have reads : ∀ field ∈ first :: more, ∀ rest, EndsHere rest →
              readValue (less + 1) (field.2.literal.toList ++ rest) =
                some (field.2.withoutEmpty, rest) := by
            intro field isField rest ends
            have shorter := length_literal_lt isField
            exact induction field isField (by omega) ends
          rw [kind, readObject_append named reads, withoutEmpty_object]
  | unknown => exact readWord_append (by simp [literal, endsValue]) ends

theorem ofLiteral?_literal {value : FakeValue} (isLegible : value.IsLegible) :
    ofLiteral? value.literal = some value.withoutEmpty := by
  have atEnd : EndsHere [] := nofun
  have read := readValue_literal isLegible (Nat.le_refl _) atEnd
  rw [List.append_nil] at read
  rw [ofLiteral?, Reading.whole?, read]

mutual

/-- Objects without fields are written like unknown values. -/
theorem literal_withoutEmpty : (value : FakeValue) → value.withoutEmpty.literal = value.literal
  | object [] => rfl
  | object (field :: more) => by
      rw [withoutEmpty, literal, ← fieldLiterals_withoutEmpty (field :: more)]
      rfl
  | number _ | text _ | bool _ | emptyArray | node | noop | fixture _ | unknown => rfl

theorem fieldLiterals_withoutEmpty : (fields : List (String × FakeValue)) →
    fieldLiterals (fieldsWithoutEmpty fields) = fieldLiterals fields
  | [] => rfl
  | [(name, value)] => by
      rw [fieldsWithoutEmpty, fieldsWithoutEmpty, fieldLiterals, fieldLiterals,
        literal_withoutEmpty value]
  | (name, value) :: (other, next) :: more => by
      have ofMore := fieldLiterals_withoutEmpty ((other, next) :: more)
      rw [fieldsWithoutEmpty] at ofMore ⊢
      rw [fieldsWithoutEmpty, fieldLiterals_cons_cons, fieldLiterals_cons_cons,
        literal_withoutEmpty value, ofMore]

end

theorem literal_eq_iff {value other : FakeValue} (isLegible : value.IsLegible)
    (otherLegible : other.IsLegible) :
    value.literal = other.literal ↔ value.withoutEmpty = other.withoutEmpty := by
  constructor
  · intro same
    have read := ofLiteral?_literal isLegible
    rw [same, ofLiteral?_literal otherLegible] at read
    exact (Option.some.inj read).symm
  · intro same
    rw [← literal_withoutEmpty value, same, literal_withoutEmpty other]

theorem isLegible_of_ofKind? {kind : PropKind} {value : FakeValue}
    (known : ofKind? kind = some value) : value.IsLegible := by
  cases kind <;> cases known
  case number => exact .number 42
  case string => exact .text (by decide) (balanced_of_plain (by simp))
  case bool => exact .bool true
  case array => exact .emptyArray
  case node => exact .node
  case func => exact .noop

end FakeValue

theorem Catalog.isToken_of_mem_builtin {entry : Fixture} (member : entry ∈ builtin.fixtures) :
    IsToken nameLength entry.identifier ∧ entry.identifier ∉ reservedWords := by
  have arePlain : ∀ entry ∈ builtin.fixtures,
      isPlainName entry.identifier = true ∧ entry.identifier ∉ reservedWords := by
    decide +kernel
  exact ⟨isToken_of_isPlainName (arePlain entry member).1, (arePlain entry member).2⟩

namespace PropDecl

/-- A prop that has a name as script writes them, and so have the fields of its shape, at every
depth. -/
inductive Named : PropDecl → Prop
  | shape {prop : PropDecl} {fields : List PropDecl} (isName : IsToken nameLength prop.name)
      (hasShape : prop.shape? = some fields) (named : ∀ field ∈ fields, Named field) : Named prop
  | plain {prop : PropDecl} (isName : IsToken nameLength prop.name)
      (noShape : prop.shape? = none) : Named prop

theorem Named.isToken_name {prop : PropDecl} (named : prop.Named) :
    IsToken nameLength prop.name := by
  cases named with
  | shape isName => exact isName
  | plain isName => exact isName

theorem isLegible_synthesize {prop : PropDecl} (named : prop.Named) :
    (prop.synthesize .builtin).IsLegible := by
  induction named with
  | shape _ hasShape named induction =>
      rw [synthesize_of_shape hasShape]
      refine .object ?_ ?_
      · exact List.forall_mem_map.mpr fun field isField => (named field isField).isToken_name
      · exact List.forall_mem_map.mpr induction
  | plain _ noShape =>
      rw [synthesize_of_no_shape noShape]
      refine FakeValue.ofPlain_induction ?_ ?_ .node .unknown _ _ _
      · exact fun _ _ => FakeValue.isLegible_of_ofKind?
      · intro entry member
        exact .fixture (Catalog.isToken_of_mem_builtin member).1
          (Catalog.isToken_of_mem_builtin member).2

/-- The whole literal of a value is read, and what is read is the value but for objects without
fields. So values with one literal differ in these at most, and braces come in pairs. -/
theorem ofLiteral?_literal_synthesize {prop : PropDecl} (named : prop.Named) :
    FakeValue.ofLiteral? (prop.synthesize .builtin).literal =
        some (prop.synthesize .builtin).withoutEmpty ∧
      Text.Balanced (prop.synthesize .builtin).literal.toList ∧
      ∀ other : PropDecl, other.Named →
        ((prop.synthesize .builtin).literal = (other.synthesize .builtin).literal ↔
          (prop.synthesize .builtin).withoutEmpty = (other.synthesize .builtin).withoutEmpty) := by
  have isLegible := isLegible_synthesize named
  refine ⟨FakeValue.ofLiteral?_literal isLegible, FakeValue.balanced_literal isLegible, ?_⟩
  exact fun other otherNamed => FakeValue.literal_eq_iff isLegible (isLegible_synthesize otherNamed)

/-- A shape with a fixture, a function, and one more field. -/
def profileShape (extra : PropDecl) : PropDecl :=
  ⟨"profile", some ⟨some .shape, none, some [
    ⟨"owner", some ⟨some .custom, some "RomanPropTypes.User", none⟩, true, none⟩,
    ⟨"onSave", some (PropType.ofKind .func), false, none⟩, extra]⟩, false, none⟩

theorem named_profileShape {extra : PropDecl} (named : extra.Named) :
    (profileShape extra).Named := by
  have isName : IsToken nameLength "profile" := isToken_of_isPlainName (by decide +kernel)
  refine .shape isName rfl (List.forall_mem_cons.mpr ⟨?owner, List.forall_mem_cons.mpr
    ⟨?onSave, List.forall_mem_singleton.mpr named⟩⟩)
  case owner => exact .plain (isToken_of_isPlainName (by decide +kernel)) rfl
  case onSave => exact .plain (isToken_of_isPlainName (by decide +kernel)) rfl

/-- A shape without fields is read back as an unknown value, in a shape that has other fields. -/
theorem ofLiteral?_literal_synthesize_profile :
    let prop := profileShape ⟨"extra", some ⟨some .shape, none, some []⟩, false, none⟩
    let other := profileShape ⟨"extra", none, false, none⟩
    prop.Named ∧ other.Named ∧
      (prop.synthesize .builtin).literal =
        "\x7b owner: user, onSave: () => \x7b\x7d, extra: \x7b\x7d \x7d" ∧
      FakeValue.ofLiteral? (prop.synthesize .builtin).literal = some (.object
        [("owner", .fixture "user"), ("onSave", .noop), ("extra", .unknown)]) ∧
      (prop.synthesize .builtin).literal = (other.synthesize .builtin).literal := by
  intro prop other
  have isName : IsToken nameLength "extra" := isToken_of_isPlainName (by decide +kernel)
  have named : prop.Named := named_profileShape (.shape isName rfl nofun)
  have otherNamed : other.Named := named_profileShape (.plain isName rfl)
  have value : prop.synthesize .builtin = .object
      [("owner", .fixture "user"), ("onSave", .noop), ("extra", .object [])] := by
    rfl
  have otherValue : other.synthesize .builtin = .object
      [("owner", .fixture "user"), ("onSave", .noop), ("extra", .unknown)] := by
    rfl
  obtain ⟨read, _, same⟩ := ofLiteral?_literal_synthesize named
  refine ⟨named, otherNamed, ?_, ?_, ?_⟩
  · rw [value]
    rfl
  · rw [read, value]
    rfl
  · rw [same other otherNamed, value, otherValue]
    rfl

end PropDecl

end SnapshotGen
