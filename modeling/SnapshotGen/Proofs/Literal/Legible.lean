import SnapshotGen.FakeValue
import SnapshotGen.Proofs.Script.NameUnits

/-!
Values whose literals can be told apart: their texts do not end before the quote that closes them,
and fields and fixtures have names. The literals of such values open and close braces in pairs.
-/

namespace SnapshotGen

open Script

/-- Every brace that a text opens is closed in it, and no other. -/
inductive Text.Balanced : List Char → Prop
  | nil : Balanced []
  | plain {c : Char} {rest : List Char} (notOpen : c ≠ '\x7b') (notClose : c ≠ '\x7d')
      (balanced : Balanced rest) : Balanced (c :: rest)
  | braces {inner rest : List Char} (ofInner : Balanced inner) (ofRest : Balanced rest) :
      Balanced ('\x7b' :: (inner ++ '\x7d' :: rest))

namespace Text

theorem Balanced.append {front back : List Char} (ofFront : Balanced front)
    (ofBack : Balanced back) : Balanced (front ++ back) := by
  induction ofFront with
  | nil => exact ofBack
  | plain notOpen notClose _ induction => exact .plain notOpen notClose induction
  | braces ofInner _ _ induction =>
      rw [List.cons_append, List.append_assoc, List.cons_append]
      exact .braces ofInner induction

theorem balanced_of_plain {cs : List Char} (arePlain : ∀ c ∈ cs, c ≠ '\x7b' ∧ c ≠ '\x7d') :
    Balanced cs := by
  induction cs with
  | nil => exact .nil
  | cons c rest induction =>
      obtain ⟨notBrace, restPlain⟩ := List.forall_mem_cons.mp arePlain
      exact .plain notBrace.1 notBrace.2 (induction restPlain)

theorem balanced_flatten {pieces : List (List Char)}
    (areBalanced : ∀ piece ∈ pieces, Balanced piece) : Balanced pieces.flatten := by
  induction pieces with
  | nil => exact .nil
  | cons piece more induction =>
      obtain ⟨ofPiece, ofMore⟩ := List.forall_mem_cons.mp areBalanced
      exact ofPiece.append (induction ofMore)

end Text

open Text

namespace Script

theorem notBrace_of_inName {c : Char} (inside : inName c = true) : c ≠ '\x7b' ∧ c ≠ '\x7d' := by
  have notBrace : c ∉ ['\x7b', '\x7d'] := not_mem_of_inName inside (by decide)
  simpa using notBrace

theorem balanced_of_isNameUnit {unit : List Char} (isUnit : IsNameUnit unit) : Balanced unit := by
  have ofDigits {digits : List Char} (areHex : ∀ d ∈ digits, isHex d = true) : Balanced digits :=
    balanced_of_plain fun d member => notBrace_of_inName (inName_of_isHex (areHex d member))
  cases isUnit with
  | char inside => exact .plain (notBrace_of_inName inside).1 (notBrace_of_inName inside).2 .nil
  | code areHex =>
      exact .plain (by decide) (by decide) (.plain (by decide) (by decide) (ofDigits areHex))
  | point areHex =>
      exact .plain (by decide) (by decide)
        (.plain (by decide) (by decide) (.braces (ofDigits areHex) .nil))

/-- A name has no braces but those of its escapes. -/
theorem balanced_of_isToken {text : String} (isName : IsToken nameLength text) :
    Balanced text.toList := by
  obtain ⟨units, same, areUnits⟩ := exists_units_of_isToken isName
  rw [same]
  exact balanced_flatten fun unit member => balanced_of_isNameUnit (areUnits unit member)

end Script

namespace FakeValue

def fieldText (field : String × FakeValue) : List Char :=
  field.1.toList ++ (": ".toList ++ field.2.literal.toList)

theorem fieldLiterals_cons_cons (name : String) (value : FakeValue) (next : String × FakeValue)
    (more : List (String × FakeValue)) : fieldLiterals ((name, value) :: next :: more) =
      name ++ ": " ++ value.literal ++ ", " ++ fieldLiterals (next :: more) := by
  rw [fieldLiterals]
  exact nofun

theorem toList_fieldLiterals (field : String × FakeValue) (more : List (String × FakeValue)) :
    (fieldLiterals (field :: more)).toList =
      fieldText field ++ more.flatMap fun field => ", ".toList ++ fieldText field := by
  induction more generalizing field with
  | nil => simp [fieldLiterals, fieldText]
  | cons next more induction =>
      rw [fieldLiterals_cons_cons, String.toList_append, String.toList_append, induction]
      simp [fieldText]

theorem toList_literal_object (field : String × FakeValue) (more : List (String × FakeValue)) :
    (object (field :: more)).literal.toList =
      "\x7b ".toList ++ (fieldText field ++
        ((more.flatMap fun field => ", ".toList ++ fieldText field) ++ " \x7d".toList)) := by
  rw [literal, String.toList_append, String.toList_append, toList_fieldLiterals]
  simp

theorem length_literal_lt {fields : List (String × FakeValue)} {field : String × FakeValue}
    (isField : field ∈ fields) :
    field.2.literal.toList.length + 1 < (object fields).literal.toList.length := by
  have shorter : field.2.literal.toList.length ≤ (fieldText field).length := by
    simp only [fieldText, List.length_append]
    omega
  cases fields with
  | nil => cases isField
  | cons first more =>
      rw [toList_literal_object]
      rcases List.mem_cons.mp isField with rfl | inMore
      · simp
        omega
      · obtain ⟨front, back, rfl⟩ := List.append_of_mem inMore
        simp
        omega

/-- A value that its literal tells, up to objects without fields. -/
inductive IsLegible : FakeValue → Prop
  | number (n : Int) : IsLegible (number n)
  | text {s : String} (closed : '"' ∉ s.toList) (balanced : Balanced s.toList) : IsLegible (text s)
  | bool (b : Bool) : IsLegible (bool b)
  | emptyArray : IsLegible emptyArray
  | node : IsLegible node
  | noop : IsLegible noop
  | fixture {identifier : String} (isName : IsToken nameLength identifier)
      (unreserved : identifier ∉ reservedWords) : IsLegible (fixture identifier)
  | object {fields : List (String × FakeValue)}
      (named : ∀ field ∈ fields, IsToken nameLength field.1)
      (legible : ∀ field ∈ fields, IsLegible field.2) : IsLegible (object fields)
  | unknown : IsLegible unknown

theorem mem_toString_int {n : Int} {c : Char} (member : c ∈ (toString n).toList) :
    c.isDigit = true ∨ c = '-' := by
  have ofNat {n : Nat} (inDigits : c ∈ n.repr.toList) : c.isDigit = true := by
    rw [Nat.repr_eq_ofList_toDigits, String.toList_ofList] at inDigits
    exact Nat.isDigit_of_mem_toDigits (by decide) (by decide) inDigits
  change c ∈ n.repr.toList at member
  rw [Int.repr_eq_if] at member
  split at member
  · exact .inl (ofNat member)
  · rw [String.toList_append, List.mem_append] at member
    rcases member with isMinus | inDigits
    · exact .inr (List.mem_singleton.mp isMinus)
    · exact .inl (ofNat inDigits)

theorem balanced_fieldText {field : String × FakeValue} (named : IsToken nameLength field.1)
    (ofValue : Balanced field.2.literal.toList) : Balanced (fieldText field) :=
  (balanced_of_isToken named).append ((balanced_of_plain (by simp)).append ofValue)

theorem balanced_literal {value : FakeValue} (isLegible : value.IsLegible) :
    Balanced value.literal.toList := by
  induction isLegible with
  | number n =>
      refine balanced_of_plain fun c member => ?_
      rcases mem_toString_int member with isDigit | rfl
      · exact notBrace_of_inName (Bool.or_eq_true_iff.mpr (.inr isDigit))
      · decide
  | text closed balanced =>
      rw [literal, String.toList_append, String.toList_append]
      exact ((balanced_of_plain (by simp)).append balanced).append (balanced_of_plain (by simp))
  | bool b => cases b <;> exact balanced_of_plain (by simp [literal])
  | emptyArray => exact balanced_of_plain (by simp [literal])
  | node => exact balanced_of_plain (by simp [literal])
  | noop =>
      have arrow : Balanced "() => ".toList := balanced_of_plain (by simp)
      exact arrow.append (.braces .nil .nil)
  | fixture isName unreserved => exact balanced_of_isToken isName
  | @object fields named legible induction =>
      cases fields with
      | nil => exact .braces .nil .nil
      | cons first more =>
          have ofText : ∀ field ∈ first :: more, Balanced (fieldText field) := fun field isField =>
            balanced_fieldText (named field isField) (induction field isField)
          obtain ⟨ofFirst, ofMore⟩ := List.forall_mem_cons.mp ofText
          have ofPieces : Balanced (more.flatMap fun field => ", ".toList ++ fieldText field) := by
            rw [List.flatMap_def]
            refine balanced_flatten fun piece member => ?_
            obtain ⟨field, isField, rfl⟩ := List.mem_map.mp member
            exact (balanced_of_plain (by simp)).append (ofMore field isField)
          have blank : Balanced [' '] := balanced_of_plain (by simp)
          have inside := blank.append (ofFirst.append (ofPieces.append blank))
          have closed := Balanced.braces inside .nil
          rw [toList_literal_object]
          simpa using closed
  | unknown => exact .braces .nil .nil

end FakeValue

end SnapshotGen
