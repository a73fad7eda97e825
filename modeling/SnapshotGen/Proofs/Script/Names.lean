import SnapshotGen.Extraction.Expression
import SnapshotGen.Proofs.Script.Letters
import SnapshotGen.Proofs.Script.Numerals

/-!
Names as a tag and an object literal can have them, and the keys of a script that give such names.
What a key is written as decides: a name, a number, a private name, or what stands in quotes.
-/

namespace SnapshotGen.Script

/-- A name of an attribute in a tag: that of a name, and dashes behind the first character. -/
def isAttributeName (letters : Letters) (text : String) : Bool :=
  match text.toList with
  | [] => false
  | c :: rest => letters.starts c && rest.all fun d => letters.continues d || d == '-'

/-- A name, which may be spelled with escapes. -/
def isIdentifierName (letters : Letters) (text : String) : Bool :=
  match spelled? text.toList with
  | some (c :: rest) => letters.starts c && rest.all letters.continues
  | _ => false

/-- What a backslash in a string can stand before, but for a zero. -/
inductive IsEscape : List Char → Prop
  | char {c : Char} (plain : c.isDigit = false ∧ c ≠ 'x' ∧ c ≠ 'u') : IsEscape [c]
  | lineEnd : IsEscape ['\r', '\n']
  | hex {a b : Char} (areHex : isHex a = true ∧ isHex b = true) : IsEscape ['x', a, b]
  | code {digits : List Char} {code : Nat} (isCode : codePoint? digits = some (code, [])) :
      IsEscape ('u' :: digits)

inductive IsStringTail (quote : Char) : List Char → Prop
  | close : IsStringTail quote [quote]
  | char {c : Char} {rest : List Char} (plain : c ∉ [quote, '\\', '\n', '\r'])
      (tail : IsStringTail quote rest) : IsStringTail quote (c :: rest)
  | escape {escape rest : List Char} (isEscape : IsEscape escape)
      (tail : IsStringTail quote rest) : IsStringTail quote ('\\' :: (escape ++ rest))
  | zero {rest : List Char} (ends : ∀ c ∈ rest.head?, c.isDigit = false)
      (tail : IsStringTail quote rest) : IsStringTail quote ('\\' :: '0' :: rest)

/-- A string in quotes, as strict code has it: without the old octal escapes. -/
def IsStringLiteral (cs : List Char) : Prop :=
  ∃ quote rest, cs = quote :: rest ∧ (quote = '"' ∨ quote = '\'') ∧ IsStringTail quote rest

/-- A name of a property in an object literal: a name, a number or a string. -/
def IsPropertyName (letters : Letters) (text : String) : Prop :=
  isIdentifierName letters text = true ∨ IsNumeral text.toList ∨ IsStringLiteral text.toList

theorem nameLength_nil : nameLength [] = 0 := by
  simp [nameLength, nameUnit]

theorem privateNameLength_nil : privateNameLength [] = 0 :=
  rfl

theorem nameUnit_eq_succ {first : Bool} {c : Char} {rest : List Char} {n : Nat}
    (unit : nameUnit first (c :: rest) = n + 1) :
    c = '\\' ∨ n = 0 ∧ (if first then startsName c else inName c) = true := by
  unfold nameUnit at unit
  split at unit
  · rename_i same
    cases same
    exact .inl rfl
  · rename_i same
    cases same
    by_cases isPart : (if first then startsName c else inName c) = true
    · rw [if_pos isPart] at unit
      exact .inr ⟨(Nat.succ.inj unit).symm, isPart⟩
    · rw [if_neg isPart] at unit
      cases unit
  · contradiction

theorem starts_of_isToken {text : String} (isName : IsToken nameLength text) :
    ∃ c rest, text.toList = c :: rest ∧ (startsName c = true ∨ c = '\\') := by
  obtain ⟨c, rest, notZero, same⟩ := isToken_cons isName nameLength_nil
  refine ⟨c, _, same, ?_⟩
  cases unit : nameUnit true (c :: rest) with
  | zero => simp [nameLength, unit] at notZero
  | succ n => exact (nameUnit_eq_succ unit).symm.imp_left And.right

/-- Without escapes the tail of a name consists of the characters that a name may have. -/
theorem inName_of_mem_nameTail {cs : List Char} (plain : '\\' ∉ cs.take (nameTail cs)) :
    ∀ c ∈ cs.take (nameTail cs), inName c = true := by
  fun_induction nameTail cs with
  | case1 => simp
  | case2 c rest unit => simp
  | case3 c rest n unit induction =>
      rw [Nat.add_right_comm, List.take_succ_cons] at plain ⊢
      rcases nameUnit_eq_succ unit with rfl | ⟨rfl, isPart⟩
      · exact absurd (.head _) plain
      · rw [Nat.zero_add] at plain ⊢
        intro d member
        rcases List.mem_cons.mp member with rfl | inRest
        · exact isPart
        · exact induction (fun inTail => plain (.tail _ inTail)) d inRest

theorem nameLength_of_nameUnit {cs : List Char} {n : Nat} (unit : nameUnit true cs = n + 1) :
    nameLength cs = nameTail (cs.drop (n + 1)) + n + 1 := by
  unfold nameLength
  rw [unit]
  exact Nat.add_comm _ _

theorem toList_of_name {text : String} (isName : IsToken nameLength text)
    (plain : '\\' ∉ text.toList) :
    ∃ c rest, text.toList = c :: rest ∧ startsName c = true ∧ ∀ d ∈ rest, inName d = true := by
  obtain ⟨c, rest, notZero, same⟩ := isToken_cons isName nameLength_nil
  cases unit : nameUnit true (c :: rest) with
  | zero => simp [nameLength, unit] at notZero
  | succ n =>
      rw [nameLength_of_nameUnit unit, Nat.add_sub_cancel] at same
      rw [same] at plain ⊢
      rcases nameUnit_eq_succ unit with rfl | ⟨rfl, starts⟩
      · exact absurd (.head _) plain
      · exact ⟨c, _, rfl, starts, inName_of_mem_nameTail fun member => plain (.tail _ member)⟩

section Names

variable {letters : Letters} {text : String} {c : Char} {rest : List Char}

theorem isAttributeName_iff (chars : text.toList = c :: rest) :
    isAttributeName letters text = true ↔
      letters.starts c = true ∧ ∀ d ∈ rest, letters.continues d = true ∨ d = '-' := by
  unfold isAttributeName
  rw [chars]
  simp only [Bool.and_eq_true, List.all_eq_true, Bool.or_eq_true, beq_iff_eq]

theorem isIdentifierName_iff_of_plain (chars : text.toList = c :: rest)
    (plain : '\\' ∉ text.toList) :
    isIdentifierName letters text = true ↔
      letters.starts c = true ∧ ∀ d ∈ rest, letters.continues d = true := by
  unfold isIdentifierName
  rw [spelled?_of_plain plain, chars]
  simp only [Bool.and_eq_true, List.all_eq_true]

theorem starts_or_isEscape_of_isIdentifierName (chars : text.toList = c :: rest)
    (isName : isIdentifierName letters text = true) : c = '\\' ∨ letters.starts c = true := by
  by_cases isEscape : c = '\\'
  · exact .inl isEscape
  unfold isIdentifierName at isName
  rw [chars, spelled?_cons isEscape] at isName
  cases spelled : spelled? rest with
  | none => simp [spelled] at isName
  | some more =>
      rw [spelled, Option.map_some, Bool.and_eq_true] at isName
      exact .inr isName.1

/-- The first character tells names, numbers and strings apart. -/
theorem first_of_isPropertyName (chars : text.toList = c :: rest)
    (isProperty : IsPropertyName letters text) :
    c = '\\' ∨ letters.starts c = true ∨ c.isDigit = true ∨ c ∈ ['.', '"', '\''] := by
  rcases isProperty with isName | isNumeral | ⟨quote, more, same, isQuote, -⟩
  · exact (starts_or_isEscape_of_isIdentifierName chars isName).imp_right .inl
  · obtain ⟨d, more, same, digit | rfl⟩ := isNumeral.exists_cons
    · obtain rfl := (List.cons.inj (chars.symm.trans same)).1
      exact .inr (.inr (.inl digit))
    · obtain rfl := (List.cons.inj (chars.symm.trans same)).1
      exact .inr (.inr (.inr (.head _)))
  · obtain rfl := (List.cons.inj (chars.symm.trans same)).1
    rcases isQuote with rfl | rfl <;> simp

theorem not_isPropertyName_empty : ¬IsPropertyName letters "" := by
  rintro (isName | isNumeral | ⟨_, _, same, -⟩)
  · unfold isIdentifierName at isName
    simp [spelled?] at isName
  · obtain ⟨_, _, same, -⟩ := isNumeral.exists_cons
    cases same
  · cases same

theorem not_mem_of_isAttributeName (isName : isAttributeName letters text = true) :
    '\\' ∉ text.toList := by
  unfold isAttributeName at isName
  split at isName
  · cases isName
  · rename_i c rest chars
    rw [chars]
    rw [Bool.and_eq_true, List.all_eq_true] at isName
    intro member
    rcases List.mem_cons.mp member with rfl | inRest
    · rw [Letters.starts_of_ascii (by decide)] at isName
      exact absurd isName.1 (by decide)
    · have inside := isName.2 _ inRest
      rw [Letters.continues_of_ascii (by decide)] at inside
      exact absurd inside (by decide)

/-- Of a name that a script gives, a table decides if it can stand in a tag. -/
theorem isAttributeName_iff_of_isToken (isName : IsToken nameLength text) :
    isAttributeName letters text = true ↔ letters.Spell text := by
  by_cases plain : '\\' ∈ text.toList
  · exact iff_of_false (fun isAttribute => not_mem_of_isAttributeName isAttribute plain)
      (fun spelled => spelled.plain plain)
  · obtain ⟨c, rest, chars, starts, inNames⟩ := toList_of_name isName plain
    rw [isAttributeName_iff chars, Letters.spell_iff chars starts inNames]
    refine and_congr_right fun _ => forall₂_congr fun d inRest => or_iff_left ?_
    rintro rfl
    exact absurd (inNames _ inRest) (by decide)

theorem isIdentifierName_iff_of_isToken (isName : IsToken nameLength text)
    (plain : '\\' ∉ text.toList) :
    isIdentifierName letters text = true ↔ letters.Spell text := by
  obtain ⟨c, rest, chars, starts, inNames⟩ := toList_of_name isName plain
  rw [isIdentifierName_iff_of_plain chars plain, Letters.spell_iff chars starts inNames]

theorem isPropertyName_iff_of_name (isName : IsToken nameLength text) :
    IsPropertyName letters text ↔ isIdentifierName letters text = true := by
  obtain ⟨c, rest, chars, starts⟩ := starts_of_isToken isName
  have notDigit : c.isDigit = false := by
    rcases starts with starts | rfl
    · cases digit : c.isDigit with
      | false => rfl
      | true => simp [startsName, digit] at starts
    · rfl
  have notMark : c ∉ ['.', '"', '\''] := by
    intro isMark
    rcases starts with starts | rfl
    · have noneStarts : ['.', '"', '\''].any startsName = false := by decide
      exact List.any_eq_false.mp noneStarts c isMark starts
    · exact absurd isMark (by decide)
  refine ⟨?_, .inl⟩
  rintro (isIdentifier | isNumeral | ⟨quote, more, same, isQuote, -⟩)
  · exact isIdentifier
  · obtain ⟨d, more, same, digit | rfl⟩ := isNumeral.exists_cons
    · obtain rfl := (List.cons.inj (chars.symm.trans same)).1
      exact absurd digit (by simp [notDigit])
    · obtain rfl := (List.cons.inj (chars.symm.trans same)).1
      exact absurd (by decide) notMark
  · obtain rfl := (List.cons.inj (chars.symm.trans same)).1
    rcases isQuote with rfl | rfl <;> exact absurd (by decide) notMark

/-- No table lets a name start with a digit or a dot. -/
theorem starts_of_number (isFirst : c.isDigit = true ∨ c = '.') : letters.starts c = false := by
  have ofCode : ∀ n < 0x80, (Char.ofNat n).isDigit = true → isPlainStart (Char.ofNat n) = false := by
    decide +kernel
  rcases isFirst with digit | rfl
  · have ascii := toNat_lt_of_isDigit digit
    rw [Letters.starts_of_ascii ascii]
    simpa using ofCode c.toNat ascii (by simpa using digit)
  · exact Letters.starts_of_ascii (by decide)

/-- A number is no name and no string. -/
theorem isPropertyName_iff_of_number (isNumber : IsToken numberLength text) :
    IsPropertyName letters text ↔ ¬HasLeadingZero text.toList := by
  obtain ⟨c, rest, chars, isFirst⟩ := exists_cons_of_number isNumber
  rw [← isNumeral_iff_of_isToken isNumber]
  refine ⟨?_, fun isNumeral => .inr (.inl isNumeral)⟩
  rintro (isName | isNumeral | ⟨quote, more, same, isQuote, -⟩)
  · rcases starts_or_isEscape_of_isIdentifierName chars isName with rfl | starts
    · exact absurd isFirst (by decide)
    · exact absurd starts (by simp [starts_of_number isFirst])
  · exact isNumeral
  · obtain rfl := (List.cons.inj (chars.symm.trans same)).1
    rcases isQuote with rfl | rfl <;> exact absurd isFirst (by decide)

theorem not_isAttributeName_of_starts (chars : text.toList = c :: rest)
    (starts : letters.starts c = false) : ¬isAttributeName letters text = true := by
  rw [isAttributeName_iff chars, starts]
  exact fun both => Bool.false_ne_true both.1

theorem privateNameLength_of_ne (notHash : c ≠ '#') (rest : List Char) :
    privateNameLength (c :: rest) = 0 := by
  unfold privateNameLength
  split
  · rename_i same
    cases same
    exact absurd rfl notHash
  · rfl

/-- A private name starts with a character that no other token here starts with. -/
theorem toList_of_privateName (isPrivate : IsToken privateNameLength text) :
    ∃ rest, text.toList = '#' :: rest := by
  obtain ⟨c, rest, notZero, same⟩ := isToken_cons isPrivate privateNameLength_nil
  have isHash : c = '#' := Decidable.byContradiction fun notHash =>
    notZero (privateNameLength_of_ne notHash rest)
  exact ⟨_, isHash ▸ same⟩

theorem not_isPropertyName_of_hash (chars : text.toList = '#' :: rest) :
    ¬IsPropertyName letters text := by
  intro isProperty
  rcases first_of_isPropertyName chars isProperty with isEscape | starts | other
  · exact absurd isEscape (by decide)
  · rw [Letters.starts_of_ascii (by decide)] at starts
    exact absurd starts (by decide)
  · exact absurd other (by decide)

end Names

namespace Node

/-- The name of a key stands in a tag as it should. -/
def NamesAttribute (letters : Letters) (key : Node) : Prop :=
  match key.kind with
  | .identifier | .shorthand => key.text ≠ "" ∧ letters.Spell key.text
  | .string => isAttributeName letters (unquoted key.text) = true
  | _ => False

/-- The name of a key stands in an object literal as it should. -/
def NamesProperty (letters : Letters) (key : Node) : Prop :=
  match key.kind with
  | .identifier | .shorthand =>
    key.text ≠ "" ∧ letters.Spell key.text ∨
      '\\' ∈ key.text.toList ∧ isIdentifierName letters key.text = true
  | .number => ¬HasLeadingZero key.text.toList
  | .string => IsPropertyName letters (unquoted key.text)
  | _ => False

theorem names_iff_of_name {letters : Letters} {text : String}
    (covers : text = "" ∨ IsToken nameLength text) :
    (isAttributeName letters text = true ↔ text ≠ "" ∧ letters.Spell text) ∧
      (IsPropertyName letters text ↔ text ≠ "" ∧ letters.Spell text ∨
        '\\' ∈ text.toList ∧ isIdentifierName letters text = true) := by
  rcases covers with rfl | isName
  · refine ⟨⟨nofun, fun both => absurd rfl both.1⟩, ?_⟩
    refine iff_of_false not_isPropertyName_empty ?_
    rintro (⟨some, -⟩ | ⟨escaped, -⟩)
    · exact some rfl
    · cases escaped
  · obtain ⟨c, rest, chars, -⟩ := starts_of_isToken isName
    have notEmpty : text ≠ "" := by
      rintro rfl
      cases chars
    rw [isAttributeName_iff_of_isToken isName, isPropertyName_iff_of_name isName]
    refine ⟨(and_iff_right notEmpty).symm, ?_⟩
    rw [and_iff_right notEmpty]
    by_cases plain : '\\' ∈ text.toList
    · rw [and_iff_right plain]
      exact (or_iff_right fun spelled => spelled.plain plain).symm
    · rw [isIdentifierName_iff_of_isToken isName plain]
      exact (or_iff_left fun escaped => plain escaped.1).symm

/-- What a key of a script is written as tells where its name can stand. -/
theorem names_iff_of_key? (letters : Letters) {key : Node} {name : String} (covers : key.Covers)
    (named : key.key? = some name) :
    (isAttributeName letters name = true ↔ key.NamesAttribute letters) ∧
      (IsPropertyName letters name ↔ key.NamesProperty letters) := by
  obtain ⟨kind, text, children⟩ := key
  cases kind with
  | identifier =>
      cases named
      exact names_iff_of_name covers
  | shorthand =>
      cases named
      exact names_iff_of_name (.inr covers)
  | privateName =>
      cases named
      obtain ⟨rest, chars⟩ := toList_of_privateName covers
      have starts : letters.starts '#' = false := Letters.starts_of_ascii (by decide)
      exact ⟨iff_of_false (not_isAttributeName_of_starts chars starts) id,
        iff_of_false (not_isPropertyName_of_hash chars) id⟩
  | number =>
      cases named
      obtain ⟨c, rest, chars, isFirst⟩ := exists_cons_of_number covers
      exact ⟨iff_of_false (not_isAttributeName_of_starts chars (starts_of_number isFirst)) id,
        isPropertyName_iff_of_number covers⟩
  | string =>
      cases named
      exact ⟨Iff.rfl, Iff.rfl⟩
  | _ => cases named

end Node

end SnapshotGen.Script
