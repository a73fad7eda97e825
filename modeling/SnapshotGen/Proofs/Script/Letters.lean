import SnapshotGen.Script.Token
import SnapshotGen.Toml.Value

/-!
The characters of names. A script is read with nearly every character beyond ASCII allowed in its
names; which of them a name can have is for a table to tell. An escape in a name stands for a
character.
-/

namespace SnapshotGen.Script

/-- The characters beyond ASCII that a table allows at the start and in the rest of a name. -/
structure Letters where
  start : Char → Bool
  rest : Char → Bool

def isPlainStart (c : Char) : Bool :=
  c.isAlpha || c == '_' || c == '$'

def isPlainRest (c : Char) : Bool :=
  isPlainStart c || c.isDigit

def isBeyondAscii (c : Char) : Bool :=
  0x7f < c.toNat

namespace Letters

def ascii : Letters :=
  ⟨fun _ => false, fun _ => false⟩

def starts (letters : Letters) (c : Char) : Bool :=
  isPlainStart c || isBeyondAscii c && letters.start c

def continues (letters : Letters) (c : Char) : Bool :=
  isPlainRest c || isBeyondAscii c && letters.rest c

/-- What a name is spelled with beyond printed ASCII is allowed by a table. A tag spells no name
with escapes. -/
structure Spell (letters : Letters) (text : String) : Prop where
  plain : '\\' ∉ text.toList
  start : ∀ c ∈ text.toList.head?, 0x7f ≤ c.toNat → letters.starts c = true
  rest : ∀ c ∈ text.toList.tail, 0x7f ≤ c.toNat → letters.continues c = true

end Letters

theorem toNat_lt_of_upTo {c top : Char} (below : c.val ≤ top.val) (ascii : top.toNat < 0x80) :
    c.toNat < 0x80 :=
  Nat.lt_of_le_of_lt (UInt32.le_iff_toNat_le.mp below) ascii

theorem toNat_lt_of_isDigit {c : Char} (digit : c.isDigit = true) : c.toNat < 0x80 := by
  have bounds := (Bool.and_eq_true ..).mp digit
  exact toNat_lt_of_upTo (of_decide_eq_true bounds.2) (by decide : '9'.toNat < 0x80)

theorem toNat_lt_of_isAlpha {c : Char} (letter : c.isAlpha = true) : c.toNat < 0x80 := by
  rcases (Bool.or_eq_true ..).mp letter with upper | lower
  · exact toNat_lt_of_upTo (of_decide_eq_true upper).2 (by decide : 'Z'.toNat < 0x80)
  · have bounds := (Bool.and_eq_true ..).mp lower
    exact toNat_lt_of_upTo (of_decide_eq_true bounds.2) (by decide : 'z'.toNat < 0x80)

theorem toNat_lt_of_isPlainRest {c : Char} (isPart : isPlainRest c = true) : c.toNat < 0x80 := by
  rw [isPlainRest, isPlainStart, Bool.or_eq_true, Bool.or_eq_true, Bool.or_eq_true, beq_iff_eq,
    beq_iff_eq] at isPart
  rcases isPart with ((letter | rfl) | rfl) | digit
  · exact toNat_lt_of_isAlpha letter
  · decide
  · decide
  · exact toNat_lt_of_isDigit digit

theorem isPlainStart_of_startsName {c : Char} (printed : c.toNat < 0x7f)
    (starts : startsName c = true) : isPlainStart c = true := by
  have ofCode : ∀ n < 0x7f, startsName (Char.ofNat n) = true →
      isPlainStart (Char.ofNat n) = true := by
    decide +kernel
  simpa using ofCode c.toNat printed (by simpa using starts)

theorem isPlainRest_of_inName {c : Char} (printed : c.toNat < 0x7f) (inside : inName c = true) :
    isPlainRest c = true := by
  rw [inName, Bool.or_eq_true] at inside
  rw [isPlainRest, Bool.or_eq_true]
  exact inside.imp_left (isPlainStart_of_startsName printed)

namespace Letters

variable {letters : Letters} {text : String} {c : Char} {rest : List Char}

/-- Of the characters that a script has in its names, a table is only asked for those beyond printed
ASCII. -/
theorem spell_iff (chars : text.toList = c :: rest) (starts : startsName c = true)
    (inNames : ∀ d ∈ rest, inName d = true) :
    letters.Spell text ↔ letters.starts c = true ∧ ∀ d ∈ rest, letters.continues d = true := by
  constructor
  · rintro ⟨-, startSpelled, restSpelled⟩
    rw [chars] at startSpelled restSpelled
    constructor
    · rcases Nat.lt_or_ge c.toNat 0x7f with printed | beyond
      · rw [Letters.starts, isPlainStart_of_startsName printed starts, Bool.true_or]
      · exact startSpelled c rfl beyond
    · intro d inRest
      rcases Nat.lt_or_ge d.toNat 0x7f with printed | beyond
      · rw [continues, isPlainRest_of_inName printed (inNames d inRest), Bool.true_or]
      · exact restSpelled d inRest beyond
  · rintro ⟨isStart, areRest⟩
    refine ⟨?_, ?_, ?_⟩
    · rw [chars]
      intro member
      rcases List.mem_cons.mp member with rfl | inRest
      · exact absurd starts (by decide)
      · exact absurd (inNames _ inRest) (by decide)
    · rw [chars]
      rintro _ ⟨⟩ _
      exact isStart
    · rw [chars]
      exact fun d inRest _ => areRest d inRest

/-- Marks and digits start no name, whatever a table allows. -/
theorem starts_of_ascii (ascii : c.toNat < 0x80) : letters.starts c = isPlainStart c := by
  have notBeyond : isBeyondAscii c = false := decide_eq_false (by omega)
  rw [starts, notBeyond, Bool.false_and, Bool.or_false]

theorem continues_of_ascii (ascii : c.toNat < 0x80) : letters.continues c = isPlainRest c := by
  have notBeyond : isBeyondAscii c = false := decide_eq_false (by omega)
  rw [continues, notBeyond, Bool.false_and, Bool.or_false]

end Letters

/-- The code point that stands behind the `u` of an escape, and what follows it. -/
def codePoint? : List Char → Option (Nat × List Char)
  | '\x7b' :: rest =>
    let digits := rest.takeWhile isHex
    let code := Toml.radixValue 16 digits
    match rest.drop digits.length with
    | '\x7d' :: more => if digits ≠ [] ∧ code ≤ 0x10ffff then some (code, more) else none
    | _ => none
  | a :: b :: c :: d :: more =>
    if [a, b, c, d].all isHex then some (Toml.radixValue 16 [a, b, c, d], more) else none
  | _ => none

theorem length_of_codePoint? {cs more : List Char} {code : Nat} :
    codePoint? cs = some (code, more) → more.length < cs.length := by
  fun_cases codePoint? cs with
  | case1 rest digits code' after isRest some =>
      rw [Option.some.injEq, Prod.mk.injEq]
      rintro ⟨-, rfl⟩
      have isSuffix : '\x7d' :: after <:+ rest := isRest ▸ List.drop_suffix digits.length rest
      have shorter := isSuffix.length_le
      simp only [List.length_cons] at shorter ⊢
      omega
  | case4 a b c d after _ areHex =>
      rintro ⟨⟩
      simp only [List.length_cons]
      omega
  | case2 | case3 | case5 | case6 => exact nofun

/-- The characters of a name with those that its escapes stand for; none if one stands for no
character. -/
def spelled? : List Char → Option (List Char)
  | '\\' :: 'u' :: rest =>
    match _found : codePoint? rest with
    | some (code, more) =>
      if code.isValidChar then (spelled? more).map (Char.ofNat code :: ·) else none
    | none => none
  | c :: rest => (spelled? rest).map (c :: ·)
  | [] => some []
termination_by cs => cs.length
decreasing_by
  · have shorter := length_of_codePoint? _found
    simp only [List.length_cons]
    omega
  · simp only [List.length_cons]
    omega

theorem spelled?_cons {c : Char} (plain : c ≠ '\\') (rest : List Char) :
    spelled? (c :: rest) = (spelled? rest).map (c :: ·) := by
  rw [spelled?]
  exact fun _ isEscape _ => plain isEscape

theorem spelled?_of_plain {cs : List Char} (plain : '\\' ∉ cs) : spelled? cs = some cs := by
  induction cs with
  | nil => rw [spelled?]
  | cons c rest induction =>
      obtain ⟨notEscape, restPlain⟩ := not_or.mp (mt List.mem_cons.mpr plain)
      rw [spelled?_cons (Ne.symm notEscape), induction restPlain, Option.map_some]

end SnapshotGen.Script
