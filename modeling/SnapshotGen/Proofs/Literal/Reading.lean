import Mathlib.Data.List.Basic
import SnapshotGen.Proofs.Literal.Legible
import SnapshotGen.Text.Reading

/-!
A reader of literals. The character that a literal starts with tells of what kind the value is, and
inside an object a comma or a space tells where a value ends. Numbers, names and the words of other
values are read up to there.
-/

namespace SnapshotGen

namespace Text.Reading

variable {α β : Type}

theorem bind_of_eq_some {p : Reading α} {f : α → Reading β} {cs middle : List Char} {a : α}
    (first : p cs = some (a, middle)) : (p >>= f) cs = f a middle := by
  change (p cs).bind _ = _
  rw [first]
  rfl

theorem bind_of_eq_none {p : Reading α} {f : α → Reading β} {cs : List Char}
    (failed : p cs = none) : (p >>= f) cs = none := by
  change (p cs).bind _ = _
  rw [failed]
  rfl

theorem token_append (text : String) (rest : List Char) :
    token text (text.toList ++ rest) = some ((), rest) := by
  rw [token, List.isPrefixOf?_eq_some_iff_append_eq.mpr rfl]
  rfl

theorem takeWhile_append {p : Char → Bool} {front rest : List Char}
    (inside : ∀ c ∈ front, p c = true)
    (stops : ∀ c ∈ rest.head?, p c = false) : takeWhile p (front ++ rest) = some (front, rest) := by
  have noneLeft : rest.takeWhile p = [] ∧ rest.dropWhile p = rest := by
    cases rest with
    | nil => exact ⟨rfl, rfl⟩
    | cons c rest =>
        have stop : p c = false := stops c rfl
        exact ⟨by rw [List.takeWhile_cons, stop]; rfl, by rw [List.dropWhile_cons, stop]; rfl⟩
  rw [takeWhile, List.takeWhile_append_of_pos inside, List.dropWhile_append_of_pos inside,
    noneLeft.1, noneLeft.2, List.append_nil]

/-- Pieces that are read one by one, each in front of what may follow it, up to what is none. -/
structure Reads {Item : Type} (p : Reading α) (Follows : List Char → Prop)
    (written : Item → List Char) (given : Item → α) (items : List Item) : Prop where
  reads : ∀ item ∈ items, ∀ rest, Follows rest → p (written item ++ rest) = some (given item, rest)
  follows : ∀ item rest, Follows (written item ++ rest)
  notEmpty : ∀ item, written item ≠ []

section Reads

variable {Item : Type} {p : Reading α} {Follows : List Char → Prop} {written : Item → List Char}
  {given : Item → α} {items : List Item} {rest : List Char}

theorem Reads.follows_items (reads : Reads p Follows written given items) (ofRest : Follows rest) :
    Follows (items.flatMap written ++ rest) := by
  cases items with
  | nil => exact ofRest
  | cons item items =>
      rw [List.flatMap_cons, List.append_assoc]
      exact reads.follows item _

theorem Reads.tail {item : Item} (reads : Reads p Follows written given (item :: items)) :
    Reads p Follows written given items :=
  ⟨fun other member => reads.reads other (.tail _ member), reads.follows, reads.notEmpty⟩

theorem repeatUpTo_flatMap (reads : Reads p Follows written given items) (ofRest : Follows rest)
    (ends : p rest = none) {bound : Nat} (enough : items.length ≤ bound) :
    repeatUpTo bound p (items.flatMap written ++ rest) = some (items.map given, rest) := by
  induction items generalizing bound with
  | nil =>
      cases bound with
      | zero => rfl
      | succ bound =>
          change ((p >>= _) rest).or (some ([], rest)) = _
          rw [bind_of_eq_none ends]
          rfl
  | cons item items induction =>
      obtain ⟨bound, rfl⟩ := Nat.exists_eq_succ_of_ne_zero (Nat.ne_zero_of_lt enough)
      have first := reads.reads item (.head _) _ (reads.tail.follows_items ofRest)
      have more := induction reads.tail (Nat.le_of_succ_le_succ enough)
      rw [List.flatMap_cons, List.append_assoc]
      change ((p >>= _) _).or _ = _
      rw [bind_of_eq_some first, bind_of_eq_some more]
      rfl

theorem Reads.length_le (reads : Reads p Follows written given items) :
    items.length ≤ (items.flatMap written).length := by
  induction items with
  | nil => exact Nat.le_refl 0
  | cons item items induction =>
      have := induction reads.tail
      have := List.length_pos_iff.mpr (reads.notEmpty item)
      rw [List.flatMap_cons, List.length_append, List.length_cons]
      omega

theorem many_flatMap (reads : Reads p Follows written given items) (ofRest : Follows rest)
    (ends : p rest = none) :
    many p (items.flatMap written ++ rest) = some (items.map given, rest) := by
  apply repeatUpTo_flatMap reads ofRest ends
  have := reads.length_le
  rw [List.length_append]
  omega

end Reads

end Text.Reading

open Text Script

namespace FakeValue

def numberOf? : List Char → Option Int
  | '-' :: digits => some (-Nat.ofDigitChars 10 digits 0)
  | c :: rest => if c.isDigit then some (Nat.ofDigitChars 10 (c :: rest) 0 : Int) else none
  | [] => none

/-- A word that is no other value is the name of a fixture. -/
def ofWord (word : String) : FakeValue :=
  match numberOf? word.toList with
  | some n => number n
  | none =>
    if word = "true" then bool true
    else if word = "false" then bool false
    else if word = "[]" then emptyArray
    else if word = "\x7b\x7d" then unknown
    else fixture word

def endsValue (c : Char) : Bool :=
  c == ',' || c == ' '

def readText : Reading FakeValue := do
  Reading.token "\""
  let body ← Reading.takeWhile (· != '"')
  Reading.token "\""
  return text (String.ofList body)

def readConstant (value : FakeValue) : Reading FakeValue := do
  Reading.token value.literal
  return value

def readWord : Reading FakeValue := do
  let word ← Reading.takeWhile (!endsValue ·)
  return ofWord (String.ofList word)

def readField (readValue : Reading FakeValue) : Reading (String × FakeValue) := do
  let name ← Reading.takeWhile (· != ':')
  Reading.token ": "
  return (String.ofList name, ← readValue)

def readNextField (readValue : Reading FakeValue) : Reading (String × FakeValue) := do
  Reading.token ", "
  readField readValue

def readObject (readValue : Reading FakeValue) : Reading FakeValue := do
  Reading.token "\x7b "
  let first ← readField readValue
  let more ← Reading.many (readNextField readValue)
  Reading.token " \x7d"
  return object (first :: more)

/-- Reads a value in which objects are nested less deep than a bound. -/
def readValue : Nat → Reading FakeValue
  | 0 => Reading.fail
  | depth + 1 => fun cs =>
    match cs with
    | '"' :: _ => readText cs
    | '<' :: _ => readConstant node cs
    | '(' :: _ => readConstant noop cs
    | '\x7b' :: ' ' :: _ => readObject (readValue depth) cs
    | _ => readWord cs

def ofLiteral? (literal : String) : Option FakeValue :=
  (readValue (literal.toList.length + 1)).whole? literal.toList

theorem numberOf?_of_isDigit {c : Char} (isDigit : c.isDigit = true) (rest : List Char) :
    numberOf? (c :: rest) = some (Nat.ofDigitChars 10 (c :: rest) 0 : Int) := by
  unfold numberOf?
  split
  · rename_i same
    cases same
    cases isDigit
  · rename_i same
    cases same
    exact if_pos isDigit
  · rename_i same
    cases same

theorem numberOf?_eq_none {c : Char} (notDigit : c.isDigit = false) (notMinus : c ≠ '-')
    (rest : List Char) : numberOf? (c :: rest) = none := by
  unfold numberOf?
  split
  · rename_i same
    exact absurd (List.cons.inj same).1 notMinus
  · rename_i same
    cases same
    simp [notDigit]
  · rfl

theorem numberOf?_toString (n : Int) : numberOf? (toString n).toList = some n := by
  change numberOf? n.repr.toList = some n
  rw [Int.repr_eq_if]
  split
  · rename_i notNegative
    obtain ⟨c, rest, same⟩ := List.exists_cons_of_ne_nil (@Nat.toDigits_ne_nil n.toNat 10)
    have inDigits : c ∈ Nat.toDigits 10 n.toNat := by
      rw [same]
      exact .head _
    have isDigit : c.isDigit = true := Nat.isDigit_of_mem_toDigits (by decide) (by decide) inDigits
    rw [Nat.toList_repr, same, numberOf?_of_isDigit isDigit, ← same, Nat.ofDigitChars_ten_toDigits,
      Int.toNat_of_nonneg notNegative]
  · rename_i negative
    have signed : ("-" ++ (-n).toNat.repr).toList = '-' :: Nat.toDigits 10 (-n).toNat := by
      rw [String.toList_append, Nat.toList_repr]
      rfl
    rw [signed, numberOf?, Nat.ofDigitChars_ten_toDigits]
    congr 1
    omega

theorem endsValue_eq_false_iff {c : Char} : endsValue c = false ↔ c ∉ [',', ' '] := by
  simp [endsValue]

/-- What can be read as a word: no value of another kind starts like it, and none ends inside. -/
structure IsWord (word : List Char) : Prop where
  starts : ∀ c ∈ word.head?, c ∉ ['"', '<', '(', '\x7b']
  inside : ∀ c ∈ word, endsValue c = false
  notEmpty : word ≠ []

theorem isWord_toString (n : Int) : IsWord (toString n).toList := by
  have areOther : ∀ c ∈ (toString n).toList, c ∉ ['"', '<', '(', '\x7b'] ∧ c ∉ [',', ' '] := by
    intro c member
    rcases mem_toString_int member with isDigit | rfl
    · have inside : inName c = true := Bool.or_eq_true_iff.mpr (.inr isDigit)
      exact ⟨not_mem_of_inName inside (by decide), not_mem_of_inName inside (by decide)⟩
    · decide
  refine ⟨?_, ?_, ?_⟩
  · exact fun c first => (areOther c (List.mem_of_head? first)).1
  · exact fun c member => endsValue_eq_false_iff.mpr (areOther c member).2
  · intro isEmpty
    have isNumber := numberOf?_toString n
    rw [isEmpty] at isNumber
    cases isNumber

theorem isWord_of_isToken {identifier : String} (isName : IsToken nameLength identifier) :
    IsWord identifier.toList := by
  obtain ⟨c, rest, same, starts⟩ := starts_of_isToken isName
  refine ⟨?_, ?_, ?_⟩
  · rw [same]
    rintro _ ⟨⟩
    rcases starts with isStart | rfl
    · exact not_mem_of_inName (Bool.or_eq_true_iff.mpr (.inl isStart)) (by decide)
    · decide
  · intro d member
    rw [endsValue_eq_false_iff]
    rcases inName_or_mem_of_isToken isName d member with inside | isMark
    · exact not_mem_of_inName inside (by decide)
    · have apart : ∀ mark ∈ ['\\', '\x7b', '\x7d'], mark ∉ [',', ' '] := by simp
      exact apart d isMark
  · rw [same]
    exact List.cons_ne_nil c rest

theorem ofWord_of_isToken {identifier : String} (isName : IsToken nameLength identifier)
    (unreserved : identifier ∉ reservedWords) : ofWord identifier = fixture identifier := by
  obtain ⟨c, rest, same, starts⟩ := starts_of_isToken isName
  have notNumber : numberOf? identifier.toList = none := by
    rw [same]
    rcases starts with isStart | rfl
    · refine numberOf?_eq_none ?_ ?_ rest
      · simp only [startsName, Bool.and_eq_true, Bool.not_eq_true'] at isStart
        exact isStart.1.2
      · rintro rfl
        exact absurd isStart (by decide)
    · rfl
  have notTrue : identifier ≠ "true" := by
    rintro rfl
    exact unreserved (by decide)
  have notFalse : identifier ≠ "false" := by
    rintro rfl
    exact unreserved (by decide)
  have notArray : identifier ≠ "[]" := by
    rintro rfl
    exact not_isToken_of_head rfl (by decide) (by decide) isName
  have notBraces : identifier ≠ "\x7b\x7d" := by
    rintro rfl
    exact not_isToken_of_head rfl (by decide) (by decide) isName
  rw [ofWord, notNumber]
  dsimp only
  rw [if_neg notTrue, if_neg notFalse, if_neg notArray, if_neg notBraces]

def EndsHere (rest : List Char) : Prop :=
  ∀ c ∈ rest.head?, endsValue c = true

theorem readWord_append {word rest : List Char} (inside : ∀ c ∈ word, endsValue c = false)
    (ends : EndsHere rest) :
    readWord (word ++ rest) = some (ofWord (String.ofList word), rest) := by
  have taken : Reading.takeWhile (!endsValue ·) (word ++ rest) = some (word, rest) :=
    Reading.takeWhile_append (fun c member => by rw [inside c member]; rfl)
      (fun c member => by rw [ends c member]; rfl)
  rw [readWord, Reading.bind_of_eq_some taken]
  rfl

theorem readValue_word {word rest : List Char} (isWord : IsWord word) (ends : EndsHere rest)
    (depth : Nat) :
    readValue (depth + 1) (word ++ rest) = some (ofWord (String.ofList word), rest) := by
  rw [← readWord_append isWord.inside ends]
  obtain ⟨c, more, rfl⟩ := List.exists_cons_of_ne_nil isWord.notEmpty
  obtain ⟨notQuote, notTag, notArrow, notBrace⟩ :
      c ≠ '"' ∧ c ≠ '<' ∧ c ≠ '(' ∧ c ≠ '\x7b' := by
    simpa using isWord.starts c rfl
  rw [List.cons_append, readValue]
  dsimp only
  split
  · rename_i same
    exact absurd (List.cons.inj same).1 notQuote
  · rename_i same
    exact absurd (List.cons.inj same).1 notTag
  · rename_i same
    exact absurd (List.cons.inj same).1 notArrow
  · rename_i same
    exact absurd (List.cons.inj same).1 notBrace
  · rfl

end FakeValue

end SnapshotGen
