import SnapshotGen.Proofs.Script.Careful

/-!
Numeric literals by their grammar, as strict code has them: without the old octal forms, which a
script may still have.
-/

namespace SnapshotGen.Script

theorem isToken_cons {length : List Char → Nat} {text : String} (isToken : IsToken length text)
    (nothing : length [] = 0) :
    ∃ c rest, length (c :: rest) ≠ 0 ∧ text.toList = c :: rest.take (length (c :: rest) - 1) := by
  obtain ⟨cs, notZero, same⟩ := isToken
  cases cs with
  | nil => exact absurd nothing notZero
  | cons c rest =>
      refine ⟨c, rest, notZero, ?_⟩
      rw [same, List.take_cons (Nat.pos_of_ne_zero notZero)]

/-- Digits, with single low lines between them. -/
inductive IsDigits (isDigit : Char → Bool) : List Char → Prop
  | last {c : Char} (digit : isDigit c = true) : IsDigits isDigit [c]
  | next {c : Char} {rest : List Char} (digit : isDigit c = true)
      (digits : IsDigits isDigit rest) : IsDigits isDigit (c :: rest)
  | apart {c : Char} {rest : List Char} (digit : isDigit c = true)
      (digits : IsDigits isDigit rest) : IsDigits isDigit (c :: '_' :: rest)

inductive IsRadix : Char → (Char → Bool) → Prop
  | hex {x : Char} (isMark : x = 'x' ∨ x = 'X') : IsRadix x isHex
  | binary {x : Char} (isMark : x = 'b' ∨ x = 'B') : IsRadix x fun c => c == '0' || c == '1'
  | octal {x : Char} (isMark : x = 'o' ∨ x = 'O') : IsRadix x fun c => '0' ≤ c && c ≤ '7'

/-- Zero, or digits that do not start with it. -/
def IsWhole (cs : List Char) : Prop :=
  cs = ['0'] ∨ IsDigits Char.isDigit cs ∧ cs.head? ≠ some '0'

inductive IsScale : List Char → Prop
  | one : IsScale []
  | plain {e : Char} {digits : List Char} (isMark : e = 'e' ∨ e = 'E')
      (areDigits : IsDigits Char.isDigit digits) : IsScale (e :: digits)
  | signed {e sign : Char} {digits : List Char} (isMark : e = 'e' ∨ e = 'E')
      (isSign : sign = '-' ∨ sign = '+') (areDigits : IsDigits Char.isDigit digits) :
      IsScale (e :: sign :: digits)

inductive IsNumeral : List Char → Prop
  | radix {x : Char} {isDigit : Char → Bool} {digits final : List Char} (isRadix : IsRadix x isDigit)
      (areDigits : IsDigits isDigit digits) (isFinal : final = [] ∨ final = ['n']) :
      IsNumeral ('0' :: x :: (digits ++ final))
  | big {whole : List Char} (isWhole : IsWhole whole) : IsNumeral (whole ++ ['n'])
  | scaled {whole scale : List Char} (isWhole : IsWhole whole) (isScale : IsScale scale) :
      IsNumeral (whole ++ scale)
  | decimal {whole digits scale : List Char} (isWhole : IsWhole whole)
      (areDigits : digits = [] ∨ IsDigits Char.isDigit digits) (isScale : IsScale scale) :
      IsNumeral (whole ++ '.' :: (digits ++ scale))
  | fraction {digits scale : List Char} (areDigits : IsDigits Char.isDigit digits)
      (isScale : IsScale scale) : IsNumeral ('.' :: (digits ++ scale))

/-- A zero before another digit: the old octal forms, and what looks like them. -/
def HasLeadingZero (cs : List Char) : Prop :=
  ∃ c rest, cs = '0' :: c :: rest ∧ (c.isDigit = true ∨ c = '_')

theorem IsDigits.exists_cons {isDigit : Char → Bool} {cs : List Char}
    (areDigits : IsDigits isDigit cs) : ∃ c rest, cs = c :: rest ∧ isDigit c = true := by
  cases areDigits with
  | last digit => exact ⟨_, _, rfl, digit⟩
  | next digit digits => exact ⟨_, _, rfl, digit⟩
  | apart digit digits => exact ⟨_, _, rfl, digit⟩

theorem IsWhole.exists_cons {cs : List Char} (isWhole : IsWhole cs) :
    ∃ c rest, cs = c :: rest ∧ c.isDigit = true := by
  rcases isWhole with rfl | ⟨areDigits, -⟩
  · exact ⟨'0', [], rfl, rfl⟩
  · exact areDigits.exists_cons

theorem IsNumeral.exists_cons {cs : List Char} (isNumeral : IsNumeral cs) :
    ∃ c rest, cs = c :: rest ∧ (c.isDigit = true ∨ c = '.') := by
  cases isNumeral with
  | radix isRadix areDigits isFinal => exact ⟨'0', _, rfl, .inl rfl⟩
  | fraction areDigits isScale => exact ⟨'.', _, rfl, .inr rfl⟩
  | big isWhole | scaled isWhole isScale | decimal isWhole areDigits isScale =>
      obtain ⟨c, rest, rfl, digit⟩ := isWhole.exists_cons
      exact ⟨c, _, rfl, .inl digit⟩

theorem IsWhole.not_hasLeadingZero {whole more : List Char} (isWhole : IsWhole whole)
    (ends : ∀ c ∈ more.head?, ¬(c.isDigit = true ∨ c = '_')) : ¬HasLeadingZero (whole ++ more) := by
  rintro ⟨c, rest, same, isNext⟩
  rcases isWhole with rfl | ⟨areDigits, notZero⟩
  · obtain rfl := (List.cons.inj same).2
    exact ends c rfl isNext
  · obtain ⟨d, others, rfl, -⟩ := areDigits.exists_cons
    obtain rfl := (List.cons.inj same).1
    exact notZero rfl

theorem IsScale.ends {scale : List Char} (isScale : IsScale scale) :
    ∀ c ∈ scale.head?, ¬(c.isDigit = true ∨ c = '_') := by
  cases isScale with
  | one => nofun
  | plain isMark areDigits | signed isMark isSign areDigits =>
      rcases isMark with rfl | rfl <;> (rintro _ ⟨⟩; decide)

theorem IsNumeral.not_hasLeadingZero {cs : List Char} (isNumeral : IsNumeral cs) :
    ¬HasLeadingZero cs := by
  cases isNumeral with
  | radix isRadix areDigits isFinal =>
      rintro ⟨c, rest, same, isNext⟩
      obtain ⟨rfl, -⟩ := List.cons.inj (List.cons.inj same).2
      cases isRadix with
      | hex isMark | binary isMark | octal isMark =>
          rcases isMark with rfl | rfl <;> exact absurd isNext (by decide)
  | big isWhole => exact isWhole.not_hasLeadingZero (by rintro _ ⟨⟩; decide)
  | scaled isWhole isScale => exact isWhole.not_hasLeadingZero isScale.ends
  | decimal isWhole areDigits isScale =>
      exact isWhole.not_hasLeadingZero (by rintro _ ⟨⟩; decide)
  | fraction areDigits isScale =>
      rintro ⟨c, rest, same, -⟩
      exact absurd (List.cons.inj same).1 (by decide)

theorem IsDigits.isWhole {digits more : List Char} (areDigits : IsDigits Char.isDigit digits)
    (noZero : ¬HasLeadingZero (digits ++ more)) : IsWhole digits := by
  by_cases zero : digits.head? = some '0'
  · cases areDigits with
    | last digit =>
        obtain rfl := Option.some.inj zero
        exact .inl rfl
    | next digit areDigits =>
        obtain rfl := Option.some.inj zero
        obtain ⟨c, rest, rfl, digit⟩ := areDigits.exists_cons
        exact absurd ⟨c, rest ++ more, rfl, .inl digit⟩ noZero
    | apart digit areDigits =>
        obtain rfl := Option.some.inj zero
        exact absurd ⟨'_', _ ++ more, rfl, .inr rfl⟩ noZero
  · exact .inr ⟨areDigits, zero⟩

section Tokens

variable {cs : List Char}

theorem isDigits_take {isDigit : Char → Bool} (some : digitsLength isDigit cs ≠ 0) :
    IsDigits isDigit (cs.take (digitsLength isDigit cs)) := by
  fun_induction digitsLength isDigit cs with
  | case1 c digit d more digit' induction =>
      rw [Nat.add_comm, List.take_succ_cons, List.take_succ_cons]
      refine .apart digit (induction ?_)
      unfold digitsLength
      rw [if_pos digit']
      split <;> first | omega | (split <;> omega)
  | case2 c digit d more notDigit => exact .last digit
  | case3 c digit rest _ induction =>
      rw [Nat.add_comm, List.take_succ_cons]
      by_cases more : digitsLength isDigit rest = 0
      · rw [more]
        exact .last digit
      · exact .next digit (induction more)
  | case4 | case5 => contradiction

theorem isScale_take : IsScale (cs.take (exponentLength cs)) := by
  fun_cases exponentLength cs with
  | case1 | case3 | case4 => exact .one
  | case2 e rest isMark sign digits some =>
      rw [Bool.or_eq_true, beq_iff_eq, beq_iff_eq] at isMark
      have areDigits : IsDigits Char.isDigit ((rest.drop sign).take digits) := isDigits_take some
      rw [Nat.add_comm 1, Nat.add_right_comm, List.take_succ_cons, List.take_add]
      clear_value digits
      by_cases isSigned : (rest.head? == Option.some '-' || rest.head? == Option.some '+') = true
      · have one : sign = 1 := if_pos isSigned
        rw [Bool.or_eq_true, beq_iff_eq, beq_iff_eq] at isSigned
        cases rest with
        | nil => simp at isSigned
        | cons c rest =>
            rw [one] at areDigits ⊢
            exact .signed isMark (isSigned.imp Option.some.inj Option.some.inj) areDigits
      · have zero : sign = 0 := if_neg isSigned
        rw [zero] at areDigits ⊢
        exact .plain isMark areDigits

theorem exists_fraction (cs : List Char) : ∃ digits scale,
    cs.take (fractionLength cs) = digits ++ scale ∧
      (digits = [] ∨ IsDigits Char.isDigit digits) ∧ IsScale scale := by
  refine ⟨cs.take (digitsLength Char.isDigit cs), _, List.take_add, ?_, isScale_take⟩
  by_cases none : digitsLength Char.isDigit cs = 0
  · rw [none]
    exact .inl rfl
  · exact .inr (isDigits_take none)

theorem isNumeral_of_decimal : numberLength.decimal cs ≠ 0 →
    ¬HasLeadingZero (cs.take (numberLength.decimal cs)) →
      IsNumeral (cs.take (numberLength.decimal cs)) := by
  fun_cases numberLength.decimal cs with
  | case1 digits none => exact fun some => absurd rfl some
  | case2 digits some rest isRest =>
      rw [List.take_add, isRest]
      exact fun _ noZero => .big ((isDigits_take some).isWhole noZero)
  | case3 digits some rest isRest =>
      obtain ⟨fraction, scale, isFraction, areDigits, isScale⟩ := exists_fraction rest
      rw [Nat.add_assoc, Nat.add_comm 1, List.take_add, isRest, List.take_succ_cons, isFraction]
      exact fun _ noZero => .decimal ((isDigits_take some).isWhole noZero) areDigits isScale
  | case4 digits some _ _ =>
      rw [List.take_add]
      exact fun _ noZero => .scaled ((isDigits_take some).isWhole noZero) isScale_take

theorem isRadix_of_eq_some {x : Char} {isDigit : Char → Bool}
    (isRadix : (if x == 'x' || x == 'X' then some isHex
      else if x == 'b' || x == 'B' then some fun c => c == '0' || c == '1'
      else if x == 'o' || x == 'O' then some fun c => '0' ≤ c && c ≤ '7'
      else none) = some isDigit) : IsRadix x isDigit := by
  simp only [Bool.or_eq_true, beq_iff_eq] at isRadix
  split at isRadix
  · cases isRadix
    exact .hex ‹_›
  split at isRadix
  · cases isRadix
    exact .binary ‹_›
  split at isRadix
  · cases isRadix
    exact .octal ‹_›
  · cases isRadix

theorem isNumeral_of_numberLength : numberLength cs ≠ 0 →
    ¬HasLeadingZero (cs.take (numberLength cs)) → IsNumeral (cs.take (numberLength cs)) := by
  fun_cases numberLength cs with
  | case1 rest none => exact fun some => absurd rfl some
  | case2 rest some =>
      have isFraction : rest.take (fractionLength rest) = _ := List.take_add
      rw [Nat.add_comm, List.take_succ_cons, isFraction]
      exact fun _ _ => .fraction (isDigits_take some) isScale_take
  | case3 x rest radix isDigit isRadix digits none =>
      exact fun _ _ => .scaled (.inl rfl) .one
  | case4 x rest radix isDigit isRadix digits some =>
      rw [Nat.add_assoc, Nat.add_comm, List.take_succ_cons, List.take_succ_cons, List.take_add]
      refine fun _ _ => .radix (isRadix_of_eq_some isRadix) (isDigits_take some) ?_
      split
      · rename_i isBig
        obtain ⟨more, isMore⟩ := List.head?_eq_some_iff.mp (beq_iff_eq.mp isBig)
        rw [isMore]
        exact .inr rfl
      · exact .inl rfl
  | case5 x rest radix _ => exact isNumeral_of_decimal
  | case6 cs _ _ => exact isNumeral_of_decimal

theorem digitsLength_of_not {isDigit : Char → Bool} {c : Char} (notDigit : isDigit c = false)
    (rest : List Char) : digitsLength isDigit (c :: rest) = 0 := by
  unfold digitsLength
  rw [notDigit]
  rfl

theorem numberLength_of_not {c : Char} (notDigit : c.isDigit = false) (notDot : c ≠ '.')
    (rest : List Char) : numberLength (c :: rest) = 0 := by
  unfold numberLength
  split
  · rename_i same
    cases same
    exact absurd rfl notDot
  · rename_i same
    cases same
    cases notDigit
  · unfold numberLength.decimal
    rw [digitsLength_of_not notDigit]
    rfl

theorem numberLength_nil : numberLength [] = 0 := by
  simp [numberLength, numberLength.decimal, digitsLength]

variable {text : String}

theorem exists_cons_of_number (isNumber : IsToken numberLength text) :
    ∃ c rest, text.toList = c :: rest ∧ (c.isDigit = true ∨ c = '.') := by
  obtain ⟨c, rest, notZero, chars⟩ := isToken_cons isNumber numberLength_nil
  refine ⟨c, _, chars, ?_⟩
  cases digit : c.isDigit with
  | true => exact .inl rfl
  | false => exact .inr (Decidable.byContradiction fun notDot =>
      notZero (numberLength_of_not digit notDot rest))

/-- A script has its numbers as strict code has them, and besides only with a zero in front. -/
theorem isNumeral_iff_of_isToken (isNumber : IsToken numberLength text) :
    IsNumeral text.toList ↔ ¬HasLeadingZero text.toList := by
  obtain ⟨cs, some, same⟩ := isNumber
  rw [same]
  exact ⟨IsNumeral.not_hasLeadingZero, isNumeral_of_numberLength some⟩

end Tokens

end SnapshotGen.Script
