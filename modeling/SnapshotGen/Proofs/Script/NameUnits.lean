import SnapshotGen.Proofs.Script.Names

/-!
Names unit by unit: each is a character that a name can have, or an escape that stands for one. So no
name has a mark in it but the backslash and the braces of escapes.
-/

namespace SnapshotGen.Script

inductive IsNameUnit : List Char → Prop
  | char {c : Char} (inside : inName c = true) : IsNameUnit [c]
  | code {digits : List Char} (areHex : ∀ d ∈ digits, isHex d = true) :
      IsNameUnit ('\\' :: 'u' :: digits)
  | point {digits : List Char} (areHex : ∀ d ∈ digits, isHex d = true) :
      IsNameUnit ('\\' :: 'u' :: '\x7b' :: (digits ++ ['\x7d']))

theorem isNameUnit_of_codePoint (rest : List Char) :
    IsNameUnit ('\\' :: 'u' :: rest.take (codePointLength rest)) := by
  fun_cases codePointLength rest with
  | case1 rest digits closed =>
      rw [Bool.and_eq_true, beq_iff_eq] at closed
      obtain ⟨more, isMore⟩ := List.head?_eq_some_iff.mp closed.2
      have isHexRun : rest.take digits = rest.takeWhile isHex :=
        (List.prefix_iff_eq_take.mp (List.takeWhile_prefix isHex)).symm
      have split : rest.take (digits + 1) = rest.takeWhile isHex ++ ['\x7d'] := by
        rw [List.take_add, isHexRun, isMore]
        rfl
      rw [List.take_succ_cons, split]
      exact .point fun d member => List.all_eq_true.mp List.all_takeWhile d member
  | case3 a b c d more _ areHex =>
      simp only [Bool.and_eq_true] at areHex
      refine .code ?_
      simp [areHex]
  | case2 | case4 | case5 => exact .code (by simp)

theorem isNameUnit_take {first : Bool} {cs : List Char} {n : Nat}
    (unit : nameUnit first cs = n + 1) : IsNameUnit (cs.take (n + 1)) := by
  rw [← unit]
  fun_cases nameUnit first cs with
  | case2 rest notZero => exact isNameUnit_of_codePoint rest
  | case3 c rest _ isPart =>
      refine .char ?_
      cases first with
      | false => exact isPart
      | true => exact Bool.or_eq_true_iff.mpr (.inl isPart)
  | case1 | case4 | case5 => cases first <;> simp_all [nameUnit]

theorem exists_units_of_nameTail (cs : List Char) : ∃ units : List (List Char),
    cs.take (nameTail cs) = units.flatten ∧ ∀ unit ∈ units, IsNameUnit unit := by
  fun_induction nameTail cs with
  | case1 => exact ⟨[], rfl, List.forall_mem_nil _⟩
  | case2 c rest unit => exact ⟨[], rfl, List.forall_mem_nil _⟩
  | case3 c rest n unit induction =>
      obtain ⟨units, same, areUnits⟩ := induction
      refine ⟨(c :: rest).take (n + 1) :: units, ?_,
        List.forall_mem_cons.mpr ⟨isNameUnit_take unit, areUnits⟩⟩
      rw [List.take_add, List.flatten_cons, ← same, List.drop_succ_cons]

theorem exists_units_of_isToken {text : String} (isName : IsToken nameLength text) :
    ∃ units : List (List Char), text.toList = units.flatten ∧ ∀ unit ∈ units, IsNameUnit unit := by
  obtain ⟨cs, notZero, same⟩ := isName
  cases unit : nameUnit true cs with
  | zero => simp [nameLength, unit] at notZero
  | succ n =>
      obtain ⟨units, tail, areUnits⟩ := exists_units_of_nameTail (cs.drop (n + 1))
      refine ⟨cs.take (n + 1) :: units, ?_,
        List.forall_mem_cons.mpr ⟨isNameUnit_take unit, areUnits⟩⟩
      rw [same, nameLength_of_nameUnit unit, Nat.add_assoc, Nat.add_comm, List.take_add, tail,
        List.flatten_cons]

theorem inName_of_isHex {c : Char} (hex : isHex c = true) : inName c = true := by
  have ofCode : ∀ n < 128, isHex (Char.ofNat n) = true → inName (Char.ofNat n) = true := by
    decide +kernel
  have printed : c.toNat < 128 := by
    simp only [isHex, Char.isDigit, Bool.or_eq_true, Bool.and_eq_true, decide_eq_true_eq,
      ge_iff_le, Char.le_def, UInt32.le_iff_toNat_le] at hex
    rcases hex with (⟨_, below⟩ | ⟨_, below⟩) | ⟨_, below⟩ <;>
      exact Nat.lt_of_le_of_lt below (by decide)
  simpa using ofCode c.toNat printed (by simpa using hex)

theorem not_mem_of_inName {c : Char} {marks : List Char} (inside : inName c = true)
    (areMarks : marks.any inName = false) : c ∉ marks :=
  fun member => List.any_eq_false.mp areMarks c member inside

/-- The characters of a name: those that it can have, and the marks of escapes. -/
theorem inName_or_mem_of_isNameUnit {unit : List Char} (isUnit : IsNameUnit unit) :
    ∀ c ∈ unit, inName c = true ∨ c ∈ ['\\', '\x7b', '\x7d'] := by
  have areInName {digits : List Char} (areHex : ∀ d ∈ digits, isHex d = true) :
      ∀ c ∈ 'u' :: digits, inName c = true :=
    List.forall_mem_cons.mpr ⟨by decide, fun d member => inName_of_isHex (areHex d member)⟩
  intro c member
  cases isUnit with
  | char inside =>
      obtain rfl := List.mem_singleton.mp member
      exact .inl inside
  | code areHex =>
      rcases List.mem_cons.mp member with rfl | inDigits
      · exact .inr (.head _)
      · exact .inl (areInName areHex c inDigits)
  | point areHex =>
      simp only [List.mem_cons, List.mem_append, List.not_mem_nil, or_false] at member
      rcases member with rfl | rfl | rfl | inDigits | rfl
      · exact .inr (.head _)
      · exact .inl (areInName areHex _ (.head _))
      · exact .inr (.tail _ (.head _))
      · exact .inl (areInName areHex c (.tail _ inDigits))
      · exact .inr (.tail _ (.tail _ (.head _)))

theorem inName_or_mem_of_isToken {text : String} (isName : IsToken nameLength text) :
    ∀ c ∈ text.toList, inName c = true ∨ c ∈ ['\\', '\x7b', '\x7d'] := by
  obtain ⟨units, same, areUnits⟩ := exists_units_of_isToken isName
  intro c member
  rw [same] at member
  obtain ⟨unit, isUnit, inUnit⟩ := List.mem_flatten.mp member
  exact inName_or_mem_of_isNameUnit (areUnits unit isUnit) c inUnit

theorem nameUnit_of_plain {first : Bool} {c : Char}
    (isPart : (if first then startsName c else inName c) = true) (rest : List Char) :
    nameUnit first (c :: rest) = 1 := by
  have notEscape : c ≠ '\\' := by
    rintro rfl
    cases first <;> exact absurd isPart (by decide)
  unfold nameUnit
  split
  · rename_i same
    exact absurd (List.cons.inj same).1 notEscape
  · rename_i same
    cases same
    exact if_pos isPart
  · rename_i same
    cases same

theorem nameTail_of_inName {cs : List Char} (inside : ∀ c ∈ cs, inName c = true) :
    nameTail cs = cs.length := by
  induction cs with
  | nil => rw [nameTail, List.length_nil]
  | cons c rest induction =>
      obtain ⟨ofFirst, ofRest⟩ := List.forall_mem_cons.mp inside
      rw [nameTail, @nameUnit_of_plain false c ofFirst]
      dsimp only
      rw [List.drop_zero, induction ofRest, List.length_cons]
      omega

def isPlainName (text : String) : Bool :=
  text.toList.head?.any startsName && text.toList.all inName

theorem isToken_of_isPlainName {text : String} (isPlain : isPlainName text = true) :
    IsToken nameLength text := by
  obtain ⟨starts, inside⟩ := Bool.and_eq_true_iff.mp isPlain
  obtain ⟨c, isFirst, isStart⟩ := (Option.any_eq_true _ _).mp starts
  obtain ⟨rest, same⟩ := List.head?_eq_some_iff.mp isFirst
  have ofRest : ∀ d ∈ rest, inName d = true := by
    intro d member
    apply List.all_eq_true.mp inside
    rw [same]
    exact .tail c member
  have whole : nameLength (c :: rest) = rest.length + 1 := by
    rw [nameLength_of_nameUnit (@nameUnit_of_plain true c isStart rest), List.drop_succ_cons,
      List.drop_zero, nameTail_of_inName ofRest]
  refine ⟨c :: rest, ?_, ?_⟩
  · rw [whole]
    exact Nat.succ_ne_zero _
  · rw [whole, same]
    exact List.take_length.symm

theorem not_isToken_of_head {text : String} {c : Char} (isFirst : text.toList.head? = some c)
    (notStart : startsName c = false) (notEscape : c ≠ '\\') : ¬IsToken nameLength text := by
  intro isName
  obtain ⟨d, rest, same, starts⟩ := starts_of_isToken isName
  rw [same] at isFirst
  obtain rfl := Option.some.inj isFirst
  rcases starts with isStart | isEscape
  · rw [notStart] at isStart
    cases isStart
  · exact notEscape isEscape

end SnapshotGen.Script
