import Mathlib.Order.WellFounded
import SnapshotGen.Proofs.Extraction.Members
import SnapshotGen.Proofs.Extraction.Uses
import SnapshotGen.Proofs.Script.Equality

/-!
Where the reading of an object of types comes to an end: just where no path of objects that use one
another goes on for ever. What is read does then not depend on how many objects may be read inside
one another, if only these are enough.
-/

namespace SnapshotGen.Extraction

open Script Script.Node

variable {survey : Survey} {object inner member : Node} {declared : List Declared}
  {limit more : Nat}

/-- What a member declares stays so where more is read of other objects. -/
theorem memberDeclared?_of_reads {read? further? : Node → Option (List Declared)}
    (reads : ∀ inner declared, read? inner = some declared → further? inner = some declared)
    (isRead : memberDeclared? survey read? member = some declared) :
    memberDeclared? survey further? member = some declared := by
  cases memberCase survey member with
  | nameless nameless =>
      obtain ⟨always, isAlways, _⟩ := exists_memberDeclared?_of_nameless survey nameless
      rw [isAlways] at isRead ⊢
      exact isRead
  | shorthand isShorthand =>
      rw [memberDeclared?_of_shorthand isShorthand] at isRead ⊢
      exact isRead
  | plain isPair hasPair noFields =>
      rw [memberDeclared?_of_plain isPair hasPair noFields] at isRead ⊢
      exact isRead
  | shape isPair hasPair hasFields =>
      rw [memberDeclared?_of_shape isPair hasPair hasFields, Option.map_eq_some_iff] at isRead ⊢
      obtain ⟨fields, isInner, same⟩ := isRead
      exact ⟨fields, reads _ _ isInner, same⟩

theorem declared?_of_le (enough : limit ≤ more)
    (isRead : declared? survey limit object = some declared) :
    declared? survey more object = some declared := by
  induction limit generalizing more object declared with
  | zero => cases isRead
  | succ limit induction =>
      cases more with
      | zero => exact absurd enough (Nat.not_succ_le_zero limit)
      | succ more =>
          rw [declared?_succ_eq_some_iff] at isRead ⊢
          obtain ⟨groups, areRead, same⟩ := isRead
          refine ⟨groups, areRead.imp fun member group => memberDeclared?_of_reads ?_, same⟩
          exact fun inner declared => induction (Nat.le_of_succ_le_succ enough)

/-- One more member is read within a limit that is large enough for it, too. -/
theorem exists_readWithin_cons {members : List Node} {group : List Declared}
    {groups : List (List Declared)}
    (isFirst : memberDeclared? survey (declared? survey limit) member = some group)
    (areRest : ReadWithin survey more members groups) :
    ∃ enough, ReadWithin survey enough (member :: members) (group :: groups) := by
  refine ⟨max limit more, .cons ?_ (areRest.imp fun _ _ => ?_)⟩
  · exact memberDeclared?_of_reads (fun _ _ => declared?_of_le (Nat.le_max_left ..)) isFirst
  · exact memberDeclared?_of_reads fun _ _ => declared?_of_le (Nat.le_max_right ..)

theorem exists_readWithin {members : List Node}
    (areRead : ∀ member ∈ members, ∃ limit group,
      memberDeclared? survey (declared? survey limit) member = some group) :
    ∃ limit groups, ReadWithin survey limit members groups := by
  induction members with
  | nil => exact ⟨0, [], .nil⟩
  | cons member members induction =>
      obtain ⟨_, group, isFirst⟩ := areRead member (.head _)
      obtain ⟨_, groups, areRest⟩ := induction fun other isOther => areRead other (.tail _ isOther)
      obtain ⟨enough, areAll⟩ := exists_readWithin_cons isFirst areRest
      exact ⟨enough, group :: groups, areAll⟩

def UsedBy (survey : Survey) (inner object : Node) : Prop :=
  Uses survey object inner

/-- Some path of objects, each used by the one before it, never ends. -/
def Endless (survey : Survey) (object : Node) : Prop :=
  ∃ path : Nat → Node, path 0 = object ∧ ∀ n, Uses survey (path n) (path (n + 1))

theorem acc_usedBy_iff : Acc (UsedBy survey) object ↔ ¬Endless survey object := by
  rw [← not_iff_not, not_not]
  exact not_acc_iff_exists_descending_chain

/-- An object is not read without those that it uses. -/
theorem declared?_of_uses (uses : Uses survey object inner)
    (isRead : (declared? survey (limit + 1) object).isSome) :
    (declared? survey limit inner).isSome := by
  obtain ⟨declared, isRead⟩ := Option.isSome_iff_exists.mp isRead
  obtain ⟨groups, areRead, _⟩ := declared?_succ_eq_some_iff.mp isRead
  obtain ⟨member, isMember, name, value, isPair, hasPair, hasFields⟩ := uses
  obtain ⟨group, _, isGroup⟩ := exists_of_mem_of_forall₂ areRead isMember
  rw [memberDeclared?_of_shape isPair hasPair hasFields, Option.map_eq_some_iff] at isGroup
  obtain ⟨fields, isInner, _⟩ := isGroup
  rw [isInner]
  rfl

theorem acc_of_declared? (isRead : (declared? survey limit object).isSome) :
    Acc (UsedBy survey) object := by
  induction limit generalizing object with
  | zero => cases isRead
  | succ limit induction =>
      exact .intro object fun inner uses => induction (declared?_of_uses uses isRead)

/-- A member is read where the objects are that are used by the object it is a member of. -/
theorem exists_group_of_uses (isMember : member ∈ object.childNodes)
    (reads : ∀ inner, Uses survey object inner →
      ∃ limit declared, declared? survey limit inner = some declared) :
    ∃ limit group, memberDeclared? survey (declared? survey limit) member = some group := by
  cases memberCase survey member with
  | nameless nameless =>
      obtain ⟨group, isGroup, _⟩ := exists_memberDeclared?_of_nameless survey nameless
      exact ⟨0, group, isGroup _⟩
  | shorthand isShorthand => exact ⟨0, _, memberDeclared?_of_shorthand isShorthand⟩
  | plain isPair hasPair noFields =>
      exact ⟨0, _, memberDeclared?_of_plain isPair hasPair noFields⟩
  | @shape name value inner isPair hasPair hasFields =>
      obtain ⟨limit, fields, isInner⟩ :=
        reads inner ⟨member, isMember, name, value, isPair, hasPair, hasFields⟩
      refine ⟨limit, shapeDeclared name value fields, ?_⟩
      rw [memberDeclared?_of_shape isPair hasPair hasFields, isInner, Option.map_some]

theorem exists_limit_of_acc (ends : Acc (UsedBy survey) object) :
    ∃ limit declared, declared? survey limit object = some declared := by
  induction ends with
  | intro object _ induction =>
      obtain ⟨limit, groups, areRead⟩ := exists_readWithin fun _ isMember =>
        exists_group_of_uses isMember induction
      exact ⟨limit + 1, _, declared?_succ_eq_some_iff.mpr ⟨groups, areRead, rfl⟩⟩

theorem ends_iff_not_endless :
    (∃ limit declared, declared? survey limit object = some declared) ↔ ¬Endless survey object := by
  rw [← acc_usedBy_iff]
  constructor
  · rintro ⟨limit, declared, isRead⟩
    exact acc_of_declared? (Option.isSome_iff_exists.mpr ⟨declared, isRead⟩)
  · exact exists_limit_of_acc

theorem acc_of_reaches (ends : Acc (UsedBy survey) object)
    (reaches : Relation.ReflTransGen (Uses survey) object inner) : Acc (UsedBy survey) inner := by
  induction reaches with
  | refl => exact ends
  | tail _ uses induction => exact induction.inv uses

theorem not_reaches_self_of_acc (ends : Acc (UsedBy survey) object) :
    ¬Relation.TransGen (Uses survey) object object := by
  induction ends with
  | intro object _ induction =>
      intro reaches
      obtain ⟨inner, uses, back⟩ := Relation.TransGen.head'_iff.mp reaches
      exact induction inner uses (.tail' back uses)

theorem not_selfContaining_of_acc (ends : Acc (UsedBy survey) object) :
    ¬SelfContaining survey object := by
  rintro ⟨inner, reaches, contains⟩
  exact not_reaches_self_of_acc (acc_of_reaches ends reaches) contains

/-- An object is read, and the same way however much deeper reading may go, just if no path of uses
from it is endless. One that is used inside itself is never read. In a script it is enough to go as
deep as there are objects. -/
theorem declared?_ends (survey : Survey) (object : Node) :
    ((∃ limit declared, ∀ more, limit ≤ more → declared? survey more object = some declared) ↔
      ¬Endless survey object) ∧
    (Relation.TransGen (Uses survey) object object →
      ∀ limit, declared? survey limit object = none) ∧
    ∀ program, survey = Survey.ofProgram program → object ∈ program.parts → object.kind = .object →
      ¬Endless survey object → ∃ declared, ∀ limit, program.count .object < limit →
        declared? survey limit object = some declared := by
  refine ⟨?_, ?_, ?_⟩
  · rw [← ends_iff_not_endless]
    constructor
    · rintro ⟨limit, declared, isRead⟩
      exact ⟨limit, declared, isRead limit (Nat.le_refl limit)⟩
    · rintro ⟨limit, declared, isRead⟩
      exact ⟨limit, declared, fun more enough => declared?_of_le enough isRead⟩
  · intro reaches limit
    by_contra isRead
    exact not_reaches_self_of_acc (acc_of_declared? (Option.isSome_iff_ne_none.mpr isRead)) reaches
  · rintro program rfl inProgram isObject ends
    have plain := not_selfContaining_of_acc (acc_usedBy_iff.mpr ends)
    obtain ⟨declared, isRead⟩ := Option.isSome_iff_exists.mp
      (declared?_isSome (Survey.isOf_ofProgram program) inProgram isObject plain)
    exact ⟨declared, fun limit enough => declared?_of_le enough isRead⟩

/-- A shape that is declared by a variable to be a field of itself. -/
theorem declared?_ends_loop :
    let source := "const loop = \x7b next: PropTypes.shape(loop) \x7d;\n"
    ∃ program object, Module.read? .javaScript source.toList = some program ∧
      (Survey.ofProgram program).binding? "loop" = some object ∧
      Relation.TransGen (Uses (Survey.ofProgram program)) object object ∧
      ∀ limit, declared? (Survey.ofProgram program) limit object = none := by
  intro source
  have evaluated : (Module.read? .javaScript source.toList).any fun program =>
      ((Survey.ofProgram program).binding? "loop").any fun object =>
        object.childNodes.any fun member => member.kind == .pair &&
          (pair? member).any fun entry =>
            fieldsObject? (Survey.ofProgram program) (splitRequired entry.2).1 == some object := by
    decide +kernel
  obtain ⟨program, read, evaluated⟩ := (Option.any_eq_true ..).mp evaluated
  obtain ⟨object, bound, evaluated⟩ := (Option.any_eq_true ..).mp evaluated
  obtain ⟨member, isMember, evaluated⟩ := List.any_eq_true.mp evaluated
  obtain ⟨isPair, evaluated⟩ := Bool.and_eq_true_iff.mp evaluated
  obtain ⟨⟨name, value⟩, hasPair, hasFields⟩ := (Option.any_eq_true ..).mp evaluated
  have reaches : Relation.TransGen (Uses (Survey.ofProgram program)) object object :=
    .single ⟨member, isMember, name, value, beq_iff_eq.mp isPair, hasPair, beq_iff_eq.mp hasFields⟩
  exact ⟨program, object, read, bound, reaches, (declared?_ends _ object).2.1 reaches⟩

end SnapshotGen.Extraction
