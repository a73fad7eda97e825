import Mathlib.Data.List.Perm.Subperm
import Mathlib.Logic.Relation
import SnapshotGen.Extraction.Extract
import SnapshotGen.Proofs.Extraction.Sources

/-!
Objects that use one another as the fields of shapes. A script has only so many objects, so all
declarations can be read unless an object is used inside itself.
-/

namespace SnapshotGen.Extraction

open Script Script.Node

/-- A member of one object declares a shape that has the other for its fields. -/
def Uses (survey : Survey) (object inner : Node) : Prop :=
  ∃ member ∈ object.childNodes, ∃ name value, member.kind = .pair ∧
    pair? member = some (name, value) ∧ fieldsObject? survey (splitRequired value).1 = some inner

/-- Some object that is reached from this one is used inside itself. -/
def SelfContaining (survey : Survey) (object : Node) : Prop :=
  ∃ inner, Relation.ReflTransGen (Uses survey) object inner ∧
    Relation.TransGen (Uses survey) inner inner

inductive Chain (survey : Survey) : Node → List Node → Prop
  | one (object : Node) : Chain survey object [object]
  | cons {object inner : Node} {nodes : List Node} :
      Uses survey object inner → Chain survey inner nodes → Chain survey object (object :: nodes)

variable {survey : Survey} {program object : Node} {nodes : List Node}

theorem Chain.reaches (chain : Chain survey object nodes) {node : Node} (member : node ∈ nodes) :
    Relation.ReflTransGen (Uses survey) object node := by
  induction chain with
  | one object =>
      rw [List.mem_singleton.mp member]
  | cons uses _ induction =>
      rcases List.mem_cons.mp member with rfl | inRest
      · exact .refl
      · exact .head uses (induction inRest)

/-- Without objects that contain themselves no chain comes back. -/
theorem Chain.nodup (chain : Chain survey object nodes)
    (plain : ¬SelfContaining survey object) : nodes.Nodup := by
  induction chain with
  | one object => simp
  | @cons object inner nodes uses chain induction =>
      refine List.nodup_cons.mpr ⟨?_, ?_⟩
      · intro member
        exact plain ⟨object, .refl, .head' uses (chain.reaches member)⟩
      · apply induction
        rintro ⟨found, reached, contains⟩
        exact plain ⟨found, .head uses reached, contains⟩

theorem exists_of_mapM_eq_none {α β : Type} {f : α → Option β} {items : List α}
    (failed : items.mapM f = none) : ∃ item ∈ items, f item = none := by
  induction items with
  | nil => simp at failed
  | cons item items induction =>
      cases first : f item with
      | none => exact ⟨item, .head _, first⟩
      | some result =>
          have restFailed : items.mapM f = none := by
            cases rest : items.mapM f with
            | none => rfl
            | some results => simp [List.mapM_cons, first, rest] at failed
          obtain ⟨other, member, otherFailed⟩ := induction restFailed
          exact ⟨other, .tail _ member, otherFailed⟩

theorem uses_of_memberDeclared?_eq_none {read? : Node → Option (List Declared)} {member : Node}
    (member_mem : member ∈ object.childNodes)
    (failed : memberDeclared? survey read? member = none) :
    ∃ inner, Uses survey object inner ∧ read? inner = none := by
  unfold memberDeclared? at failed
  split at failed
  · rename_i isPair
    split at failed
    · contradiction
    · rename_i name value hasPair
      split at failed
      · contradiction
      · rename_i inner hasFields
        cases isRead : read? inner with
        | none =>
            refine ⟨inner, ?_, isRead⟩
            exact ⟨member, member_mem, name, value, isPair, hasPair, hasFields⟩
        | some declared => simp [isRead] at failed
  · contradiction
  · contradiction
  · contradiction

/-- Where reading gives up, as many objects as it may read are used inside one another. -/
theorem exists_chain_of_declared?_eq_none {limit : Nat}
    (failed : declared? survey limit object = none) :
    ∃ nodes, Chain survey object nodes ∧ nodes.length = limit + 1 := by
  induction limit generalizing object with
  | zero => exact ⟨[object], .one object, rfl⟩
  | succ limit induction =>
      rw [declared?, Option.map_eq_none_iff] at failed
      obtain ⟨member, isMember, memberFailed⟩ := exists_of_mapM_eq_none failed
      obtain ⟨inner, uses, innerFailed⟩ := uses_of_memberDeclared?_eq_none isMember memberFailed
      obtain ⟨nodes, chain, long⟩ := induction innerFailed
      exact ⟨object :: nodes, .cons uses chain, by rw [List.length_cons, long]⟩

theorem splitRequired_mem_parts (value : Node) : (splitRequired value).1 ∈ value.parts := by
  unfold splitRequired
  dsimp only
  split
  · split
    · rename_i inner isObject
      exact mem_parts_trans (mem_parts_of_child? isObject) value (unparenthesized_mem_parts value)
    · exact unparenthesized_mem_parts value
  · exact unparenthesized_mem_parts value

theorem mem_parts_of_mem_givenArguments {node argument : Node}
    (member : argument ∈ node.givenArguments) : argument ∈ node.parts := by
  unfold givenArguments at member
  split at member
  · rename_i given isGiven
    split at member
    · have inGiven := mem_parts_of_mem_childNodes (List.mem_filter.mp member).1
      exact mem_parts_trans inGiven node (mem_parts_of_child? isGiven)
    · simp at member
  · simp at member

theorem mem_parts_of_pair? {member value : Node} {name : String}
    (found : pair? member = some (name, value)) : value ∈ member.parts := by
  simp only [pair?, Option.bind_eq_bind, Option.bind_eq_some_iff, pure, Option.some.injEq,
    Prod.mk.injEq] at found
  obtain ⟨_, _, _, _, _, isValue, _, rfl⟩ := found
  exact mem_parts_of_child? isValue

theorem Uses.inProgram {inner : Node} (isOf : survey.IsOf program)
    (inProgram : object ∈ program.parts) (uses : Uses survey object inner) :
    inner ∈ program.parts ∧ inner.kind = .object := by
  obtain ⟨member, isMember, name, value, _, hasPair, hasFields⟩ := uses
  have inObject := mem_parts_trans (mem_parts_of_pair? hasPair) object
    (mem_parts_of_mem_childNodes isMember)
  unfold fieldsObject? at hasFields
  split at hasFields
  · obtain ⟨argument, isFirst, found⟩ := Option.bind_eq_some_iff.mp hasFields
    have inExpression := mem_parts_of_mem_givenArguments (List.mem_of_head? isFirst)
    have inValue := mem_parts_trans inExpression value (splitRequired_mem_parts value)
    exact isOf.objectWithin? (mem_parts_trans (mem_parts_trans inValue object inObject) program
      inProgram) found
  · contradiction

theorem Chain.inProgram (isOf : survey.IsOf program) (chain : Chain survey object nodes)
    (inProgram : object ∈ program.parts) (isObject : object.kind = .object) :
    ∀ node ∈ nodes, node ∈ program.parts.filter (·.kind = .object) := by
  induction chain with
  | one object =>
      intro node member
      rw [List.mem_singleton.mp member, List.mem_filter]
      exact ⟨inProgram, by simpa using isObject⟩
  | cons uses _ induction =>
      intro node member
      rcases List.mem_cons.mp member with rfl | inRest
      · rw [List.mem_filter]
        exact ⟨inProgram, by simpa using isObject⟩
      · obtain ⟨innerInProgram, innerIsObject⟩ := uses.inProgram isOf inProgram
        exact induction innerInProgram innerIsObject node inRest

theorem declared?_isSome (isOf : survey.IsOf program) (inProgram : object ∈ program.parts)
    (isObject : object.kind = .object) (plain : ¬SelfContaining survey object) :
    (declared? survey (program.count .object + 1) object).isSome := by
  by_contra failed
  rw [Option.not_isSome_iff_eq_none] at failed
  obtain ⟨nodes, chain, long⟩ := exists_chain_of_declared?_eq_none failed
  have short : nodes.length ≤ (program.parts.filter (·.kind = .object)).length :=
    (List.subperm_of_subset (chain.nodup plain)
      (chain.inProgram isOf inProgram isObject)).length_le
  rw [← List.countP_eq_length_filter, ← count_eq_countP] at short
  omega

def typesObject? (program : Node) : Option Node := do
  let survey := Survey.ofProgram program
  let candidate ← survey.resolve?
  (survey.staticValue? candidate "propTypes").bind survey.object?

theorem declared?_typesObject? (found : typesObject? program = some object)
    (plain : ¬SelfContaining (Survey.ofProgram program) object) :
    (declared? (Survey.ofProgram program) (program.count .object + 1) object).isSome := by
  have isOf := Survey.isOf_ofProgram program
  obtain ⟨candidate, resolved, isStatic⟩ := Option.bind_eq_some_iff.mp found
  obtain ⟨inProgram, isLiteral⟩ := isOf.staticObject? (isOf.resolve? resolved) isStatic
  exact declared?_isSome isOf inProgram isLiteral plain

end SnapshotGen.Extraction
