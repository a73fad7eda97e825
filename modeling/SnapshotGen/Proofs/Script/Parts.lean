import SnapshotGen.Script.Node

/-!
The nodes that a tree consists of. What is looked up in a node is one of them.
-/

namespace SnapshotGen.Script.Node

mutual

/-- A node and all nodes below it. -/
def parts : Node → List Node
  | mk kind text children => mk kind text children :: childParts children

def childParts : List (Role × Node) → List Node
  | [] => []
  | (_, child) :: more => child.parts ++ childParts more

end

theorem mem_parts_self (node : Node) : node ∈ node.parts := by
  cases node
  rw [parts]
  exact .head _

theorem mem_childParts_iff {inner : Node} {children : List (Role × Node)} :
    inner ∈ childParts children ↔ ∃ child ∈ children, inner ∈ child.2.parts := by
  induction children with
  | nil => simp [childParts]
  | cons first more induction =>
      obtain ⟨role, child⟩ := first
      rw [childParts, List.mem_append, induction]
      simp

theorem mem_parts_of_mem_childParts {inner : Node} {kind : Kind} {text : String}
    {children : List (Role × Node)} (member : inner ∈ childParts children) :
    inner ∈ (mk kind text children).parts := by
  rw [parts]
  exact .tail _ member

theorem mem_parts_iff {inner node : Node} :
    inner ∈ node.parts ↔ inner = node ∨ ∃ child ∈ node.childNodes, inner ∈ child.parts := by
  cases node with
  | mk kind text children =>
      rw [parts, List.mem_cons, mem_childParts_iff]
      apply or_congr Iff.rfl
      constructor
      · rintro ⟨child, member, inChild⟩
        exact ⟨child.2, List.mem_map_of_mem member, inChild⟩
      · rintro ⟨_, isChild, inChild⟩
        obtain ⟨child, member, rfl⟩ := List.mem_map.mp isChild
        exact ⟨child, member, inChild⟩

theorem mem_parts_of_mem_childNodes {child node : Node} (member : child ∈ node.childNodes) :
    child ∈ node.parts :=
  mem_parts_iff.mpr (.inr ⟨child, member, mem_parts_self child⟩)

theorem mem_childNodes_of_child? {node child : Node} {role : Role}
    (found : node.child? role = some child) : child ∈ node.childNodes := by
  unfold child? at found
  obtain ⟨pair, isFound, rfl⟩ := Option.map_eq_some_iff.mp found
  exact List.mem_map_of_mem (List.mem_of_find?_eq_some isFound)

theorem mem_parts_of_child? {node child : Node} {role : Role}
    (found : node.child? role = some child) : child ∈ node.parts :=
  mem_parts_of_mem_childNodes (mem_childNodes_of_child? found)

mutual

theorem mem_parts_trans {inner middle : Node} (inMiddle : inner ∈ middle.parts) :
    (outer : Node) → middle ∈ outer.parts → inner ∈ outer.parts
  | mk kind text children, inOuter => by
      rw [parts, List.mem_cons] at inOuter
      rcases inOuter with rfl | inChildren
      · exact inMiddle
      · rw [parts]
        exact .tail _ (mem_childParts_trans inMiddle children inChildren)

theorem mem_childParts_trans {inner middle : Node} (inMiddle : inner ∈ middle.parts) :
    (children : List (Role × Node)) → middle ∈ childParts children → inner ∈ childParts children
  | [], inChildren => by simp [childParts] at inChildren
  | (_, child) :: more, inChildren => by
      rw [childParts, List.mem_append] at inChildren ⊢
      rcases inChildren with inChild | inMore
      · exact .inl (mem_parts_trans inMiddle child inChild)
      · exact .inr (mem_childParts_trans inMiddle more inMore)

end

mutual

theorem count_eq_countP (kind : Kind) : (node : Node) →
    node.count kind = node.parts.countP (·.kind = kind)
  | mk own text children => by
      rw [count, parts, List.countP_cons, countChildren_eq_countP kind children, Nat.add_comm]
      by_cases same : own = kind <;> simp [Node.kind, same]

theorem countChildren_eq_countP (kind : Kind) : (children : List (Role × Node)) →
    countChildren kind children = (childParts children).countP (·.kind = kind)
  | [] => rfl
  | (_, child) :: more => by
      rw [countChildren, childParts, List.countP_append, count_eq_countP kind child,
        countChildren_eq_countP kind more]

end

theorem unparenthesized_of_kind_ne {node : Node} (plain : node.kind ≠ .parenthesized) :
    node.unparenthesized = node := by
  obtain ⟨own, text, children⟩ := node
  rw [unparenthesized]
  intro _ _ same
  exact plain (congrArg kind same)

mutual

theorem unparenthesized_mem_parts : (node : Node) → node.unparenthesized ∈ node.parts
  | mk kind text children => by
      by_cases isParenthesized : kind = .parenthesized
      · subst isParenthesized
        rw [unparenthesized, parts]
        exact inside_mem_parts _ children
      · rw [unparenthesized]
        · exact mem_parts_self _
        · simpa using isParenthesized

theorem inside_mem_parts (whole : Node) : (children : List (Role × Node)) →
    unparenthesized.inside children whole ∈ whole :: childParts children
  | [] => by simp [unparenthesized.inside]
  | (_, child) :: more => by
      rw [unparenthesized.inside, childParts]
      split
      · exact .tail _ (List.mem_append_left _ (unparenthesized_mem_parts child))
      · rcases List.mem_cons.mp (inside_mem_parts whole more) with same | inMore
        · rw [same]
          exact .head _
        · exact .tail _ (List.mem_append_right _ inMore)

end

end SnapshotGen.Script.Node
