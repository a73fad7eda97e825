import Mathlib.Logic.Relation
import Mathlib.Order.WellFounded
import SnapshotGen.Extraction.Survey
import SnapshotGen.Proofs.Script.Equality
import SnapshotGen.Proofs.Script.Parts
import SnapshotGen.Script.Module

/-!
The object that an expression stands for: what it leads to through parentheses and variables. The
variables may lead in a circle, but only so many of them are followed.
-/

namespace SnapshotGen

namespace Script.Node

def Encloses (node inner : Node) : Prop :=
  node.kind = .parenthesized ∧ node.childNodes.find? isPart = some inner

variable {node inner : Node}

theorem inside_eq (whole : Node) (children : List (Role × Node)) :
    unparenthesized.inside children whole =
      (((children.map (·.2)).find? isPart).map unparenthesized).getD whole := by
  induction children with
  | nil => rfl
  | cons child children induction =>
      obtain ⟨role, child⟩ := child
      rw [unparenthesized.inside, List.map_cons, List.find?_cons]
      cases child.isPart with
      | true => rfl
      | false => exact induction

theorem unparenthesized_of_encloses (encloses : Encloses node inner) :
    node.unparenthesized = inner.unparenthesized := by
  obtain ⟨kind, text, children⟩ := node
  obtain ⟨isParenthesized, isFirst⟩ := encloses
  cases isParenthesized
  have isFirst : (children.map (·.2)).find? isPart = some inner := isFirst
  rw [unparenthesized, inside_eq, isFirst, Option.map_some, Option.getD_some]

theorem unparenthesized_of_not_encloses (free : ∀ inner, ¬Encloses node inner) :
    node.unparenthesized = node := by
  by_cases isParenthesized : node.kind = .parenthesized
  · have noFirst : node.childNodes.find? isPart = none :=
      Option.eq_none_iff_forall_ne_some.mpr fun inner isFirst => free inner ⟨isParenthesized, isFirst⟩
    obtain ⟨kind, text, children⟩ := node
    cases isParenthesized
    have noFirst : (children.map (·.2)).find? isPart = none := noFirst
    rw [unparenthesized, inside_eq, noFirst, Option.map_none, Option.getD_none]
  · exact unparenthesized_of_kind_ne isParenthesized

theorem sizeOf_lt_of_encloses (encloses : Encloses node inner) : sizeOf inner < sizeOf node := by
  obtain ⟨kind, text, children⟩ := node
  obtain ⟨⟨role, child⟩, isChild, rfl⟩ := List.mem_map.mp (List.mem_of_find?_eq_some encloses.2)
  have smaller : sizeOf (role, child) < sizeOf children := List.sizeOf_lt_of_mem isChild
  simp only [Prod.mk.sizeOf_spec, mk.sizeOf_spec] at smaller ⊢
  omega

end Script.Node

namespace Extraction

open Script Script.Node

def Binds (survey : Survey) (name : String) (value : Node) : Prop :=
  ∃ before after, survey.bindings = before ++ (name, value) :: after ∧
    ∀ later ∈ after, later.1 ≠ name

/-- An expression that is looked at, with the number of bindings that may still be followed, and the
one that is looked at next. -/
inductive Moves (survey : Survey) : Nat × Node → Nat × Node → Prop
  | encloses {node inner : Node} (limit : Nat) (encloses : Encloses node inner) :
      Moves survey (limit, node) (limit, inner)
  | binds {node value : Node} (limit : Nat) (isName : node.kind = .identifier)
      (binds : Binds survey node.text value) :
      Moves survey (limit + 1, node) (limit, value)

/-- An expression leads to another one through parentheses and just so many bindings. -/
def Leads (survey : Survey) (node : Node) (count : Nat) (last : Node) : Prop :=
  Relation.ReflTransGen (Moves survey) (count, node) (0, last)

def Cyclic (survey : Survey) (node : Node) : Prop :=
  ∃ count inner round, Leads survey node count inner ∧
    Relation.TransGen (Moves survey) (round, inner) (0, inner)

variable {survey : Survey} {node object last : Node} {limit more count : Nat}
  {state next other : Nat × Node}

theorem binding?_eq_some_iff {name : String} {value : Node} :
    survey.binding? name = some value ↔ Binds survey name value := by
  rw [Survey.binding?, Option.map_eq_some_iff]
  constructor
  · rintro ⟨⟨same, _⟩, found, rfl⟩
    obtain ⟨isName, after, before, split, later⟩ := List.find?_eq_some_iff_append.mp found
    obtain rfl : same = name := by simpa using isName
    refine ⟨before.reverse, after.reverse, ?_, fun pair member same => ?_⟩
    · rw [← List.reverse_reverse survey.bindings, split]
      simp
    · simpa [same] using later pair (List.mem_reverse.mp member)
  · rintro ⟨before, after, split, later⟩
    refine ⟨(name, value), List.find?_eq_some_iff_append.mpr ?_, rfl⟩
    refine ⟨by simp, after.reverse, before.reverse, by rw [split]; simp, fun pair member => ?_⟩
    simpa using later pair (List.mem_reverse.mp member)

/-- What is looked at next is what stands in parentheses, which is smaller, or one binding less may
be followed. -/
theorem Moves.descends (moves : Moves survey state next) :
    next.1 < state.1 ∨ next.1 = state.1 ∧ sizeOf next.2 < sizeOf state.2 := by
  cases moves with
  | encloses limit encloses => exact .inr ⟨rfl, sizeOf_lt_of_encloses encloses⟩
  | binds limit _ _ => exact .inl (Nat.lt_succ_self limit)

theorem wellFounded_moves (survey : Survey) : WellFounded (flip (Moves survey)) := by
  refine Subrelation.wf (fun {next state} moves => ?_)
    (InvImage.wf (fun state : Nat × Node => (state.1, sizeOf state.2))
      (WellFounded.prod_lex Nat.lt_wfRel.wf Nat.lt_wfRel.wf))
  rcases Moves.descends moves with lower | ⟨same, smaller⟩
  · exact .left _ _ lower
  · exact Prod.lex_def.mpr (.inr ⟨same, smaller⟩)

theorem Moves.deterministic (moves : Moves survey state next) (alike : Moves survey state other) :
    next = other := by
  cases moves with
  | encloses limit encloses =>
      cases alike with
      | encloses _ same => rw [Option.some.inj (encloses.2.symm.trans same.2)]
      | binds _ isName _ => exact absurd (encloses.1.symm.trans isName) (by decide)
  | binds limit isName binds =>
      cases alike with
      | encloses _ encloses => exact absurd (encloses.1.symm.trans isName) (by decide)
      | binds _ _ same =>
          have sameValue := (binding?_eq_some_iff.mpr binds).symm.trans (binding?_eq_some_iff.mpr same)
          rw [Option.some.inj sameValue]

theorem not_moves_of_object (isObject : object.kind = .object) :
    ¬Moves survey (limit, object) next := by
  rintro (⟨_, encloses⟩ | ⟨_, isName, _⟩)
  · exact absurd (isObject.symm.trans encloses.1) (by decide)
  · exact absurd (isObject.symm.trans isName) (by decide)

theorem Moves.add (moves : Moves survey state next) (spare : Nat) :
    Moves survey (state.1 + spare, state.2) (next.1 + spare, next.2) := by
  cases moves with
  | encloses limit encloses => exact .encloses _ encloses
  | @binds node value limit isName binds =>
      have further : Moves survey (limit + spare + 1, node) (limit + spare, value) :=
        .binds (limit + spare) isName binds
      rwa [Nat.add_right_comm] at further

theorem add_of_moves (moves : Relation.ReflTransGen (Moves survey) state next) (spare : Nat) :
    Relation.ReflTransGen (Moves survey) (state.1 + spare, state.2) (next.1 + spare, next.2) :=
  moves.lift (fun state => (state.1 + spare, state.2)) fun _ _ step => step.add spare

theorem le_of_moves (moves : Relation.ReflTransGen (Moves survey) state next) :
    next.1 ≤ state.1 := by
  induction moves with
  | refl => exact Nat.le_refl _
  | tail _ step induction =>
      rcases step.descends with lower | ⟨same, _⟩
      · exact Nat.le_trans (Nat.le_of_lt lower) induction
      · exact same ▸ induction

theorem moves_unparenthesized (survey : Survey) (limit : Nat) (node : Node) :
    Relation.ReflTransGen (Moves survey) (limit, node) (limit, node.unparenthesized) := by
  by_cases isEnclosing : ∃ inner, Encloses node inner
  · obtain ⟨inner, encloses⟩ := isEnclosing
    rw [unparenthesized_of_encloses encloses]
    exact .head (.encloses limit encloses) (moves_unparenthesized survey limit inner)
  · rw [unparenthesized_of_not_encloses (not_exists.mp isEnclosing)]
termination_by sizeOf node
decreasing_by exact sizeOf_lt_of_encloses encloses

theorem objectWithin?_of_encloses {inner : Node} (encloses : Encloses node inner) :
    survey.objectWithin? limit node = survey.objectWithin? limit inner := by
  unfold Survey.objectWithin?
  rw [unparenthesized_of_encloses encloses]

theorem objectWithin?_of_object (isObject : object.kind = .object) :
    survey.objectWithin? limit object = some object := by
  have same : object.unparenthesized = object :=
    unparenthesized_of_kind_ne (by rw [isObject]; decide)
  unfold Survey.objectWithin?
  dsimp only
  rw [same, isObject]

theorem objectWithin?_of_binds {value : Node} (isName : node.kind = .identifier)
    (binds : Binds survey node.text value) :
    survey.objectWithin? (limit + 1) node = survey.objectWithin? limit value := by
  have same : node.unparenthesized = node := unparenthesized_of_kind_ne (by rw [isName]; decide)
  conv_lhs => unfold Survey.objectWithin?
  dsimp only
  rw [same, isName, binding?_eq_some_iff.mpr binds]
  rfl

theorem exists_leads_of_objectWithin? (found : survey.objectWithin? limit node = some object) :
    object.kind = .object ∧ ∃ count ≤ limit, Leads survey node count object := by
  induction limit generalizing node with
  | zero =>
      unfold Survey.objectWithin? at found
      dsimp only at found
      split at found
      · rename_i isObject
        cases found
        exact ⟨isObject, 0, Nat.le_refl 0, moves_unparenthesized survey 0 node⟩
      · contradiction
      · contradiction
  | succ limit induction =>
      unfold Survey.objectWithin? at found
      dsimp only at found
      split at found
      · rename_i isObject
        cases found
        exact ⟨isObject, 0, Nat.zero_le _, moves_unparenthesized survey 0 node⟩
      · rename_i isName same
        cases same
        obtain ⟨value, isBound, found⟩ := Option.bind_eq_some_iff.mp found
        obtain ⟨isObject, count, enough, leads⟩ := induction found
        refine ⟨isObject, count + 1, Nat.succ_le_succ enough, ?_⟩
        exact (moves_unparenthesized survey (count + 1) node).trans
          (.head (.binds count isName (binding?_eq_some_iff.mp isBound)) leads)
      · contradiction

theorem objectWithin?_of_leads (isObject : object.kind = .object)
    (leads : Leads survey node count object) (enough : count ≤ limit) :
    survey.objectWithin? limit node = some object := by
  suffices reached : ∀ state, Relation.ReflTransGen (Moves survey) state (0, object) →
      ∀ limit, state.1 ≤ limit → survey.objectWithin? limit state.2 = some object from
    reached (count, node) leads limit enough
  intro state moves
  -- From the object backwards, one step at a time.
  induction moves using Relation.ReflTransGen.head_induction_on with
  | refl => exact fun limit _ => objectWithin?_of_object isObject
  | head step _ induction =>
      intro limit enough
      cases step with
      | encloses _ encloses =>
          rw [objectWithin?_of_encloses encloses]
          exact induction limit enough
      | binds _ isName binds =>
          obtain ⟨limit, rfl⟩ := Nat.exists_eq_add_one_of_ne_zero (Nat.ne_zero_of_lt enough)
          rw [objectWithin?_of_binds isName binds]
          exact induction limit (Nat.le_of_succ_le_succ enough)

theorem objectWithin?_eq_some_iff : survey.objectWithin? limit node = some object ↔
    object.kind = .object ∧ ∃ count ≤ limit, Leads survey node count object := by
  constructor
  · exact exists_leads_of_objectWithin?
  · rintro ⟨isObject, count, enough, leads⟩
    exact objectWithin?_of_leads isObject leads enough

theorem objectWithin?_of_le (enough : limit ≤ more)
    (found : survey.objectWithin? limit node = some object) :
    survey.objectWithin? more node = some object := by
  obtain ⟨isObject, count, within, leads⟩ := objectWithin?_eq_some_iff.mp found
  exact objectWithin?_eq_some_iff.mpr ⟨isObject, count, Nat.le_trans within enough, leads⟩

/-- Nothing is behind an object, so no chain that comes to it is longer. -/
theorem le_of_leads_object (isObject : object.kind = .object)
    (leads : Leads survey node count object) (further : Leads survey node more last) :
    more ≤ count := by
  by_contra longer
  obtain ⟨spare, rfl⟩ := Nat.exists_eq_add_of_lt (Nat.lt_of_not_le longer)
  have spared : Relation.ReflTransGen (Moves survey) (count + spare + 1, node)
      (0 + (spare + 1), object) := add_of_moves leads (spare + 1)
  have unique : Relator.RightUnique (Moves survey) := fun _ _ _ => Moves.deterministic
  rcases Relation.ReflTransGen.total_of_right_unique unique spared further with onwards | back
  · rcases onwards.cases_head with same | ⟨_, step, _⟩
    · exact absurd (congrArg Prod.fst same) (by simp)
    · exact not_moves_of_object isObject step
  · exact absurd (le_of_moves back) (by simp)

theorem objectWithin?_of_far (leads : Leads survey node count last) (far : limit < count) :
    survey.objectWithin? limit node = none := by
  refine Option.eq_none_iff_forall_ne_some.mpr fun object found => ?_
  obtain ⟨isObject, within, enough, reaches⟩ := objectWithin?_eq_some_iff.mp found
  exact absurd (Nat.le_trans (le_of_leads_object isObject reaches leads) enough) (Nat.not_le.mpr far)

theorem Leads.trans {inner : Node} (leads : Leads survey node count inner)
    (further : Leads survey inner more last) : Leads survey node (count + more) last := by
  have spared : Relation.ReflTransGen (Moves survey) (count + more, node) (0 + more, inner) :=
    add_of_moves leads more
  rw [Nat.zero_add] at spared
  exact spared.trans further

/-- A round comes through a binding, since parentheses end. -/
theorem exists_round_of_cyclic (cyclic : Cyclic survey node) :
    ∃ count inner round, 0 < round ∧ Leads survey node count inner ∧
      Leads survey inner round inner := by
  obtain ⟨count, inner, round, leads, around⟩ := cyclic
  refine ⟨count, inner, round, Nat.pos_of_ne_zero ?_, leads, around.to_reflTransGen⟩
  rintro rfl
  have back : Relation.TransGen (flip (Moves survey)) (0, inner) (0, inner) :=
    Relation.transGen_swap.mpr around
  exact (wellFounded_moves survey).transGen.irrefl.irrefl _ back

theorem leads_of_rounds {inner : Node} {round : Nat} (leads : Leads survey node count inner)
    (around : Leads survey inner round inner) (times : Nat) :
    Leads survey node (count + round * times) inner := by
  induction times with
  | zero => exact leads
  | succ times induction =>
      rw [Nat.mul_succ, ← Nat.add_assoc]
      exact induction.trans around

theorem objectWithin?_of_cyclic (cyclic : Cyclic survey node) :
    survey.objectWithin? limit node = none := by
  obtain ⟨count, inner, round, nonzero, leads, around⟩ := exists_round_of_cyclic cyclic
  refine objectWithin?_of_far (leads_of_rounds leads around (limit + 1)) ?_
  exact Nat.lt_add_left count (Nat.le_mul_of_pos_left (limit + 1) nonzero)

/-- The search for an object ends, whatever is bound to what. It finds an object just where the
expression leads to it through no more than eight bindings; it finds none where the bindings lead in
a circle or further than that, and to look further changes nothing that is found. -/
theorem object?_exactly (survey : Survey) (node : Node) :
    (∀ limit, ¬∃ path : Nat → Nat × Node, path 0 = (limit, node) ∧
      ∀ n, Moves survey (path n) (path (n + 1))) ∧
    (∀ object, survey.object? node = some object ↔
      object.kind = .object ∧ ∃ count ≤ 8, Leads survey node count object) ∧
    (Cyclic survey node → survey.object? node = none) ∧
    (∀ count last, Leads survey node count last → 8 < count → survey.object? node = none) ∧
    ∀ limit more object, limit ≤ more → survey.objectWithin? limit node = some object →
      survey.objectWithin? more node = some object := by
  refine ⟨?_, fun object => objectWithin?_eq_some_iff, objectWithin?_of_cyclic,
    fun _ _ => objectWithin?_of_far, fun _ _ _ => objectWithin?_of_le⟩
  rintro limit ⟨path, -, moves⟩
  have descends := wellFounded_iff_isEmpty_descending_chain.mp (wellFounded_moves survey)
  exact descends.false ⟨path, moves⟩

/-- Variables each of which is bound to the one before it, and one that is bound to itself. -/
def ladderSource : String := Text.ofLines [
  "const a = \x7b\x7d, b = a, c = (b), d = c, e = d, f = e, g = f, h = ((g)), i = h,",
  "  loop = (loop);"]

/-- The eighth variable stands for the object that the first one is bound to, the ninth one and the
loop for none. -/
theorem object?_exactly_ladder :
    ∃ program, Module.read? .javaScript ladderSource.toList = some program ∧
      let survey := Survey.ofProgram program
      let eighth : Node := .mk .identifier "h" []
      let ninth : Node := .mk .identifier "i" []
      let loop : Node := .mk .identifier "loop" []
      (∃ object, survey.object? eighth = some object ∧ object.kind = .object ∧
        (∃ count ≤ 8, Leads survey eighth count object) ∧
        survey.objectWithin? 20 eighth = some object) ∧
      (∃ object, Leads survey ninth 9 object) ∧ survey.object? ninth = none ∧
      Cyclic survey loop ∧ survey.object? loop = none := by
  have evaluated : (Module.read? .javaScript ladderSource.toList).any fun program =>
      let survey := Survey.ofProgram program
      let loop : Node := .mk .identifier "loop" []
      (survey.object? (.mk .identifier "h" [])).isSome &&
        ((survey.object? (.mk .identifier "i" [])).isNone &&
          (survey.objectWithin? 9 (.mk .identifier "i" [])).isSome) &&
        (survey.binding? "loop").any fun value =>
          value.kind == .parenthesized && value.childNodes.find? isPart == some loop := by
    decide +kernel
  obtain ⟨program, read, evaluated⟩ := (Option.any_eq_true ..).mp evaluated
  obtain ⟨evaluated, looped⟩ := Bool.and_eq_true_iff.mp evaluated
  obtain ⟨eighthFound, ninth⟩ := Bool.and_eq_true_iff.mp evaluated
  obtain ⟨ninthMissed, ninthWithin⟩ := Bool.and_eq_true_iff.mp ninth
  obtain ⟨value, bound, looped⟩ := (Option.any_eq_true ..).mp looped
  obtain ⟨isParenthesized, isFirst⟩ := Bool.and_eq_true_iff.mp looped
  obtain ⟨object, found⟩ := Option.isSome_iff_exists.mp eighthFound
  obtain ⟨farther, foundWithin⟩ := Option.isSome_iff_exists.mp ninthWithin
  refine ⟨program, read, ?_⟩
  intro survey eighth ninth loop
  have ofEighth := object?_exactly survey eighth
  have ofNinth := object?_exactly survey ninth
  have ofLoop := object?_exactly survey loop
  have ninthLeads : Leads survey ninth 9 farther := by
    obtain ⟨isObject, count, within, leads⟩ := objectWithin?_eq_some_iff.mp foundWithin
    have isFar : ¬count ≤ 8 := fun near =>
      absurd ((ofNinth.2.1 farther).mpr ⟨isObject, count, near, leads⟩)
        (by rw [Option.isNone_iff_eq_none.mp ninthMissed]; nofun)
    obtain rfl : count = 9 := by omega
    exact leads
  have cyclic : Cyclic survey loop := by
    refine ⟨0, loop, 1, .refl, ?_⟩
    exact .tail (.single (.binds 0 rfl (binding?_eq_some_iff.mp bound)))
      (.encloses 0 ⟨beq_iff_eq.mp isParenthesized, beq_iff_eq.mp isFirst⟩)
  obtain ⟨isObject, reached⟩ := (ofEighth.2.1 object).mp found
  refine ⟨⟨object, found, isObject, reached, ?_⟩, ⟨farther, ninthLeads⟩, ?_, cyclic, ?_⟩
  · exact ofEighth.2.2.2.2 8 20 object (by decide) found
  · exact ofNinth.2.2.2.1 9 farther ninthLeads (by decide)
  · exact ofLoop.2.2.1 cyclic

end Extraction

end SnapshotGen
