import SnapshotGen.Proofs.Catalog
import SnapshotGen.Proofs.Extraction.Uses
import SnapshotGen.Proofs.Script.Whole
import SnapshotGen.Proofs.Synthesis.Plain
import SnapshotGen.TestModel

/-!
Two views of `.isRequired`. The extractor finds it in the tree of a type expression; the catalog
drops it from the end of the text. They agree where nothing but one dot stands between, and no
parentheses stand around.
-/

namespace SnapshotGen

namespace Script.Node

theorem length_unparenthesized : (node : Node) → node.Faithful →
    node.unparenthesized = node ∨ node.unparenthesized.text.length < node.text.length
  | mk kind text children, faithful => by
      by_cases isParenthesized : kind = .parenthesized
      · subst isParenthesized
        obtain ⟨inner, rfl, shorter⟩ := faithful.covers
        have innerFaithful : inner.Faithful :=
          faithful.of_mem_parts (mem_parts_of_mem_childNodes (.head _))
        rw [unparenthesized, unparenthesized.inside]
        split
        · right
          rcases length_unparenthesized inner innerFaithful with same | further
          · rw [same]
            exact shorter
          · exact Nat.lt_trans further shorter
        · exact .inl rfl
      · exact .inl (unparenthesized_of_kind_ne isParenthesized)

end Script.Node

namespace Extraction

open Script Script.Node

def memberValues (program : Node) : List (String × Node) :=
  program.parts.filterMap pair?

/-- The text of what stands in front of the mark, as the tree tells it. -/
def unmarkedText (value : Node) : String :=
  if (splitRequired value).2 then (splitRequired value).1.text else value.text

/-- Dropping the mark from the text of a value leaves what the tree tells. -/
def ViewsAgree (value : Node) : Prop :=
  Fixture.stripRequired value.text = unmarkedText value

variable {value : Node}

/-- A value that the tree marks ends with the mark, and something stands in front of the mark. -/
theorem text_of_required (faithful : value.Faithful) (required : (splitRequired value).2 = true) :
    value.unparenthesized.kind = .member ∧ ∃ between, between ≠ "" ∧
      value.unparenthesized.text = (splitRequired value).1.text ++ between ++ requiredMember := by
  have isFaithful := faithful.of_mem_parts (unparenthesized_mem_parts value)
  unfold splitRequired at required ⊢
  generalize value.unparenthesized = marked at isFaithful required ⊢
  obtain ⟨kind, text, children⟩ := marked
  dsimp only at required ⊢
  split at required
  · rename_i isMarked
    rw [if_pos isMarked]
    simp only [Bool.and_eq_true, decide_eq_true_eq] at isMarked
    obtain ⟨isMember, named⟩ := isMarked
    obtain rfl : kind = .member := isMember
    obtain ⟨object, property, between, rfl, rfl, notEmpty⟩ := isFaithful.covers
    have isRequired : property.text = requiredMember := by simpa [child?, children] using named
    refine ⟨rfl, between, notEmpty, ?_⟩
    rw [← isRequired]
    rfl
  · contradiction

theorem viewsAgree_of_required_iff (faithful : value.Faithful)
    (required : (splitRequired value).2 = true) {between : String} (notEmpty : between ≠ "")
    (text : value.unparenthesized.text =
      (splitRequired value).1.text ++ between ++ requiredMember) :
    ViewsAgree value ↔ value.kind ≠ .parenthesized ∧ between = "." := by
  obtain ⟨isMember, _⟩ := text_of_required faithful required
  have length := congrArg String.length text
  rw [String.length_append, String.length_append] at length
  have someBetween : 0 < between.length := by
    rw [Nat.pos_iff_ne_zero, Ne, ← String.length_toList, List.length_eq_zero_iff]
    intro nothing
    exact notEmpty (String.toList_inj.mp nothing)
  have markLength : Fixture.requiredMark.length = requiredMember.length + 1 := by decide
  have notLonger : value.unparenthesized.text.length ≤ value.text.length := by
    rcases length_unparenthesized value faithful with same | shorter
    · exact Nat.le_of_eq (congrArg (·.text.length) same)
    · exact Nat.le_of_lt shorter
  -- The value is longer than what the tree leaves of it, so the text has to lose its mark.
  rw [ViewsAgree, unmarkedText, if_pos required,
    Fixture.stripRequired_eq_iff_of_length_lt (by omega)]
  constructor
  · intro whole
    have wholeLength := congrArg String.length whole
    rw [String.length_append] at wholeLength
    have unchanged : value.unparenthesized = value := by
      rcases length_unparenthesized value faithful with same | shorter
      · exact same
      · omega
    rw [unchanged] at isMember text
    refine ⟨by simp [isMember], ?_⟩
    have marks : between ++ requiredMember = "." ++ requiredMember := by
      rw [← String.append_right_inj (splitRequired value).1.text, ← String.append_assoc, ← text,
        whole]
      rfl
    exact (String.append_left_inj requiredMember).mp marks
  · rintro ⟨notParenthesized, rfl⟩
    rw [unparenthesized_of_kind_ne notParenthesized] at text
    rw [text, String.append_assoc]
    rfl

theorem typeName_of_lookup? {catalog : Catalog} {raw : String} {fixture : Fixture}
    (found : catalog.lookup? raw = some fixture) :
    fixture.typeName = Fixture.stripRequired raw := by
  simpa using List.find?_some found

/-- One value and one import come of two texts of a type expression. -/
def SameStandIn (catalog : Catalog) (raw other : String) : Prop :=
  catalog.importLine? (some raw) = catalog.importLine? (some other) ∧
    ∀ (name : String) (kind : Option PropKind),
      FakeValue.ofPlain catalog name kind (some raw) =
        FakeValue.ofPlain catalog name kind (some other)

theorem sameStandIn_of_stripRequired_eq (catalog : Catalog) {raw other : String}
    (same : Fixture.stripRequired raw = Fixture.stripRequired other) :
    SameStandIn catalog raw other := by
  have sameLookup : catalog.lookup? raw = catalog.lookup? other := by
    rw [Catalog.lookup?, Catalog.lookup?, same]
  constructor
  · rw [Catalog.importLine?, Catalog.importLine?, Option.bind_some, Option.bind_some, sameLookup]
  · exact FakeValue.ofPlain_of_stripRequired_eq same catalog

/-- In what the tree marks as required, the fixture of the type is found just if the views agree. -/
theorem lookup?_of_required_iff (required : (splitRequired value).2 = true) {catalog : Catalog}
    {fixture : Fixture} (named : fixture.typeName = (splitRequired value).1.text)
    (found : catalog.lookup? (splitRequired value).1.text = some fixture) :
    catalog.lookup? value.text = some fixture ↔ ViewsAgree value := by
  rw [ViewsAgree, unmarkedText, if_pos required]
  constructor
  · intro foundToo
    rw [← typeName_of_lookup? foundToo, named]
  · intro agree
    rw [← found, Catalog.lookup?, Catalog.lookup?, agree, ← typeName_of_lookup? found, named]

/-- In every script: an unmarked value is left alone unless its text ends in the mark; of a marked
value the text names the same type as the tree just if the value has no parentheses and a dot alone
stands in front of the mark, and just then the fixture of that type is found. -/
theorem viewsAgree_iff {dialect : Dialect} {source : String} {program value : Node} {name : String}
    (read : Module.read? dialect source.toList = some program)
    (declares : (name, value) ∈ memberValues program) :
    ((splitRequired value).2 = false →
      (ViewsAgree value ↔ ¬Fixture.requiredMark.toList <:+ value.text.toList)) ∧
    ((splitRequired value).2 = true →
      (∃ between, between ≠ "" ∧
        value.unparenthesized.text = (splitRequired value).1.text ++ between ++ requiredMember ∧
        (ViewsAgree value ↔ value.kind ≠ .parenthesized ∧ between = ".")) ∧
      ∀ (catalog : Catalog) (fixture : Fixture),
        fixture.typeName = (splitRequired value).1.text →
        catalog.lookup? (splitRequired value).1.text = some fixture →
        (catalog.lookup? value.text = some fixture ↔ ViewsAgree value) ∧
        (ViewsAgree value → SameStandIn catalog value.text (splitRequired value).1.text)) := by
  obtain ⟨member, inProgram, isPair⟩ := List.mem_filterMap.mp declares
  have faithful : value.Faithful := (Module.faithful_of_read? read).of_mem_parts
    (mem_parts_trans (mem_parts_of_pair? isPair) program inProgram)
  constructor
  · intro optional
    rw [ViewsAgree, unmarkedText, if_neg (by simp [optional])]
    exact Fixture.stripRequired_eq_self_iff
  · intro required
    obtain ⟨_, between, notEmpty, text⟩ := text_of_required faithful required
    refine ⟨⟨between, notEmpty, text, ?_⟩, ?_⟩
    · exact viewsAgree_of_required_iff faithful required notEmpty text
    · intro catalog fixture named found
      refine ⟨lookup?_of_required_iff required named found, ?_⟩
      intro agree
      apply sameStandIn_of_stripRequired_eq
      rw [ViewsAgree, unmarkedText, if_pos required] at agree
      rw [agree, ← typeName_of_lookup? found, named]

def testImports (source : String) : Option (List String) :=
  (ofSource .javaScript source).toOption.map fun extract =>
    (TestModel.ofComponent .builtin "Card.js" "Card.js" extract.component).fixtureImports

/-- A script with one prop of a type in the catalog; the mark of the type stands behind a text. -/
def ownerScript (between : String) : String := Text.ofLines [
  "const Card = () => <b />;",
  "Card.propTypes = \x7b owner: RomanPropTypes.Order" ++ between ++ "isRequired \x7d;"]

theorem exists_owner : ∃ program value,
    Module.read? .javaScript (ownerScript "\n    .").toList = some program ∧
      ("owner", value) ∈ memberValues program ∧ (splitRequired value).2 = true ∧
      (splitRequired value).1.text = "RomanPropTypes.Order" ∧
      value.text = "RomanPropTypes.Order\n    .isRequired" := by
  have evaluated : ((Module.read? .javaScript (ownerScript "\n    .").toList).bind fun program =>
      ((memberValues program).find? (·.1 == "owner")).map fun entry =>
        (entry.1, (splitRequired entry.2).2, (splitRequired entry.2).1.text, entry.2.text)) =
      some ("owner", true, "RomanPropTypes.Order", "RomanPropTypes.Order\n    .isRequired") := by
    decide +kernel
  obtain ⟨program, read, values⟩ := Option.bind_eq_some_iff.mp evaluated
  obtain ⟨⟨name, value⟩, found, same⟩ := Option.map_eq_some_iff.mp values
  simp only [Prod.mk.injEq] at same
  obtain ⟨rfl, required, inner, text⟩ := same
  exact ⟨program, value, read, List.mem_of_find?_eq_some found, required, inner, text⟩

/-- The views of a value disagree where a line is broken in front of the mark. -/
theorem viewsAgree_iff_owner : ∃ program value,
    Module.read? .javaScript (ownerScript "\n    .").toList = some program ∧
      ("owner", value) ∈ memberValues program ∧ (splitRequired value).2 = true ∧
      ¬ViewsAgree value := by
  obtain ⟨program, value, read, declares, required, inner, text⟩ := exists_owner
  refine ⟨program, value, read, declares, required, ?_⟩
  have found : Catalog.builtin.lookup? (splitRequired value).1.text =
      some ⟨"RomanPropTypes.Order", "order", "roman-shared/src/order/testData/order.json"⟩ := by
    rw [inner]
    decide
  have same := (((viewsAgree_iff read declares).2 required).2 .builtin _ inner.symm found).1
  rw [← same, text]
  decide

/-- The import of the fixture is lost there. -/
theorem testImports_of_broken_line :
    (∃ program value, Module.read? .javaScript (ownerScript "\n    .").toList = some program ∧
      ("owner", value) ∈ memberValues program ∧ (splitRequired value).2 = true ∧
      Fixture.stripRequired value.text ≠ (splitRequired value).1.text) ∧
    testImports (ownerScript "\n    .") = some [] ∧
    testImports (ownerScript ".") =
      some ["import order from 'roman-shared/src/order/testData/order.json'"] := by
  refine ⟨?_, by decide +kernel, by decide +kernel⟩
  obtain ⟨program, value, read, declares, required, inner, text⟩ := exists_owner
  refine ⟨program, value, read, declares, required, ?_⟩
  rw [inner, text]
  decide

end Extraction

end SnapshotGen
