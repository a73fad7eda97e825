import SnapshotGen.Extraction.Extract
import SnapshotGen.Proofs.Extraction.Assignments
import SnapshotGen.Proofs.Extraction.Forms

/-!
Static members of classes. They count for a class that is taken for a component where it is defined;
for one that only an assignment makes a component they are lost.
-/

namespace SnapshotGen.Extraction

open Script Script.Node Survey

/-- A member of a class that declares a static property, with the value that it gives if any. A
field may have its name in quotes, a getter may not. -/
inductive IsStatic (property : String) : Node → Option Node → Prop
  | field {member key : Node} (isStatic : member.hasKeyword "static")
      (isField : member.kind = .field) (hasKey : member.child? .key = some key)
      (named : key.key? = some property) :
      IsStatic property member (member.child? .value)
  | getter {member key : Node} (isStatic : member.hasKeyword "static")
      (isMethod : member.kind = .method) (gets : member.hasKeyword "get")
      (hasKey : member.child? .key = some key) (named : key.text = property) :
      IsStatic property member ((member.child? .body).bind returned?)

theorem staticValueOf?_eq_some_iff {property : String} {member : Node} {given : Option Node} :
    staticValueOf? property member = some given ↔ IsStatic property member given := by
  constructor
  · intro found
    unfold staticValueOf? at found
    split at found
    · contradiction
    · rename_i isStatic
      have isStatic : member.hasKeyword "static" := by simpa using isStatic
      split at found
      · rename_i isField
        split at found
        · rename_i named
          obtain ⟨key, hasKey, named⟩ := Option.bind_eq_some_iff.mp named
          cases found
          exact .field isStatic isField hasKey named
        · contradiction
      · rename_i isMethod
        split at found
        · rename_i isGetter
          obtain ⟨gets, named⟩ := Bool.and_eq_true_iff.mp isGetter
          cases hasKey : member.child? .key with
          | none =>
              rw [hasKey] at named
              cases named
          | some key =>
              rw [hasKey] at named
              cases found
              exact .getter isStatic isMethod gets hasKey (beq_iff_eq.mp named)
        · contradiction
      · contradiction
  · intro isStatic
    cases isStatic with
    | field isStatic isField hasKey named => simp [staticValueOf?, isStatic, isField, hasKey, named]
    | getter isStatic isMethod gets hasKey named =>
        simp [staticValueOf?, isStatic, isMethod, gets, hasKey, named]

/-- The body of a class gives a static property a value; of several members of the name the first
does. -/
def DeclaresStatic (node : Node) (property : String) (value : Node) : Prop :=
  ∃ before member after, members node = before ++ member :: after ∧
    IsStatic property member (some value) ∧
    ∀ earlier ∈ before, ∀ given, ¬IsStatic property earlier given

theorem staticMember?_eq_some_iff {node value : Node} {property : String} :
    staticMember? node property = some value ↔ DeclaresStatic node property value := by
  rw [staticMember?, Option.join_eq_some_iff, List.findSome?_eq_some_iff]
  simp only [DeclaresStatic, staticValueOf?_eq_some_iff, Option.eq_none_iff_forall_ne_some, ne_eq]

/-- If a script is about a class that is taken for a component where it is defined, its body gives
every static property its value that is never assigned. Any other class is a component by an
assignment of types, and nothing in its body counts. -/
theorem staticValue?_of_class {program : Node} {candidate : Candidate}
    (resolved : (Survey.ofProgram program).resolve? = some candidate)
    (isClass : IsClass candidate.node) :
    (candidate.form = .classLike ∧ isComponentClass candidate.node ∨
      candidate.form = .assigned ∧ ¬NeverAssigns program candidate.name "propTypes") ∧
    (candidate.name ≠ "" →
      (candidate.form = .classLike ↔ IsRecognised candidate.name candidate.node)) ∧
    ∀ property, NeverAssigns program candidate.name property → ∀ value,
      (Survey.ofProgram program).staticValue? candidate property = some value ↔
        candidate.form = .classLike ∧ DeclaresStatic candidate.node property value := by
  have tells : FormTells (Survey.ofProgram program).assignments candidate :=
    (formsTell_ofProgram program).candidates candidate (mem_candidates_of_resolve? resolved)
  refine ⟨?_, ?_, ?_⟩
  · cases tells with
    | classLike isForm isComponent _ => exact .inl ⟨isForm, isComponent⟩
    | function _ noClass => exact absurd isClass noClass
    | assigned isForm typed _ =>
        refine .inr ⟨isForm, fun never => ?_⟩
        obtain ⟨assignment, member, isTarget, isTypes⟩ := typed
        rw [assignments_ofProgram] at member
        obtain ⟨statement, isStatement, assigns⟩ := List.mem_filterMap.mp member
        exact never statement isStatement assignment assigns isTarget isTypes
  · intro notEmpty
    cases tells with
    | classLike isForm _ recognised => exact iff_of_true isForm (recognised notEmpty)
    | function _ noClass => exact absurd isClass noClass
    | assigned isForm _ unrecognised =>
        exact iff_of_false (by rw [isForm]; decide) unrecognised
  · intro property never value
    rw [staticValue?, assigned?_eq_none_of_neverAssigns never, ite_self, Option.none_or,
      Option.ite_none_right_eq_some, staticMember?_eq_some_iff]

/-- What is asked of a script about a class: its form, what its body declares its display name to
be, what counts as the display name, and what is assigned. -/
structure ClassAnswers where
  kind : Kind
  form : Form
  declared : Option String
  counted : Option String
  assigned : List (String × String)
  deriving DecidableEq

def classAnswers (source : String) : Option ClassAnswers :=
  (Module.read? .javaScript source.toList).bind fun program =>
    (Survey.ofProgram program).resolve?.map fun candidate =>
      { kind := candidate.node.kind
        form := candidate.form
        declared := (staticMember? candidate.node "displayName").map Node.text
        counted := ((Survey.ofProgram program).staticValue? candidate "displayName").map Node.text
        assigned := (program.childNodes.filterMap assignment?).map fun assignment =>
          (assignment.target, assignment.property) }

/-- A class with a display name that is never assigned. -/
structure IsNamedClass (source : String) (program : Node) (candidate : Candidate) (shown : Node) :
    Prop where
  read : Module.read? .javaScript source.toList = some program
  resolved : (Survey.ofProgram program).resolve? = some candidate
  isClass : IsClass candidate.node
  never : NeverAssigns program candidate.name "displayName"
  declares : DeclaresStatic candidate.node "displayName" shown
  text : shown.text = "'Fancy'"

theorem exists_isNamedClass (source : String) (answers : ClassAnswers)
    (evaluated : classAnswers source = some answers) (isClass : answers.kind = .classDeclaration)
    (isDeclared : answers.declared = some "'Fancy'")
    (never : ∀ assigned ∈ answers.assigned, assigned.2 ≠ "displayName") :
    ∃ program candidate shown, IsNamedClass source program candidate shown ∧
      candidate.form = answers.form ∧
      ((Survey.ofProgram program).staticValue? candidate "displayName").map Node.text =
        answers.counted := by
  obtain ⟨program, read, evaluated⟩ := Option.bind_eq_some_iff.mp evaluated
  obtain ⟨candidate, resolved, rfl⟩ := Option.map_eq_some_iff.mp evaluated
  obtain ⟨shown, declares, text⟩ := Option.map_eq_some_iff.mp isDeclared
  refine ⟨program, candidate, shown, ?_, rfl, rfl⟩
  refine ⟨read, resolved, .inl isClass, ?_, staticMember?_eq_some_iff.mp declares, text⟩
  intro statement isStatement assignment assigns _
  have isAssignment := List.mem_filterMap.mpr ⟨statement, isStatement, assigns⟩
  exact never _ (List.mem_map_of_mem isAssignment)

/-- The display name in the body of a class that renders. -/
theorem staticValue?_of_class_rendering :
    let source := Text.ofLines [
      "class Card \x7b",
      "  static get displayName() \x7b return 'Fancy'; \x7d",
      "  render() \x7b return <b />; \x7d",
      "\x7d",
      "Card.propTypes = \x7b\x7d;"]
    ∃ program candidate shown, IsNamedClass source program candidate shown ∧
      (Survey.ofProgram program).staticValue? candidate "displayName" = some shown := by
  intro source
  obtain ⟨program, candidate, shown, named, isForm, _⟩ := exists_isNamedClass source
    ⟨.classDeclaration, .classLike, some "'Fancy'", some "'Fancy'", [("Card", "propTypes")]⟩
    (by decide +kernel) rfl rfl (by decide)
  refine ⟨program, candidate, shown, named, ?_⟩
  have ofClass := (staticValue?_of_class named.resolved named.isClass).2.2 _ named.never shown
  exact ofClass.mpr ⟨isForm, named.declares⟩

/-- A class that neither extends a component nor renders has a display name in its body for
nothing. -/
theorem displayName_of_assigned_class :
    let source := Text.ofLines [
      "class Card \x7b static displayName = 'Fancy'; \x7d",
      "Card.propTypes = \x7b a: PropTypes.string \x7d;"]
    (∃ program candidate shown, IsNamedClass source program candidate shown ∧
      (Survey.ofProgram program).staticValue? candidate "displayName" = none) ∧
    (extract "Card.js" source).toOption.map (·.component.displayName) = some (some "Card") := by
  intro source
  refine ⟨?_, by decide +kernel⟩
  obtain ⟨program, candidate, shown, named, _, counted⟩ := exists_isNamedClass source
    ⟨.classDeclaration, .assigned, some "'Fancy'", none, [("Card", "propTypes")]⟩
    (by decide +kernel) rfl rfl (by decide)
  exact ⟨program, candidate, shown, named, Option.map_eq_none_iff.mp counted⟩

end SnapshotGen.Extraction
