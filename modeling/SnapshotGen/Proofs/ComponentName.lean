import SnapshotGen.Proofs.Extraction.Notes
import SnapshotGen.Proofs.Extraction.Props
import SnapshotGen.Proofs.Extraction.Sources
import SnapshotGen.Proofs.Script.Identifiers
import SnapshotGen.Proofs.Script.Unreserved
import SnapshotGen.Proofs.Script.Whole
import SnapshotGen.TestModel

/-!
The name by which a test imports and renders a component. It is taken over as it stands from a
literal, from what the component is bound to, or from the name of a file. Only the second of these
is always a name of the script.
-/

namespace SnapshotGen

open Script

namespace Script

/-- A name that a script gives something, or the empty text where one is missing. -/
def IsBound (text : String) : Prop :=
  text = "" ∨ IsToken nameLength text ∧ text ∉ reservedWords

/-- What is known of every statement of a script. -/
structure Node.IsRead (node : Node) : Prop where
  faithful : node.Faithful
  unreserved : node.Unreserved

namespace Node.IsRead

variable {node child : Node}

theorem of_child? {role : Role} (isRead : node.IsRead) (names : node.kind.names role = true)
    (found : node.child? role = some child) : child.IsRead :=
  ⟨isRead.faithful.of_mem_parts (mem_parts_of_child? found),
    isRead.unreserved.of_child? names found⟩

theorem of_mem_childNodes (isRead : node.IsRead) (names : ∀ role, node.kind.names role = true)
    (member : child ∈ node.childNodes) : child.IsRead :=
  ⟨isRead.faithful.of_mem_parts (mem_parts_of_mem_childNodes member),
    isRead.unreserved.of_mem_childNodes names member⟩

theorem isBound (isRead : node.IsRead) (isName : node.kind = .identifier) : IsBound node.text := by
  have covers := isRead.faithful.covers
  have unreserved := isRead.unreserved.text_not_mem isName
  cases node with
  | mk kind text children =>
      cases isName
      exact covers.imp_right fun isToken => ⟨isToken, unreserved⟩

end Node.IsRead

end Script

namespace Extraction

open Survey

def Note.named? : Note → Option String
  | .candidate noted => some noted.name
  | .typed name _ _ => some name
  | _ => none

def BoundOnly (notes : List Note) : Prop :=
  ∀ note ∈ notes, ∀ name ∈ note.named?, IsBound name

theorem boundOnly_append {front back : List Note} (ofFront : BoundOnly front)
    (ofBack : BoundOnly back) : BoundOnly (front ++ back) :=
  List.forall_mem_append.mpr ⟨ofFront, ofBack⟩

theorem boundOnly_notesOfDefined {name : String} (isBound : IsBound name) (node : Node)
    (description : String) (component : Option Form) :
    BoundOnly (notesOfDefined name node description component) := by
  cases component with
  | none => simp [BoundOnly, notesOfDefined, Note.named?]
  | some form => simpa [BoundOnly, notesOfDefined, Note.named?] using isBound

theorem boundOnly_notesOfDefault (description : String) (value : Node) :
    BoundOnly (notesOfDefault description value) := by
  unfold notesOfDefault
  split <;> simp [BoundOnly, Note.named?, IsBound]

section Statements

variable {node : Node} (description : String) (isRead : node.IsRead)

include isRead

theorem boundOnly_notesOfDeclarator (isDeclarator : node.kind = .declarator) :
    BoundOnly (notesOfDeclarator description node) := by
  unfold notesOfDeclarator
  split
  · rename_i name value isName _
    split
    · rename_i isIdentifier
      have nameRead := isRead.of_child? (by rw [isDeclarator]) isName
      refine List.forall_mem_cons.mpr ⟨by simp [Note.named?], ?_⟩
      split
      · exact boundOnly_notesOfDefined (nameRead.isBound isIdentifier) _ _ _
      · simp
    · simp [BoundOnly]
  · simp [BoundOnly]

theorem boundOnly_notesOfDeclaration : BoundOnly (notesOfDeclaration description node) := by
  unfold notesOfDeclaration
  split
  · rename_i isClass isName
    exact boundOnly_notesOfDefined ((isRead.of_child? (by rw [isClass]) isName).isBound
      (isRead.unreserved.kind_of_name (.inl isClass) isName)) _ _ _
  · rename_i isFunction isName
    exact boundOnly_notesOfDefined ((isRead.of_child? (by rw [isFunction]) isName).isBound
      (isRead.unreserved.kind_of_name (.inr isFunction) isName)) _ _ _
  · rename_i isVariables
    intro note member
    obtain ⟨item, isItem, inItem⟩ := List.mem_flatMap.mp member
    obtain ⟨isChild, isDeclarator⟩ := List.mem_filter.mp isItem
    have itemRead := isRead.of_mem_childNodes (fun _ => by rw [isVariables]) isChild
    exact boundOnly_notesOfDeclarator description itemRead (by simpa using isDeclarator) note inItem
  · simp [BoundOnly]

theorem boundOnly_notesOfExport (isExport : node.kind = .export) :
    BoundOnly (notesOfExport description node) := by
  unfold notesOfExport
  split
  · rename_i isDeclaration
    refine boundOnly_append (boundOnly_notesOfDeclaration description
      (isRead.of_child? (by rw [isExport]) isDeclaration)) ?_
    split <;> simp [BoundOnly, Note.named?]
  · split
    · exact boundOnly_notesOfDefault _ _
    · simp [BoundOnly]
  · simp [BoundOnly]

theorem isRead_of_assignmentOf? {object property value : Node}
    (isStatement : node.kind = .expressionStatement)
    (assigned : assignmentOf? node = some (object, property, value)) : object.IsRead := by
  simp only [assignmentOf?, Option.bind_eq_bind, Option.bind_eq_some_iff] at assigned
  obtain ⟨expression, isFound, left, isLeft, right, _, assigned⟩ := assigned
  split at assigned
  · contradiction
  · rename_i isMember
    simp only [Option.bind_eq_some_iff, pure, Option.some.injEq, Prod.mk.injEq] at assigned
    obtain ⟨_, isObject, _, _, rfl, _, _⟩ := assigned
    have isAssignment : expression.kind = .assignment := by simpa using List.find?_some isFound
    have expressionRead := isRead.of_mem_childNodes (fun _ => by rw [isStatement])
      (List.mem_of_find?_eq_some isFound)
    have leftRead := expressionRead.of_child? (by rw [isAssignment]) isLeft
    exact leftRead.of_child? (by rw [not_not.mp isMember]) isObject

theorem boundOnly_notesOfStatement : BoundOnly (notesOfStatement description node) := by
  unfold notesOfStatement
  split
  · rename_i isExport
    exact boundOnly_notesOfExport description isRead isExport
  · rename_i isStatement
    split
    · rename_i object property value assigned
      unfold notesOfAssignment
      split
      · exact boundOnly_notesOfDefault _ _
      · split
        · simp [BoundOnly]
        · rename_i isIdentifier
          have isBound := (isRead_of_assignmentOf? isRead isStatement assigned).isBound
            (not_not.mp isIdentifier)
          refine boundOnly_append ?_ (by simp [BoundOnly, Note.named?])
          split
          · simpa [BoundOnly, Note.named?] using isBound
          · simp [BoundOnly]
    · simp [BoundOnly]
  · exact boundOnly_notesOfDeclaration description isRead

end Statements

theorem boundOnly_notesOfAll {nodes : List Node} (areRead : ∀ node ∈ nodes, node.IsRead)
    (previous : Option Node) : BoundOnly (notesOfAll previous nodes) := by
  induction nodes generalizing previous with
  | nil => simp [BoundOnly, notesOfAll]
  | cons node nodes induction =>
      obtain ⟨isRead, moreRead⟩ := List.forall_mem_cons.mp areRead
      exact boundOnly_append (boundOnly_notesOfStatement _ isRead) (induction moreRead _)

namespace Survey

theorem mem_candidates_addCandidate {survey : Survey} {added candidate : Candidate}
    (member : candidate ∈ (survey.addCandidate added).candidates) :
    candidate ∈ survey.candidates ∨ candidate = added := by
  unfold addCandidate at member
  split at member
  · exact .inl member
  · simpa using member

theorem isBound_of_note {survey : Survey} {note : Note}
    (known : ∀ candidate ∈ survey.candidates, IsBound candidate.name)
    (ofNote : ∀ name ∈ note.named?, IsBound name) :
    ∀ candidate ∈ (survey.note note).candidates, IsBound candidate.name := by
  intro candidate member
  cases note with
  | candidate added =>
      rcases mem_candidates_addCandidate member with isKnown | rfl
      · exact known candidate isKnown
      · exact ofNote _ rfl
  | typed name statement description =>
      change candidate ∈ (survey.noteAssigned description statement name).candidates at member
      unfold noteAssigned at member
      split at member
      · exact known candidate member
      · rcases mem_candidates_addCandidate member with isKnown | rfl
        · exact known candidate isKnown
        · exact ofNote _ rfl
  | _ => exact known candidate member

theorem isBound_of_foldl_note {notes : List Note} {survey : Survey}
    (known : ∀ candidate ∈ survey.candidates, IsBound candidate.name)
    (boundOnly : BoundOnly notes) :
    ∀ candidate ∈ (notes.foldl note survey).candidates, IsBound candidate.name := by
  induction notes generalizing survey with
  | nil => exact known
  | cons note notes induction =>
      obtain ⟨ofNote, ofMore⟩ := List.forall_mem_cons.mp boundOnly
      exact induction (isBound_of_note known ofNote) ofMore

/-- Every candidate of a script that is read has a name of that script, or none. -/
theorem isBound_of_read? {dialect : Dialect} {text : List Char} {program : Node}
    (read : Module.read? dialect text = some program) {candidate : Candidate}
    (member : candidate ∈ (ofProgram program).candidates) : IsBound candidate.name := by
  rw [ofProgram_eq] at member
  have faithful := Module.faithful_of_read? read
  have areRead : ∀ node ∈ program.childNodes, node.IsRead := fun node isChild =>
    ⟨faithful.of_mem_parts (Node.mem_parts_of_mem_childNodes isChild),
      Module.unreserved_of_read? read node isChild⟩
  exact isBound_of_foldl_note (by simp [empty]) (boundOnly_notesOfAll areRead none) candidate member

end Survey

/-- Where the name of a component comes from, and what is known of it then. -/
inductive NamedBy (survey : Survey) (candidate : Candidate) (sourcePath : String) : String → Prop
  | literal {value : Node} {text : String}
      (isStatic : survey.staticValue? candidate "displayName" = some value)
      (isLiteral : value.stringValue? = some text) (notEmpty : text ≠ "") :
      NamedBy survey candidate sourcePath text
  | binding
      (noLiteral : (survey.staticValue? candidate "displayName").bind Node.stringValue? = none)
      (isName : IsToken nameLength candidate.name) (unreserved : candidate.name ∉ reservedWords)
      (isIdentifier_iff : ∀ letters, isIdentifier letters candidate.name = true ↔
        letters.Spell candidate.name ∧ candidate.name ∉ contextualWords) :
      NamedBy survey candidate sourcePath candidate.name
  | file (nameless : displayName survey candidate = "") :
      NamedBy survey candidate sourcePath (TestModel.fileNameOf sourcePath)

theorem nameOf_extractFrom (survey : Survey) (program : Node) (candidate : Candidate)
    (sourcePath : String) :
    TestModel.nameOf (extractFrom survey program candidate).component sourcePath =
      if displayName survey candidate = "" then TestModel.fileNameOf sourcePath
      else displayName survey candidate := by
  unfold TestModel.nameOf extractFrom
  dsimp only
  split
  · rfl
  · rename_i notEmpty
    simp [Option.filter, notEmpty]

theorem namedBy_displayName {survey : Survey} {candidate : Candidate}
    (isBound : IsBound candidate.name) (notEmpty : displayName survey candidate ≠ "")
    (sourcePath : String) :
    NamedBy survey candidate sourcePath (displayName survey candidate) := by
  unfold displayName at notEmpty ⊢
  cases isLiteral : (survey.staticValue? candidate "displayName").bind Node.stringValue? with
  | some text =>
      rw [isLiteral, Option.getD_some] at notEmpty
      obtain ⟨value, isStatic, isText⟩ := Option.bind_eq_some_iff.mp isLiteral
      exact .literal isStatic isText notEmpty
  | none =>
      rw [isLiteral, Option.getD_none] at notEmpty
      obtain ⟨isName, unreserved⟩ := isBound.resolve_left notEmpty
      exact .binding isLiteral isName unreserved fun _ =>
        isIdentifier_iff_of_isToken isName unreserved

/-- A test names the component by the text of its `displayName`, by what it is bound to, or by its
file, whatever that is. Only a name that the script binds is sure to be spelled like one. -/
theorem namedBy_of_extract {path source : String} {found : Extract}
    (extracted : extract path source = .ok found) :
    ∃ dialect program candidate, Dialect.ofPath? path.toList = some dialect ∧
      Module.read? dialect source.toList = some program ∧
      (Survey.ofProgram program).resolve? = some candidate ∧
      ∀ (catalog : Catalog) (sourcePath relativePath : String),
        NamedBy (Survey.ofProgram program) candidate sourcePath
          (TestModel.ofComponent catalog sourcePath relativePath found.component).componentName := by
  obtain ⟨dialect, program, isDialect, read, ofProgram⟩ := exists_read_of_extract extracted
  obtain ⟨candidate, resolved, rfl⟩ := exists_candidate_of_ofProgram ofProgram
  refine ⟨dialect, program, candidate, isDialect, read, resolved, fun _ sourcePath _ => ?_⟩
  change NamedBy _ _ _ (TestModel.nameOf _ sourcePath)
  rw [nameOf_extractFrom]
  split
  · rename_i nameless
    exact .file nameless
  · rename_i notEmpty
    have isBound := Survey.isBound_of_read? read (Survey.mem_candidates_of_resolve? resolved)
    exact namedBy_displayName isBound notEmpty sourcePath

theorem namedBy_of_extract_card : ∃ found dialect program candidate,
    extract "Card.js" "const Card = () => <b />;\n" = .ok found ∧
      Module.read? dialect "const Card = () => <b />;\n".toList = some program ∧
      (Survey.ofProgram program).resolve? = some candidate ∧
      NamedBy (Survey.ofProgram program) candidate "src/Card.js" "Card" := by
  have evaluated : (extract "Card.js" "const Card = () => <b />;\n").toOption.map
      (TestModel.nameOf ·.component "src/Card.js") = some "Card" := by
    decide +kernel
  obtain ⟨found, isFound, isName⟩ := Option.map_eq_some_iff.mp evaluated
  have extracted := toOption_eq_some.mp isFound
  obtain ⟨dialect, program, candidate, _, read, resolved, namedBy⟩ := namedBy_of_extract extracted
  refine ⟨found, dialect, program, candidate, extracted, read, resolved, ?_⟩
  rw [← isName]
  exact namedBy .builtin "src/Card.js" "Card.js"

/-- A test that a script gives does not import the component by an identifier. -/
def MisnamesBy (path source name : String) : Prop :=
  ∃ found, extract path source = .ok found ∧ ∀ (catalog : Catalog) (relativePath : String),
    (TestModel.ofComponent catalog path relativePath found.component).componentName = name ∧
      ∀ letters, isIdentifier letters name = false

theorem misnamesBy_of_evaluated {path source name : String}
    (evaluated : (extract path source).toOption.map (TestModel.nameOf ·.component path) = some name)
    (notIdentifier : ∀ letters, isIdentifier letters name = false) :
    MisnamesBy path source name := by
  obtain ⟨found, isFound, isName⟩ := Option.map_eq_some_iff.mp evaluated
  exact ⟨found, toOption_eq_some.mp isFound, fun _ _ => ⟨isName, notIdentifier⟩⟩

/-- None of the three origins of a name gives identifiers only. -/
theorem misnames_by_every_origin :
    MisnamesBy "Card.js"
        (Text.ofLines ["const Card = () => <b />;", "Card.displayName = 'withTheme(Card)';"])
        "withTheme(Card)" ∧
      MisnamesBy "package.js" "class package extends Component \x7b\x7d\n" "package" ∧
      MisnamesBy "my-card.js" "export default () => <b />;\n" "my-card" := by
  refine ⟨misnamesBy_of_evaluated (by decide +kernel) fun letters => ?_,
    misnamesBy_of_evaluated (by decide +kernel) fun letters => ?_,
    misnamesBy_of_evaluated (by decide +kernel) fun letters => ?_⟩
  · exact not_isIdentifier_of_mem (c := '(') (by decide) rfl rfl
  · simp [isIdentifier, contextualWords]
  · exact not_isIdentifier_of_mem (c := '-') (by decide) rfl rfl

end Extraction

end SnapshotGen
