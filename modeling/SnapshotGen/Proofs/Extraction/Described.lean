import SnapshotGen.Proofs.Extraction.Candidates
import SnapshotGen.Proofs.Extraction.Documentation

/-!
How a component is described. What a comment says is noted with all that the statement behind it
makes, and a component keeps what was noted with it first; so lines that a comment says in front of
a component are extracted as they were written.
-/

namespace SnapshotGen.Extraction

open Script Script.Node Survey

/-- What a note makes is described by this. -/
def Note.Carries (description : String) : Note → Prop
  | .candidate noted => noted.description = description
  | .definition noted => noted.description = description
  | .typed _ _ given => given = description
  | _ => True

section

variable {description : String}

theorem carries_of_mem_notesOfDeclaration {node : Node} :
    ∀ note ∈ notesOfDeclaration description node, note.Carries description :=
  forall_mem_notesOfDeclaration (fun _ _ => rfl) (fun _ _ _ => rfl) fun _ _ => trivial

theorem carries_of_mem_notesOfDefault {value : Node} :
    ∀ note ∈ notesOfDefault description value, note.Carries description := by
  unfold notesOfDefault
  split <;> simp [Note.Carries]

theorem carries_of_mem_notesOfExport {node : Node} :
    ∀ note ∈ notesOfExport description node, note.Carries description := by
  unfold notesOfExport
  split
  · refine List.forall_mem_append.mpr ⟨carries_of_mem_notesOfDeclaration, ?_⟩
    split <;> simp [Note.Carries]
  · split
    · exact carries_of_mem_notesOfDefault
    · exact nofun
  · exact nofun

theorem carries_of_mem_notesOfAssignment {statement object property value : Node} :
    ∀ note ∈ notesOfAssignment description statement object property value,
      note.Carries description := by
  unfold notesOfAssignment
  split
  · exact carries_of_mem_notesOfDefault
  · split
    · exact nofun
    · refine List.forall_mem_append.mpr ⟨?_, by simp [Note.Carries]⟩
      split <;> simp [Note.Carries]

theorem carries_of_mem_notesOfStatement {node : Node} :
    ∀ note ∈ notesOfStatement description node, note.Carries description := by
  unfold notesOfStatement
  split
  · exact carries_of_mem_notesOfExport
  · split
    · exact carries_of_mem_notesOfAssignment
    · exact nofun
  · exact carries_of_mem_notesOfDeclaration

end

namespace Survey

/-- Whatever of a name is known is known with this description. -/
structure Describes (survey : Survey) (name description : String) : Prop where
  candidates : ∀ candidate ∈ survey.candidates, candidate.name = name →
    candidate.description = description
  definitions : ∀ definition ∈ survey.definitions, definition.name = name →
    definition.description = description

structure IsNew (survey : Survey) (name : String) : Prop where
  noCandidate : survey.candidate? name = none
  noDefinition : survey.definition? name = none

variable {survey : Survey} {name description : String}

theorem IsNew.describes (isNew : survey.IsNew name) (description : String) :
    survey.Describes name description where
  candidates candidate member named :=
    absurd (by simpa using named) (List.find?_eq_none.mp isNew.noCandidate candidate member)
  definitions definition member named :=
    absurd (by simpa using named) (List.find?_eq_none.mp isNew.noDefinition definition member)

theorem isNew_empty (name : String) : empty.IsNew name :=
  ⟨rfl, rfl⟩

theorem Describes.addCandidate (describes : survey.Describes name description)
    {candidate : Candidate}
    (described : candidate.name = name → candidate.description = description) :
    (survey.addCandidate candidate).Describes name description := by
  unfold Survey.addCandidate
  split
  · exact describes
  · exact ⟨List.forall_mem_append.mpr
      ⟨describes.candidates, List.forall_mem_singleton.mpr described⟩, describes.definitions⟩

theorem Describes.noteAssigned (describes : survey.Describes name description) (own : String)
    (statement : Node) :
    (survey.noteAssigned description statement own).Describes name description := by
  unfold Survey.noteAssigned
  split
  · exact describes
  · refine describes.addCandidate fun named => ?_
    cases found : survey.definition? own with
    | none => rfl
    | some definition =>
        have sameName : definition.name = own := by simpa using List.find?_some found
        exact describes.definitions definition (List.mem_of_find?_eq_some found)
          (sameName.trans named)

theorem Describes.note (describes : survey.Describes name description) {note : Note}
    (carries : note.Carries description) : (survey.note note).Describes name description := by
  cases note with
  | candidate candidate => exact describes.addCandidate fun _ => carries
  | typed own statement given =>
      cases carries
      exact describes.noteAssigned own statement
  | definition definition =>
      exact ⟨describes.candidates, List.forall_mem_append.mpr
        ⟨describes.definitions, List.forall_mem_singleton.mpr fun _ => carries⟩⟩
  | default | binding | assignment => exact ⟨describes.candidates, describes.definitions⟩

theorem Describes.foldl_note (describes : survey.Describes name description) {notes : List Note}
    (carries : ∀ note ∈ notes, note.Carries description) :
    (notes.foldl Survey.note survey).Describes name description :=
  List.foldlRecOn (motive := (·.Describes name description)) notes Survey.note describes
    fun _ describes note member => describes.note (carries note member)

end Survey

theorem notesOfStatement_of_comment {node : Node} (isComment : node.kind = .comment)
    (description : String) : notesOfStatement description node = [] := by
  simp [notesOfStatement, notesOfDeclaration, isComment]

/-- The component that the statement behind a comment is the first to tell of is described by that
comment. -/
theorem description_of_resolve? {program comment statement : Node} {before after : List Node}
    {candidate : Candidate} {told : Option Node} {form : Form}
    (stands : program.childNodes = before ++ comment :: statement :: after)
    (isComment : comment.kind = .comment)
    (resolved : (Survey.ofProgram program).resolve? = some candidate)
    (isNew : (Survey.empty.visitAll none before).IsNew candidate.name)
    (qualifies : Qualifies statement candidate.name told form) :
    candidate.description = description comment.text.toList := by
  have behind : descriptionBehind (some comment) = description comment.text.toList :=
    if_pos isComment
  have notes : notesOf program = notesOfAll none before ++
      (notesOfStatement (description comment.text.toList) statement ++
        notesOfAll (some statement) after) := by
    rw [notesOf, stands, notesOfAll_append, notesOfAll, notesOfAll,
      notesOfStatement_of_comment isComment, List.nil_append, behind]
  have whole := candidate?_of_resolve? resolved
  rw [ofProgram_eq, notes, List.foldl_append, List.foldl_append,
    ← visitAll_eq empty none before] at whole
  generalize Survey.empty.visitAll none before = earlier at isNew whole
  obtain ⟨_, admits⟩ :=
    earlier.admits_notes (notesOfStatement (description comment.text.toList) statement)
  have known := admits.complete _ (mem_qualifiedIn_notesOfStatement.mpr qualifies)
  rw [hasCandidate_eq_isSome, Option.isSome_iff_exists] at known
  obtain ⟨found, isFound⟩ := known
  -- What is noted later leaves the candidate as it is.
  obtain rfl : found = candidate :=
    Option.some.inj ((candidate?_foldl_note isFound _).symm.trans whole)
  have carries : ∀ note ∈ notesOfStatement (description comment.text.toList) statement,
      note.Carries (description comment.text.toList) := carries_of_mem_notesOfStatement
  have described := (isNew.describes (description comment.text.toList)).foldl_note carries
  exact described.candidates found (List.mem_of_find?_eq_some isFound) rfl

def documentationNode (lines : List (List Char)) : Node :=
  .mk .comment (String.ofList (documentation lines)) []

theorem exists_childNodes_of_documentation {lines : List (List Char)}
    (documents : IsDocumentation lines) {dialect : Dialect} {rest : List Char} {program : Node}
    (read : Module.read? dialect (documentation lines ++ rest) = some program) :
    ∃ statements, program.childNodes = documentationNode lines :: statements := by
  obtain ⟨statements, isRead⟩ :=
    Module.exists_childNodes_of_read? (documents.commentLength?_eq rest) read
  rw [Module.commentAt, List.take_left] at isRead
  exact ⟨statements, isRead⟩

/-- A comment that is written around some lines says these lines, each as it was, one below the
other. In a script it is one comment whatever stands behind it, and if the statement behind it is
the first to tell of the component of the script, its lines are what describes that component. -/
theorem description_of_documentation {lines : List (List Char)}
    (documents : IsDocumentation lines) :
    commentLines (documentation lines) = lines ∧
    description (documentation lines) = String.ofList (List.intercalate ['\n'] lines) ∧
    (∀ rest, commentLength? (documentation lines ++ rest) = some (documentation lines).length) ∧
    (∀ dialect rest program, Module.read? dialect (documentation lines ++ rest) = some program →
      ∃ statements, program.childNodes = documentationNode lines :: statements) ∧
    ∀ program before statement after candidate told form,
      program.childNodes = before ++ documentationNode lines :: statement :: after →
      (Survey.ofProgram program).resolve? = some candidate →
      (Survey.empty.visitAll none before).IsNew candidate.name →
      Qualifies statement candidate.name told form →
      ∃ found, Extraction.ofProgram program = .ok found ∧
        found.component.description = String.ofList (List.intercalate ['\n'] lines) := by
  refine ⟨documents.commentLines_eq, documents.description_eq, documents.commentLength?_eq,
    fun _ _ _ => exists_childNodes_of_documentation documents, ?_⟩
  intro program before statement after candidate told form stands resolved isNew qualifies
  have text : (documentationNode lines).text.toList = documentation lines := String.toList_ofList
  have described : candidate.description = description (documentationNode lines).text.toList :=
    description_of_resolve? stands rfl resolved isNew qualifies
  rw [text, documents.description_eq] at described
  refine ⟨extractFrom (Survey.ofProgram program) program candidate, ?_, described⟩
  rw [Extraction.ofProgram, resolved]

/-- Lines that are empty, indented and begin with a star, in front of a function. -/
theorem description_of_documentation_card :
    let lines := ["Shows a card.", "", "  indented", "* starred"].map String.toList
    let rest := "\nfunction Card() \x7b return <b />; \x7d\n".toList
    IsDocumentation lines ∧ commentLines (documentation lines) = lines ∧
      ∃ program found, Module.read? .javaScript (documentation lines ++ rest) = some program ∧
        Extraction.ofProgram program = .ok found ∧
        found.component.description = "Shows a card.\n\n  indented\n* starred" := by
  intro lines rest
  have noBlanks : lines.all fun line => line.getLast?.all (!Text.isBlank ·) := by decide +kernel
  have documents : IsDocumentation lines :=
    { unbroken := by decide +kernel
      isOpen := by decide +kernel
      noBlankBehind := by simpa [List.all_eq_true, Option.all_eq_true] using noBlanks
      begins := ⟨_, rfl, _, rfl, by decide +kernel⟩
      ends := ⟨_, rfl, by decide +kernel⟩ }
  have evaluated : (Module.read? .javaScript (documentation lines ++ rest)).any fun program =>
      (Survey.ofProgram program).resolve?.any (·.name == "Card") &&
        program.childNodes[1]?.any fun statement =>
          (qualifiedIn (notesOfStatement "" statement)).any (·.1 == "Card") := by decide +kernel
  obtain ⟨program, read, evaluated⟩ := (Option.any_eq_true ..).mp evaluated
  obtain ⟨resolved, evaluated⟩ := Bool.and_eq_true_iff.mp evaluated
  obtain ⟨candidate, resolved, named⟩ := (Option.any_eq_true ..).mp resolved
  obtain ⟨sameLines, _, _, opens, describes⟩ := description_of_documentation documents
  obtain ⟨statements, isRead⟩ := opens _ _ _ read
  obtain ⟨statement, isSecond, evaluated⟩ := (Option.any_eq_true ..).mp evaluated
  rw [isRead, List.getElem?_cons_succ, ← List.head?_eq_getElem?] at isSecond
  obtain ⟨after, rfl⟩ := List.head?_eq_some_iff.mp isSecond
  obtain ⟨⟨name, told, form⟩, isQualified, sameName⟩ := List.any_eq_true.mp evaluated
  obtain rfl : name = candidate.name :=
    (beq_iff_eq.mp sameName).trans (beq_iff_eq.mp named).symm
  obtain ⟨found, isFound, described⟩ := describes program [] statement after candidate told form
    isRead resolved (isNew_empty _) (mem_qualifiedIn_notesOfStatement.mp isQualified)
  exact ⟨documents, sameLines, program, found, read, isFound, described⟩

end SnapshotGen.Extraction
