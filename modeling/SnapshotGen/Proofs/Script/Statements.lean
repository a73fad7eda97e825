import SnapshotGen.Proofs.Script.Operands

/-!
Statements and elements keep what the readers of their parts keep.
-/

namespace SnapshotGen.Script

open Reader

set_option synthInstance.maxSize 512

namespace Grammar

variable {given : Prop} (G : Grammar) [G.IsCareful]

instance careful_embedded : Careful given .loose G.embedded := by
  unfold embedded
  infer_instance

instance careful_tagName : Careful given .loose G.tagName := by
  unfold tagName
  dsimp only
  infer_instance

instance careful_tagAttribute : Careful given .loose G.tagAttribute := by
  unfold tagAttribute
  dsimp only
  infer_instance

instance careful_tagChild : Careful given .loose G.tagChild where
  keeps holds c _ _ fit done := by
    unfold tagChild at done
    split at done
    · contradiction
    · contradiction
    · contradiction
    · contradiction
    · exact careful .loose holds fit done
    · exact careful .loose holds fit done
    · split at done
      · contradiction
      · cases done
        exact ⟨fit.drop _, List.drop_suffix _ _, Faithful.isFaithful holds⟩
    · cases done
      exact ⟨fit.drop _, List.drop_suffix _ _, Faithful.isFaithful holds⟩

instance careful_closingTag : Careful given .loose G.closingTag := by
  unfold closingTag
  infer_instance

instance careful_elementBody : Careful given .brisk G.elementBody := by
  unfold elementBody
  infer_instance

instance spans_elementBody : Spans G.elementBody := by
  unfold elementBody
  infer_instance

instance careful_declarator (tail : Bool) : Careful given .loose (G.declarator tail) := by
  unfold declarator
  infer_instance

instance careful_declarators (tail : Bool) : Careful given .loose (G.declarators tail) := by
  unfold declarators
  infer_instance

instance careful_declaringWord : Careful given .loose declaringWord := by
  unfold declaringWord
  infer_instance

instance careful_variableStatement : Careful given .loose G.variableStatement := by
  unfold variableStatement
  infer_instance

instance careful_expressionStatement : Careful given .loose G.expressionStatement := by
  unfold expressionStatement
  infer_instance

instance careful_labeled : Careful given .loose G.labeled := by
  unfold labeled
  infer_instance

instance careful_wordStatement (kind : Kind) [Holds kind.isPlain] (word : String)
    (value : Reader (Option Node)) [Careful given .loose value] :
    Careful given .loose (G.wordStatement kind word value) := by
  unfold wordStatement
  infer_instance

instance careful_valueOnLine : Careful given .loose G.valueOnLine := by
  unfold valueOnLine
  infer_instance

instance careful_labelOnLine : Careful given .loose G.labelOnLine := by
  unfold labelOnLine
  infer_instance

instance careful_branch : Careful given .loose G.branch := by
  unfold branch
  infer_instance

instance careful_forMembers : Careful given .loose G.forMembers := by
  unfold forMembers
  infer_instance

instance careful_condition : Careful given .loose (forSteps.condition G) := by
  unfold forSteps.condition
  infer_instance

instance careful_forSteps : Careful given .loose G.forSteps := by
  unfold forSteps
  infer_instance

instance careful_forLoop : Careful given .loose G.forLoop := by
  unfold forLoop
  infer_instance

instance careful_guarded (word : String) : Careful given .loose (G.guarded word) := by
  unfold guarded
  infer_instance

instance careful_doLoop : Careful given .loose G.doLoop := by
  unfold doLoop
  infer_instance

instance careful_switchCase : Careful given .loose G.switchCase := by
  unfold switchCase
  infer_instance

instance careful_switchStatement : Careful given .loose G.switchStatement := by
  unfold switchStatement
  infer_instance

instance careful_tryStatement : Careful given .loose G.tryStatement := by
  unfold tryStatement
  infer_instance

instance careful_moduleName : Careful given .loose moduleName := by
  unfold moduleName
  infer_instance

instance careful_importSource : Careful given .loose G.importSource := by
  unfold importSource
  infer_instance

instance careful_renamed : Careful given .loose specifier.renamed := by
  unfold specifier.renamed
  infer_instance

instance careful_specifier : Careful given .loose G.specifier := by
  unfold specifier
  infer_instance

instance careful_specifiers : Careful given .loose G.specifiers := by
  unfold specifiers
  infer_instance

instance careful_namespaceImport : Careful given .loose namespaceImport := by
  unfold namespaceImport
  infer_instance

instance careful_importClause : Careful given .loose G.importClause := by
  unfold importClause
  infer_instance

instance careful_importFrom : Careful given .loose G.importFrom := by
  unfold importFrom
  infer_instance

instance careful_requiredImport : Careful given .loose requiredImport := by
  unfold requiredImport
  infer_instance

instance careful_typedOnly : Careful given .loose (importStatement.typedOnly G) := by
  unfold importStatement.typedOnly
  infer_instance

instance careful_importStatement : Careful given .loose G.importStatement := by
  unfold importStatement
  infer_instance

instance careful_interface : Careful given .loose G.interface := by
  unfold interface
  infer_instance

instance careful_typeAlias : Careful given .loose G.typeAlias := by
  unfold typeAlias
  infer_instance

instance careful_enumeration : Careful given .loose G.enumeration := by
  unfold enumeration
  infer_instance

instance careful_namespaceBody : Careful given .loose G.namespaceBody := by
  unfold namespaceBody
  infer_instance

instance careful_ambient (declaration : Reader Node) [Careful given .loose declaration] :
    Careful given .loose (G.ambient declaration) := by
  unfold ambient
  infer_instance

instance careful_importAlias : Careful given .loose G.importAlias := by
  unfold importAlias
  infer_instance

instance careful_plainDeclaration (word : String) :
    Careful given .loose (G.plainDeclaration word) := by
  unfold plainDeclaration
  split
  case h_7 =>
    split
    · split <;> infer_instance
    · infer_instance
  all_goals infer_instance

instance careful_aheadWord : Careful given .loose aheadWord where
  keeps _ _ _ _ fit done := by
    cases done
    exact ⟨fit, List.suffix_refl _, trivial⟩

instance careful_declaration : Careful given .loose G.declaration := by
  unfold declaration
  infer_instance

instance careful_exportedNames : Careful given .loose G.exportedNames := by
  unfold exportedNames
  infer_instance

instance careful_exportDefault : Careful given .loose G.exportDefault := by
  unfold exportDefault
  infer_instance

instance careful_exportTyped : Careful given .loose G.exportTyped := by
  unfold exportTyped
  infer_instance

instance careful_exportStatement : Careful given .loose G.exportStatement := by
  unfold exportStatement
  infer_instance

instance careful_markedStatement (word : String) :
    Careful given .loose (G.markedStatement word) := by
  unfold markedStatement
  split <;> infer_instance

instance careful_statementBody : Careful given .loose G.statementBody where
  keeps holds c _ _ fit done := by
    unfold statementBody at done
    obtain ⟨place, _, atMark, done⟩ := bind_eq_done.mp done
    cases atMark
    generalize c.skip.rest = ahead at done
    split at done <;> exact careful .loose holds fit done

end Grammar

end SnapshotGen.Script
