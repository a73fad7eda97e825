import SnapshotGen.Proofs.Script.Grammar

/-!
Patterns, functions, types, objects and classes keep what the readers of their parts keep.
-/

namespace SnapshotGen.Script

open Reader

set_option synthInstance.maxSize 512

namespace Grammar

variable {given : Prop} (G : Grammar) [G.IsCareful]

section Patterns

variable (kind : Kind) [Holds kind.isPlain] (start : Cursor) (pattern : Node)
  [Faithful given pattern]

instance careful_withDefault : Careful given .loose (G.withDefault kind start pattern) := by
  unfold withDefault
  infer_instance

end Patterns

instance careful_restPattern : Careful given .loose G.restPattern := by
  unfold restPattern
  infer_instance

instance careful_patternMember : Careful given .loose G.patternMember := by
  unfold patternMember
  infer_instance

instance careful_objectPattern : Careful given .brisk G.objectPattern := by
  unfold objectPattern
  infer_instance

instance careful_arrayPattern : Careful given .brisk G.arrayPattern := by
  unfold arrayPattern
  infer_instance

instance careful_destructuring : Careful given .brisk G.destructuring := by
  unfold destructuring
  infer_instance

instance careful_targetName : Careful given .loose G.targetName := by
  unfold targetName
  infer_instance

instance careful_bindingTarget : Careful given .loose G.bindingTarget := by
  unfold bindingTarget
  infer_instance

instance careful_declaredTarget : Careful given .loose G.declaredTarget := by
  unfold declaredTarget
  infer_instance

instance careful_decoratorFrom (start : Cursor) (name callee : Node) (found : Option Node)
    [Faithful given name] [Faithful given found] :
    Careful given .loose (decoratorFrom start name callee found) where
  keeps holds _ _ _ fit done := by
    cases found with
    | none => exact careful .loose holds (p := pure name) fit done
    | some arguments =>
        have isFaithful : Textual.IsFaithful arguments :=
          Faithful.isFaithful (a := some arguments) holds arguments rfl
        exact careful .loose (And.intro holds isFaithful) (p := node .call start _) fit done

instance careful_decorator : Careful given .brisk G.decorator := by
  unfold decorator
  infer_instance

instance careful_modifier (text : String) : Careful given .brisk (modifier text) := by
  unfold modifier
  infer_instance

instance careful_modifiers {pace : Pace} [pace.MayStay] (texts : List String) :
    Careful given pace (modifiers texts) := by
  unfold modifiers
  infer_instance

instance careful_typedParameter : Careful given .loose G.typedParameter := by
  unfold typedParameter
  infer_instance

instance careful_plainParameter : Careful given .loose G.plainParameter := by
  unfold plainParameter
  infer_instance

instance careful_parameters : Careful given .brisk G.parameters := by
  unfold parameters
  dsimp only
  infer_instance

instance careful_typeParameter : Careful given .loose G.typeParameter := by
  unfold typeParameter
  infer_instance

instance careful_typeParameters : Careful given .brisk G.typeParameters := by
  unfold typeParameters
  infer_instance

instance careful_returnType : Careful given .loose G.returnType := by
  unfold returnType
  dsimp only
  infer_instance

instance careful_signature : Careful given .brisk G.signature := by
  unfold signature
  infer_instance

instance careful_functionHead : Careful given .brisk functionHead := by
  unfold functionHead
  infer_instance

instance careful_functionLiteral : Careful given .brisk G.functionLiteral := by
  unfold functionLiteral
  infer_instance

instance careful_functionDeclaration : Careful given .loose G.functionDeclaration := by
  unfold functionDeclaration
  infer_instance

instance careful_arrowBody (tail : Bool) : Careful given .loose (G.arrowBody tail) := by
  unfold arrowBody
  infer_instance

instance careful_arrowFrom (tail : Bool) (start : Cursor) (head : Role × Node)
    [Faithful given head] : Careful given .loose (G.arrowFrom tail start head) := by
  unfold arrowFrom
  infer_instance

instance endsFrom_arrowFrom (tail : Bool) (start : Cursor) (head : Role × Node) :
    EndsFrom start (G.arrowFrom tail start head) := by
  unfold arrowFrom
  infer_instance

instance careful_asyncWord : Careful given .brisk arrow.asyncWord := by
  unfold arrow.asyncWord
  infer_instance

instance careful_arrow (tail : Bool) : Careful given .brisk (G.arrow tail) := by
  unfold arrow
  infer_instance

instance spans_functionLiteral : Spans G.functionLiteral := by
  unfold functionLiteral
  infer_instance

instance spans_arrow (tail : Bool) : Spans (G.arrow tail) := by
  unfold arrow
  infer_instance

instance careful_typeArguments : Careful given .brisk G.typeArguments := by
  unfold typeArguments
  infer_instance

instance careful_qualifiedName (name :
    Reader Node) [Careful given .loose name] : Careful given .loose (qualifiedName name) := by
  unfold qualifiedName
  infer_instance

instance careful_memberEnd : Careful given .loose G.memberEnd := by
  unfold memberEnd
  infer_instance

instance careful_typeMember : Careful given .loose G.typeMember := by
  unfold typeMember
  infer_instance

instance careful_objectType : Careful given .loose G.objectType := by
  unfold objectType
  infer_instance

instance careful_tupleMember : Careful given .loose G.tupleMember := by
  unfold tupleMember
  infer_instance

instance careful_queried : Careful given .loose G.queried := by
  unfold queried
  infer_instance

instance careful_primaryType : Careful given .loose (primaryType G) := by
  unfold primaryType
  infer_instance

instance careful_postfixType : Careful given .loose (postfixType G) := by
  unfold postfixType
  infer_instance

instance careful_prefixless : Careful given .loose (prefixedType.prefixless G) := by
  unfold prefixedType.prefixless
  infer_instance

instance careful_prefixedType : Careful given .loose (prefixedType G) := by
  unfold prefixedType
  infer_instance

instance careful_functionType : Careful given .loose G.functionType := by
  unfold functionType
  infer_instance

instance careful_typeBody : Careful given .loose G.typeBody := by
  unfold typeBody
  dsimp only
  infer_instance

instance careful_modifierGroups (usable : Reader Unit) [Careful given .loose usable]
    (groups : List (List String)) : Careful given .loose (modifierGroups usable groups) := by
  induction groups with
  | nil =>
      unfold modifierGroups
      infer_instance
  | cons group more induction =>
      unfold modifierGroups
      infer_instance

instance careful_methodBody (start : Cursor) (marks : List (Role × Node)) [Faithful given marks] :
    Careful given .loose (G.methodBody start marks) := by
  unfold methodBody
  infer_instance

instance careful_objectMethod : Careful given .loose G.objectMethod := by
  unfold objectMethod
  dsimp only
  infer_instance

instance careful_objectMember : Careful given .loose G.objectMember := by
  unfold objectMember
  infer_instance

instance careful_objectLiteral : Careful given .brisk G.objectLiteral := by
  unfold objectLiteral
  infer_instance

instance careful_arrayLiteral : Careful given .brisk G.arrayLiteral := by
  unfold arrayLiteral
  infer_instance

instance spans_objectLiteral : Spans G.objectLiteral := by
  unfold objectLiteral
  infer_instance

instance spans_arrayLiteral : Spans G.arrayLiteral := by
  unfold arrayLiteral
  infer_instance

instance careful_implemented : Careful given .loose G.implemented := by
  unfold implemented
  infer_instance

instance careful_heritage : Careful given .loose G.heritage := by
  unfold heritage
  infer_instance

instance careful_goesOn : Careful given .loose G.goesOn := by
  unfold goesOn
  infer_instance

instance careful_memberEnds : Careful given .loose G.memberEnds := by
  unfold memberEnds
  infer_instance

instance careful_staticBlock : Careful given .loose G.staticBlock := by
  unfold staticBlock
  infer_instance

instance careful_classMethod : Careful given .loose G.classMethod := by
  unfold classMethod
  dsimp only
  infer_instance

instance careful_methodSignature : Careful given .loose G.methodSignature := by
  unfold methodSignature
  infer_instance

instance careful_indexSignature : Careful given .loose G.indexSignature := by
  unfold indexSignature
  infer_instance

instance careful_fieldWords : Careful given .loose G.fieldWords := by
  unfold fieldWords
  infer_instance

instance careful_field : Careful given .loose G.field := by
  unfold field
  infer_instance

instance careful_classMember : Careful given .loose G.classMember := by
  unfold classMember
  infer_instance

instance careful_classBody : Careful given .loose G.classBody := by
  unfold classBody
  infer_instance

instance careful_classFrom (named : Bool) (start : Cursor) (decorators : List Node)
    [Faithful given decorators] : Careful given .brisk (G.classFrom named start decorators) := by
  unfold classFrom
  infer_instance

instance endsFrom_classFrom (named : Bool) (start : Cursor) (decorators : List Node) :
    EndsFrom start (G.classFrom named start decorators) := by
  unfold classFrom
  infer_instance

instance careful_classLiteral : Careful given .brisk G.classLiteral := by
  unfold classLiteral
  infer_instance

instance spans_classLiteral : Spans G.classLiteral := by
  unfold classLiteral
  infer_instance

instance careful_classDeclaration : Careful given .loose G.classDeclaration := by
  unfold classDeclaration
  infer_instance

end Grammar

end SnapshotGen.Script
