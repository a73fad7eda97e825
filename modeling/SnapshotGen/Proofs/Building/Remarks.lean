import SnapshotGen.Proofs.Building.Declared

/-!
What is remarked when a model is built. Whatever the declarations leave open is remarked once, at
its prop: a kind that is guessed and a value that is made up, and nothing else.
-/

namespace SnapshotGen.Building

open TestModel

section Accounts

variable (catalog : Catalog) (sourceFile component path : String)

/-- Where a prop has its kind from, with the remarks on it. -/
inductive KindFrom (prop : PropDecl) : PropKind → List Diagnostic → Prop
  | declaration {kind : PropKind} (declared : prop.kind? = some kind) : KindFrom prop kind []
  | guess (isOpen : prop.kind? = none) :
      KindFrom prop .string [.missingType prop.name component path]

/-- Where a prop has the text of its value from, with the remarks and notices on it. -/
inductive TextFrom (prop : PropDecl) : String → List Diagnostic → List Notice → Prop
  | declaration {text : String} (declared : prop.declaredDefault = some text) :
      TextFrom prop text [] []
  | standIn (isOpen : prop.declaredDefault = none) :
      TextFrom prop (typeLiteral catalog prop) [.missingDefault prop.name component path]
        [.standIn prop.name (typeLiteral catalog prop)]

/-- The properties that props are given in a test of a component, with the remarks and notices on
the way, prop by prop. -/
inductive Accounts : List PropDecl → List TestProp → List Diagnostic → List Notice → Prop
  | nil : Accounts [] [] [] []
  | children {prop : PropDecl} {props : List PropDecl} {properties : List TestProp}
      {remarks : List Diagnostic} {notices : List Notice} (isChildren : prop.name = "children")
      (others : Accounts props properties remarks notices) :
      Accounts (prop :: props) properties remarks notices
  | given {prop : PropDecl} {props : List PropDecl} {properties : List TestProp}
      {kind : PropKind} {text : String} {kindRemarks textRemarks remarks : List Diagnostic}
      {textNotices notices : List Notice} (isAttribute : prop.name ≠ "children")
      (kindFrom : KindFrom component path prop kind kindRemarks)
      (textFrom : TextFrom catalog component path prop text textRemarks textNotices)
      (others : Accounts props properties remarks notices) :
      Accounts (prop :: props) (⟨prop.name, kind, .ofText kind text, sourceFile⟩ :: properties)
        (kindRemarks ++ textRemarks ++ remarks) (textNotices ++ notices)

theorem kindFrom_getD (prop : PropDecl) :
    KindFrom component path prop (prop.kind?.getD .string)
      (if prop.kind?.isNone then [.missingType prop.name component path] else []) := by
  cases isKind : prop.kind? with
  | none => exact .guess isKind
  | some kind => exact .declaration isKind

theorem textFrom_propText (prop : PropDecl) :
    TextFrom catalog component path prop (propText catalog prop)
      (if prop.declaredDefault.isNone then [.missingDefault prop.name component path] else [])
      (noticesOn catalog prop) := by
  unfold noticesOn propText
  cases isDefault : prop.declaredDefault with
  | none =>
      rw [standIn_literal]
      exact .standIn isDefault
  | some text => exact .declaration isDefault

theorem accounts_of_props (props : List PropDecl) :
    Accounts catalog sourceFile component path props
      ((props.filter isShown).map (testProp catalog sourceFile))
      ((props.filter isShown).flatMap (propDiagnostics component path))
      ((props.filter isShown).flatMap (noticesOn catalog)) := by
  induction props with
  | nil => exact .nil
  | cons prop props induction =>
      by_cases isChildren : prop.name = childrenProp
      · rw [List.filter_cons_of_neg (by simp [isShown, isChildren])]
        exact .children isChildren induction
      · rw [List.filter_cons_of_pos (by simp [isShown, isChildren])]
        exact .given isChildren (kindFrom_getD component path prop)
          (textFrom_propText catalog component path prop) induction

end Accounts

def defaultMissed? : Diagnostic → Option String
  | .missingDefault prop _ _ => some prop
  | _ => none

def madeUp? : Notice → Option String
  | .standIn prop _ => some prop
  | _ => none

variable {catalog : Catalog} {sourceFile component path : String}

theorem KindFrom.no_default_missed {prop : PropDecl} {kind : PropKind} {remarks : List Diagnostic}
    (kindFrom : KindFrom component path prop kind remarks) :
    remarks.filterMap defaultMissed? = [] := by
  cases kindFrom <;> rfl

theorem TextFrom.default_missed_eq {prop : PropDecl} {text : String} {remarks : List Diagnostic}
    {notices : List Notice} (textFrom : TextFrom catalog component path prop text remarks notices) :
    remarks.filterMap defaultMissed? = notices.filterMap madeUp? := by
  cases textFrom <;> rfl

theorem Accounts.default_missed_eq {props : List PropDecl} {properties : List TestProp}
    {remarks : List Diagnostic} {notices : List Notice}
    (accounts : Accounts catalog sourceFile component path props properties remarks notices) :
    remarks.filterMap defaultMissed? = notices.filterMap madeUp? := by
  induction accounts with
  | nil => rfl
  | children _ _ induction => exact induction
  | given _ kindFrom textFrom _ induction =>
      rw [List.filterMap_append, List.filterMap_append, kindFrom.no_default_missed,
        textFrom.default_missed_eq, induction, List.nil_append, List.filterMap_append]

/-- Whatever the collector holds, building a model adds one remark for each guess, in the order of
the props, and the values made up are those of which a remark says that the default is missing.
Without a component nothing is added. -/
theorem remarks_account (catalog : Catalog) (sourcePath relativePath : String)
    (component : Component) (remarks : List Diagnostic) :
    let building := ofComponent catalog sourcePath relativePath component remarks
    let model := building.model
    (∃ added, building.remarks = remarks ++ added ∧
      match component.props.getD [] with
      | [] => added = [.missingProps model.componentName model.sourcePath] ∧
          model.properties = [] ∧ building.notices = []
      | prop :: props =>
          Accounts catalog relativePath model.componentName model.sourcePath (prop :: props)
              model.properties added building.notices ∧
            added.filterMap defaultMissed? = building.notices.filterMap madeUp?) ∧
    ∀ (Failure : Type) (found : Except Failure Component),
      (∀ failure, (ofFound catalog sourcePath relativePath found remarks).1 = .error failure →
        (ofFound catalog sourcePath relativePath found remarks).2 = remarks) ∧
      (found = .ok component → ofFound catalog sourcePath relativePath found remarks =
        (.ok model, building.remarks)) := by
  intro building model
  refine ⟨⟨diagnostics sourcePath component, remarks_ofComponent _ _ _ _ _, ?_⟩, ?_⟩
  · have isModel : model = TestModel.ofComponent catalog sourcePath relativePath component :=
      model_ofComponent catalog sourcePath relativePath component remarks
    have notices : building.notices = (attributeProps component).flatMap (noticesOn catalog) :=
      notices_ofComponent catalog sourcePath relativePath component remarks
    rw [isModel, notices]
    unfold diagnostics TestModel.ofComponent attributeProps
    cases component.props.getD [] with
    | nil => exact ⟨rfl, rfl, rfl⟩
    | cons prop props =>
        have accounts := accounts_of_props catalog relativePath (nameOf component sourcePath)
          sourcePath (prop :: props)
        exact ⟨accounts, accounts.default_missed_eq⟩
  · intro Failure found
    constructor
    · intro failure failed
      cases found with
      | error => rfl
      | ok => cases failed
    · intro isFound
      rw [isFound]
      rfl

end SnapshotGen.Building
