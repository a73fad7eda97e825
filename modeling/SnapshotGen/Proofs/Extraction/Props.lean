import SnapshotGen.Proofs.Extraction.Uses
import SnapshotGen.Proofs.Outcomes

/-!
Where the props of a component come from. A member of an object declares one, at any depth of a
shape, and a default names one; every name is a key that stands in the script.
-/

namespace SnapshotGen.Extraction

open Script Script.Node

def IsKey (program : Node) (name : String) : Prop :=
  ∃ key ∈ program.parts, key.key? = some name

variable {program : Node} {name : String}

theorem IsKey.of_mem_parts {inner : Node} (isKey : IsKey inner name)
    (inProgram : inner ∈ program.parts) : IsKey program name := by
  obtain ⟨key, inInner, named⟩ := isKey
  exact ⟨key, mem_parts_trans inInner program inProgram, named⟩

theorem isKey_of_child? {member key : Node} {role : Role} (isChild : member.child? role = some key)
    (named : key.key? = some name) : IsKey member name :=
  ⟨key, mem_parts_of_child? isChild, named⟩

theorem isKey_of_shorthand {member : Node} (isShorthand : member.kind = .shorthand) :
    IsKey member member.text := by
  refine ⟨member, mem_parts_self member, ?_⟩
  unfold key?
  rw [isShorthand]

theorem isKey_of_pair? {member value : Node} (found : pair? member = some (name, value)) :
    IsKey member name := by
  simp only [pair?, Option.bind_eq_bind, Option.bind_eq_some_iff, pure, Option.some.injEq,
    Prod.mk.injEq] at found
  obtain ⟨key, isChild, _, named, _, _, rfl, _⟩ := found
  exact isKey_of_child? isChild named

/-- A prop as members of objects declare it: the type of a shape has the props that its own object
declares for fields. -/
inductive IsDeclared (program : Node) : PropDecl → Prop
  | shorthand {name : String} (isKey : IsKey program name) : IsDeclared program (shorthandProp name)
  | plain {name : String} (isKey : IsKey program name) (value : Node) :
      IsDeclared program (declaredProp name value none)
  | shape {name : String} (isKey : IsKey program name) {value : Node}
      (isShape : kindOf (splitRequired value).1 = .shape ∨ kindOf (splitRequired value).1 = .exact)
      {fields : List PropDecl} (areDeclared : ∀ field ∈ fields, IsDeclared program field) :
      IsDeclared program (declaredProp name value (some fields))

variable {survey : Survey} {object : Node}

theorem mem_filterMap_prop? {declared : List Declared} {prop : PropDecl} :
    prop ∈ declared.filterMap Declared.prop? ↔ .prop prop ∈ declared := by
  rw [List.mem_filterMap]
  constructor
  · rintro ⟨found, member, same⟩
    cases found with
    | prop other =>
        cases same
        exact member
    | spread text => cases same
  · intro member
    exact ⟨_, member, rfl⟩

theorem kindOf_of_fieldsObject? {expression inner : Node}
    (found : fieldsObject? survey expression = some inner) :
    kindOf expression = .shape ∨ kindOf expression = .exact := by
  unfold fieldsObject? at found
  split at found
  · rename_i isShape
    simp only [Bool.and_eq_true, Bool.or_eq_true, decide_eq_true_eq] at isShape
    exact isShape.2
  · cases found

/-- What a member declares, if what is read of the object of a shape is declared. -/
theorem isDeclared_of_memberDeclared? {read? : Node → Option (List Declared)} {member : Node}
    (inProgram : member ∈ program.parts)
    (reads : ∀ name value inner declared, member.kind = .pair →
      pair? member = some (name, value) → fieldsObject? survey (splitRequired value).1 = some inner →
      read? inner = some declared → ∀ prop, .prop prop ∈ declared → IsDeclared program prop)
    {declared : List Declared} (found : memberDeclared? survey read? member = some declared)
    {prop : PropDecl} (isProp : .prop prop ∈ declared) : IsDeclared program prop := by
  unfold memberDeclared? at found
  split at found
  · rename_i isPair
    split at found
    · cases found
      cases isProp
    · rename_i name value hasPair
      have isKey := (isKey_of_pair? hasPair).of_mem_parts inProgram
      split at found
      · cases found
        cases List.mem_singleton.mp isProp
        exact .plain isKey value
      · rename_i inner hasFields
        simp only [Option.bind_eq_bind, Option.bind_eq_some_iff, pure, Option.some.injEq] at found
        obtain ⟨fields, isRead, rfl⟩ := found
        rcases List.mem_append.mp isProp with isSpread | isShape
        · obtain ⟨text, _, same⟩ := List.mem_map.mp isSpread
          cases same
        · cases List.mem_singleton.mp isShape
          refine .shape isKey (kindOf_of_fieldsObject? hasFields) fun field isField => ?_
          exact reads name value inner fields isPair hasPair hasFields isRead field
            (mem_filterMap_prop?.mp isField)
  · rename_i isShorthand
    cases found
    cases List.mem_singleton.mp isProp
    exact .shorthand ((isKey_of_shorthand isShorthand).of_mem_parts inProgram)
  · cases found
    cases List.mem_singleton.mp isProp
  · cases found
    cases isProp

theorem exists_of_mem_of_mapM {α β : Type} {f : α → Option β} {items : List α} {results : List β}
    (found : items.mapM f = some results) {result : β} (member : result ∈ results) :
    ∃ item ∈ items, f item = some result := by
  induction items generalizing results with
  | nil =>
      cases found
      cases member
  | cons item items induction =>
      simp only [List.mapM_cons, Option.bind_eq_bind, Option.bind_eq_some_iff, pure,
        Option.some.injEq] at found
      obtain ⟨first, isFirst, rest, areRest, rfl⟩ := found
      rcases List.mem_cons.mp member with rfl | inRest
      · exact ⟨item, .head _, isFirst⟩
      · obtain ⟨other, isItem, gives⟩ := induction areRest inRest
        exact ⟨other, .tail _ isItem, gives⟩

/-- All that the members of an object of a script declare. -/
theorem isDeclared_of_declared? (isOf : survey.IsOf program) {limit : Nat}
    (inProgram : object ∈ program.parts) {declared : List Declared}
    (found : declared? survey limit object = some declared) {prop : PropDecl}
    (isProp : .prop prop ∈ declared) : IsDeclared program prop := by
  induction limit generalizing object declared prop with
  | zero => cases found
  | succ limit induction =>
      rw [declared?, Option.map_eq_some_iff] at found
      obtain ⟨groups, areGroups, rfl⟩ := found
      obtain ⟨group, isGroup, inGroup⟩ := List.mem_flatten.mp isProp
      obtain ⟨member, isMember, gives⟩ := exists_of_mem_of_mapM areGroups isGroup
      have memberInProgram :=
        mem_parts_trans (mem_parts_of_mem_childNodes isMember) program inProgram
      refine isDeclared_of_memberDeclared? memberInProgram ?_ gives inGroup
      intro name value inner declared isPair hasPair hasFields isRead prop isProp
      have uses : Uses survey object inner :=
        ⟨member, isMember, name, value, isPair, hasPair, hasFields⟩
      exact induction (uses.inProgram isOf inProgram).1 isRead isProp

theorem isDeclared_of_declarations (isOf : survey.IsOf program) {candidate : Candidate}
    (inProgram : candidate.node ∈ program.parts) {prop : PropDecl}
    (isProp : .prop prop ∈ declarations survey program candidate) : IsDeclared program prop := by
  unfold declarations at isProp
  dsimp only at isProp
  cases hasObject : (survey.staticValue? candidate "propTypes").bind survey.object? with
  | none =>
      rw [hasObject] at isProp
      cases isProp
  | some object =>
      have objectInProgram := (isOf.staticObject? inProgram hasObject).1
      rw [hasObject, Option.bind_some] at isProp
      cases isRead : declared? survey (program.count .object + 1) object with
      | none =>
          rw [isRead] at isProp
          cases isProp
      | some declared =>
          rw [isRead] at isProp
          exact isDeclared_of_declared? isOf objectInProgram isRead isProp

mutual

theorem mem_parts_of_objectPattern? {pattern : Node} : (node : Node) →
    objectPattern? node = some pattern → pattern ∈ node.parts
  | .mk kind text children, found => by
      unfold objectPattern? at found
      rw [parts]
      split at found
      · rename_i same
        cases same
        cases found
        exact .head _
      · rename_i same
        cases same
        exact .tail _ (mem_parts_of_inRole? .left _ found)
      · rename_i same
        cases same
        exact .tail _ (mem_parts_of_inRole? .pattern _ found)
      · rename_i same
        cases same
        exact .tail _ (mem_parts_of_inside? _ found)
      · cases found

theorem mem_parts_of_inRole? {pattern : Node} (role : Role) : (children : List (Role × Node)) →
    objectPattern?.inRole? role children = some pattern → pattern ∈ childParts children
  | [], found => by simp [objectPattern?.inRole?] at found
  | (own, child) :: more, found => by
      rw [objectPattern?.inRole?] at found
      rw [childParts, List.mem_append]
      split at found
      · exact .inl (mem_parts_of_objectPattern? child found)
      · exact .inr (mem_parts_of_inRole? role more found)

theorem mem_parts_of_inside? {pattern : Node} : (children : List (Role × Node)) →
    objectPattern?.inside? children = some pattern → pattern ∈ childParts children
  | [], found => by simp [objectPattern?.inside?] at found
  | (_, child) :: more, found => by
      rw [objectPattern?.inside?] at found
      rw [childParts, List.mem_append]
      split at found
      · exact .inl (mem_parts_of_objectPattern? child found)
      · exact .inr (mem_parts_of_inside? more found)

end

theorem mem_parts_of_firstParameter? {node parameter : Node}
    (found : firstParameter? node = some parameter) : parameter ∈ node.parts := by
  unfold firstParameter? at found
  rcases Option.or_eq_some_iff.mp found with isOnly | ⟨_, isFirst⟩
  · exact mem_parts_of_child? isOnly
  · obtain ⟨parameters, hasParameters, isFound⟩ := Option.bind_eq_some_iff.mp isFirst
    exact mem_parts_trans (mem_parts_of_mem_childNodes (List.mem_of_find?_eq_some isFound)) node
      (mem_parts_of_child? hasParameters)

theorem isKey_of_patternDefault? {member : Node} {default : Default}
    (found : patternDefault? member = some default) : IsKey member default.1 := by
  unfold patternDefault? at found
  split at found
  · simp only [Option.bind_eq_bind, Option.bind_eq_some_iff, pure, Option.some.injEq] at found
    obtain ⟨left, isLeft, _, named, _, _, rfl⟩ := found
    exact isKey_of_child? isLeft named
  · simp only [Option.bind_eq_bind, Option.bind_eq_some_iff] at found
    obtain ⟨key, isChild, value, _, found⟩ := found
    split at found
    · simp only [Option.bind_eq_some_iff, pure, Option.some.injEq] at found
      obtain ⟨_, named, _, _, rfl⟩ := found
      exact isKey_of_child? isChild named
    · cases found
  · cases found

theorem isKey_of_objectDefault? {member : Node} {default : Default}
    (found : objectDefault? member = some default) : IsKey member default.1 := by
  unfold objectDefault? at found
  split at found
  · simp only [Option.bind_eq_bind, Option.bind_eq_some_iff, pure, Option.some.injEq] at found
    obtain ⟨key, isChild, _, named, _, _, rfl⟩ := found
    exact isKey_of_child? isChild named
  · cases found

theorem isKey_of_mem_parameterDefaults {node : Node} {default : Default}
    (isDefault : default ∈ parameterDefaults node) : IsKey node default.1 := by
  unfold parameterDefaults at isDefault
  split at isDefault
  · rename_i pattern hasPattern
    obtain ⟨parameter, isFirst, isPattern⟩ := Option.bind_eq_some_iff.mp hasPattern
    obtain ⟨member, isMember, gives⟩ := List.mem_filterMap.mp isDefault
    have inParameter := mem_parts_of_objectPattern? parameter isPattern
    have inNode := mem_parts_trans inParameter node (mem_parts_of_firstParameter? isFirst)
    exact ((isKey_of_patternDefault? gives).of_mem_parts
      (mem_parts_of_mem_childNodes isMember)).of_mem_parts inNode
  · cases isDefault

theorem isKey_of_mem_objectDefaults {default : Default}
    (isDefault : default ∈ objectDefaults object) : IsKey object default.1 := by
  obtain ⟨member, isMember, gives⟩ := List.mem_filterMap.mp isDefault
  exact (isKey_of_objectDefault? gives).of_mem_parts (mem_parts_of_mem_childNodes isMember)

theorem isKey_of_mem_defaultsOf (isOf : survey.IsOf program) {candidate : Candidate}
    (inProgram : candidate.node ∈ program.parts) {default : Default}
    (isDefault : default ∈ defaultsOf survey candidate) : IsKey program default.1 := by
  unfold defaultsOf at isDefault
  dsimp only at isDefault
  rcases List.mem_append.mp isDefault with ofParameter | ofStatic
  · split at ofParameter
    · cases ofParameter
    · exact (isKey_of_mem_parameterDefaults ofParameter).of_mem_parts inProgram
  · cases hasObject : (survey.staticValue? candidate "defaultProps").bind survey.object? with
    | none =>
        rw [hasObject] at ofStatic
        cases ofStatic
    | some object =>
        have objectInProgram := (isOf.staticObject? inProgram hasObject).1
        rw [hasObject] at ofStatic
        exact (isKey_of_mem_objectDefaults ofStatic).of_mem_parts objectInProgram

/-- A prop of a component: declared, with or without a default, or known only by its default. -/
inductive IsExtracted (program : Node) : PropDecl → Prop
  | declared {prop : PropDecl} (isDeclared : IsDeclared program prop) : IsExtracted program prop
  | defaulted {prop : PropDecl} (isDeclared : IsDeclared program prop) (text : String) :
      IsExtracted program { prop with declaredDefault := some text }
  | untyped {name : String} (isKey : IsKey program name) (text : String) :
      IsExtracted program (.untyped name text)

theorem IsExtracted.attach {prop : PropDecl} (isExtracted : IsExtracted program prop)
    (text : String) : IsExtracted program { prop with declaredDefault := some text } := by
  cases isExtracted with
  | declared isDeclared => exact .defaulted isDeclared text
  | defaulted isDeclared _ => exact .defaulted isDeclared text
  | untyped isKey _ => exact .untyped isKey text

theorem isExtracted_attachDefault {props : List PropDecl} {default : Default}
    (areExtracted : ∀ prop ∈ props, IsExtracted program prop) (isKey : IsKey program default.1) :
    ∀ prop ∈ attachDefault props default, IsExtracted program prop := by
  induction props with
  | nil =>
      intro prop member
      rw [List.mem_singleton.mp member]
      exact .untyped isKey default.2
  | cons first more induction =>
      intro prop member
      rw [attachDefault] at member
      split at member
      · rcases List.mem_cons.mp member with rfl | inMore
        · exact (areExtracted first (.head _)).attach default.2
        · exact areExtracted prop (.tail _ inMore)
      · rcases List.mem_cons.mp member with rfl | inMore
        · exact areExtracted prop (.head _)
        · exact induction (fun other isOther => areExtracted other (.tail _ isOther)) prop inMore

theorem isExtracted_attachDefaults {props : List PropDecl} {defaults : List Default}
    (areExtracted : ∀ prop ∈ props, IsExtracted program prop)
    (areKeys : ∀ default ∈ defaults, IsKey program default.1) :
    ∀ prop ∈ attachDefaults props defaults, IsExtracted program prop := by
  induction defaults generalizing props with
  | nil => exact areExtracted
  | cons default defaults induction =>
      exact induction (isExtracted_attachDefault areExtracted (areKeys default (.head _)))
        fun other isOther => areKeys other (.tail _ isOther)

theorem exists_candidate_of_ofProgram {found : Extract}
    (extracted : ofProgram program = .ok found) :
    ∃ candidate, (Survey.ofProgram program).resolve? = some candidate ∧
      found = extractFrom (Survey.ofProgram program) program candidate := by
  unfold ofProgram at extracted
  dsimp only at extracted
  split at extracted
  · rename_i candidate resolved
    cases extracted
    exact ⟨candidate, resolved, rfl⟩
  · cases extracted

theorem isExtracted_of_ofProgram {found : Extract} (extracted : ofProgram program = .ok found)
    {prop : PropDecl} (isProp : prop ∈ found.component.props.getD []) :
    IsExtracted program prop := by
  have isOf := Survey.isOf_ofProgram program
  obtain ⟨candidate, resolved, rfl⟩ := exists_candidate_of_ofProgram extracted
  have inProgram := isOf.resolve? resolved
  unfold extractFrom at isProp
  dsimp only at isProp
  split at isProp
  · cases isProp
  · refine isExtracted_attachDefaults (fun declared isDeclared => ?_) (fun default => ?_) prop isProp
    · exact .declared (isDeclared_of_declarations isOf inProgram (mem_filterMap_prop?.mp isDeclared))
    · exact isKey_of_mem_defaultsOf isOf inProgram

theorem extract_of_toOption {path source : String} {found : Extract}
    (isFound : (extract path source).toOption = some found) : extract path source = .ok found :=
  toOption_eq_some.mp isFound

theorem exists_read_of_extract {path source : String} {found : Extract}
    (extracted : extract path source = .ok found) :
    ∃ dialect program, Dialect.ofPath? path.toList = some dialect ∧
      Module.read? dialect source.toList = some program ∧ ofProgram program = .ok found := by
  unfold extract at extracted
  split at extracted
  · rename_i dialect isDialect
    unfold ofSource at extracted
    split at extracted
    · rename_i program read
      exact ⟨dialect, program, isDialect, read, extracted⟩
    · cases extracted
  · cases extracted

end SnapshotGen.Extraction
