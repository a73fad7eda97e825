import SnapshotGen.Proofs.Extraction.Endless
import SnapshotGen.Proofs.Extraction.Props
import SnapshotGen.Proofs.Extraction.TypeLayout

/-!
What an object of types tells of the props of a component, said member by member without a bound on
objects inside one another; and that reading, where it ends, finds just that.
-/

namespace SnapshotGen

theorem PropKind.ofTag?_eq_some_iff {text : String} {kind : PropKind} :
    PropKind.ofTag? text = some kind ↔ kind.tag = text := by
  constructor
  · intro found
    simpa using List.find?_some found
  · rintro rfl
    cases kind <;> rfl

namespace Extraction

open Script Script.Node

variable {survey : Survey} {object member type value : Node} {tag : String} {kind : PropKind}

/-- A member of one of the namespaces of types, with its tag: `PropTypes.tag`. -/
inductive Tagged : Node → String → Prop
  | member {type scope property : Node} (isMember : type.kind = .member)
      (hasScope : type.child? .object = some scope) (isNamespace : scope.text ∈ typeNamespaces)
      (hasTag : type.child? .property = some property) : Tagged type property.text

theorem tagged_iff : Tagged type tag ↔ typeTag? type = some tag := by
  rw [typeTag?_eq_some]
  constructor
  · rintro ⟨isMember, hasScope, isNamespace, hasTag⟩
    exact ⟨isMember, _, _, hasScope, isNamespace, hasTag, rfl⟩
  · rintro ⟨isMember, scope, property, hasScope, isNamespace, hasTag, rfl⟩
    exact .member isMember hasScope isNamespace hasTag

def calledTags : List (String × PropKind) :=
  [("shape", .shape), ("exact", .exact), ("arrayOf", .arrayOf), ("objectOf", .objectOf),
    ("oneOf", .enum), ("oneOfType", .union), ("instanceOf", .instanceOf)]

theorem mem_calledTags_iff : (tag, kind) ∈ calledTags ↔ calledKind? tag = some kind := by
  constructor
  · intro member
    simp only [calledTags, List.mem_cons, Prod.mk.injEq, List.not_mem_nil, or_false] at member
    rcases member with ⟨rfl, rfl⟩ | ⟨rfl, rfl⟩ | ⟨rfl, rfl⟩ | ⟨rfl, rfl⟩ | ⟨rfl, rfl⟩ | ⟨rfl, rfl⟩ |
      ⟨rfl, rfl⟩ <;> rfl
  · intro called
    unfold calledKind? at called
    split at called <;> first
      | contradiction
      | (cases called; decide)

/-- The kind of a type: that of its tag, or that of the tag that it calls. Any other type is of a
custom kind. -/
inductive OfKind : Node → PropKind → Prop
  | tagged {type : Node} {kind : PropKind} (tagged : Tagged type kind.tag) : OfKind type kind
  | called {type callee : Node} {tag : String} {kind : PropKind} (isCall : type.kind = .call)
      (hasCallee : type.child? .callee = some callee) (tagged : Tagged callee tag)
      (known : (tag, kind) ∈ calledTags) : OfKind type kind
  | custom {type : Node} (untagged : ∀ kind : PropKind, ¬Tagged type kind.tag)
      (uncalled : ∀ callee tag kind, type.kind = .call → type.child? .callee = some callee →
        Tagged callee tag → (tag, kind) ∉ calledTags) : OfKind type .custom

theorem kindOf_of_tagged (tagged : Tagged type kind.tag) : kindOf type = kind := by
  have hasTag := tagged_iff.mp tagged
  have isMember := (typeTag?_eq_some.mp hasTag).1
  rw [kindOf, isMember]
  dsimp only
  rw [hasTag, Option.bind_some, PropKind.ofTag?_eq_some_iff.mpr rfl, Option.getD_some]

theorem kindOf_of_called {callee : Node} (isCall : type.kind = .call)
    (hasCallee : type.child? .callee = some callee) (tagged : Tagged callee tag)
    (known : (tag, kind) ∈ calledTags) : kindOf type = kind := by
  rw [kindOf, isCall]
  dsimp only
  rw [hasCallee, Option.bind_some, tagged_iff.mp tagged, Option.bind_some,
    mem_calledTags_iff.mp known, Option.getD_some]

theorem kindOf_eq_custom (untagged : ∀ kind : PropKind, ¬Tagged type kind.tag)
    (uncalled : ∀ callee tag kind, type.kind = .call → type.child? .callee = some callee →
      Tagged callee tag → (tag, kind) ∉ calledTags) : kindOf type = .custom := by
  by_contra known
  obtain ⟨member, tag, isNamed, hasTag⟩ := exists_typeTag?_of_kindOf_ne known
  rw [kindOf_eq, isNamed, Option.bind_some, hasTag, Option.bind_some] at known
  cases ofTag : kindOfTag? type.kind tag with
  | none => exact known (by rw [ofTag, Option.getD_none])
  | some kind =>
      unfold typeMember? at isNamed
      split at isNamed
      · rename_i isMember
        cases isNamed
        rw [kindOfTag?, isMember, if_neg nofun, PropKind.ofTag?_eq_some_iff] at ofTag
        exact untagged kind (tagged_iff.mpr (ofTag ▸ hasTag))
      · rename_i isCall
        rw [kindOfTag?, if_pos isCall] at ofTag
        exact uncalled member tag kind isCall isNamed (tagged_iff.mpr hasTag)
          (mem_calledTags_iff.mpr ofTag)
      · cases isNamed

theorem ofKind_iff : OfKind type kind ↔ kindOf type = kind := by
  constructor
  · intro ofKind
    cases ofKind with
    | tagged tagged => exact kindOf_of_tagged tagged
    | called isCall hasCallee tagged known => exact kindOf_of_called isCall hasCallee tagged known
    | custom untagged uncalled => exact kindOf_eq_custom untagged uncalled
  · rintro rfl
    by_cases tagged : ∃ kind : PropKind, Tagged type kind.tag
    · obtain ⟨kind, tagged⟩ := tagged
      exact kindOf_of_tagged tagged ▸ .tagged tagged
    · by_cases called : ∃ callee tag kind, type.kind = .call ∧ type.child? .callee = some callee ∧
          Tagged callee tag ∧ (tag, kind) ∈ calledTags
      · obtain ⟨callee, tag, kind, isCall, hasCallee, tagged, known⟩ := called
        exact kindOf_of_called isCall hasCallee tagged known ▸
          .called isCall hasCallee tagged known
      · have untagged (kind : PropKind) : ¬Tagged type kind.tag :=
          fun isTagged => tagged ⟨kind, isTagged⟩
        have uncalled (callee : Node) (tag : String) (kind : PropKind) (isCall : type.kind = .call)
            (hasCallee : type.child? .callee = some callee) (isTagged : Tagged callee tag) :
            (tag, kind) ∉ calledTags :=
          fun known => called ⟨callee, tag, kind, isCall, hasCallee, isTagged, known⟩
        exact kindOf_eq_custom untagged uncalled ▸ .custom untagged uncalled

/-- A type in front of the mark `.isRequired`. -/
inductive Marked : Node → Node → Prop
  | mk {marked type property : Node} (isMember : marked.kind = .member)
      (hasMark : marked.child? .property = some property) (isMark : property.text = requiredMember)
      (hasType : marked.child? .object = some type) : Marked marked type

/-- The type that a value stands for, and whether it is required: it is if the outermost expression
in the value's parentheses has the mark. -/
inductive Marks : Node → Node → Bool → Prop
  | required {value type : Node} (marked : Marked value.unparenthesized type) :
      Marks value type true
  | optional {value : Node} (unmarked : ∀ type, ¬Marked value.unparenthesized type) :
      Marks value value.unparenthesized false

theorem splitRequired_of_marked (marked : Marked value.unparenthesized type) :
    splitRequired value = (type, true) := by
  obtain ⟨isMember, hasMark, isMark, hasType⟩ := marked
  simp [splitRequired, isMember, hasMark, isMark, hasType]

theorem splitRequired_of_unmarked (unmarked : ∀ type, ¬Marked value.unparenthesized type) :
    splitRequired value = (value.unparenthesized, false) := by
  unfold splitRequired
  dsimp only
  split
  · rename_i hasMark
    obtain ⟨isMember, hasMark⟩ := Bool.and_eq_true_iff.mp hasMark
    obtain ⟨property, isProperty, isMark⟩ := (Option.any_eq_true ..).mp hasMark
    split
    · rename_i type hasType
      exact absurd (.mk (of_decide_eq_true isMember) isProperty (beq_iff_eq.mp isMark) hasType)
        (unmarked type)
    · rfl
  · rfl

theorem marks_iff {required : Bool} :
    Marks value type required ↔ splitRequired value = (type, required) := by
  constructor
  · intro marks
    cases marks with
    | required marked => exact splitRequired_of_marked marked
    | optional unmarked => exact splitRequired_of_unmarked unmarked
  · intro same
    by_cases marked : ∃ type, Marked value.unparenthesized type
    · obtain ⟨type, marked⟩ := marked
      cases (splitRequired_of_marked marked).symm.trans same
      exact .required marked
    · have unmarked (type : Node) : ¬Marked value.unparenthesized type :=
        fun isMarked => marked ⟨type, isMarked⟩
      cases (splitRequired_of_unmarked unmarked).symm.trans same
      exact .optional unmarked

/-- A shape has the object for its fields that its first argument stands for, written out or
through variables. -/
inductive HasFields (survey : Survey) : Node → Node → Prop
  | mk {type argument object : Node} (isCall : type.kind = .call)
      (isShape : OfKind type .shape ∨ OfKind type .exact)
      (isFirst : type.givenArguments.head? = some argument)
      (isObject : survey.object? argument = some object) : HasFields survey type object

theorem hasFields_iff : HasFields survey type object ↔ fieldsObject? survey type = some object := by
  constructor
  · rintro ⟨isCall, isShape, isFirst, isObject⟩
    rw [ofKind_iff, ofKind_iff] at isShape
    simp [fieldsObject?, isCall, isShape, isFirst, isObject]
  · intro found
    have isShape := kindOf_of_fieldsObject? found
    unfold fieldsObject? at found
    split at found
    · rename_i isCall
      obtain ⟨argument, isFirst, isObject⟩ := Option.bind_eq_some_iff.mp found
      refine .mk (of_decide_eq_true (Bool.and_eq_true_iff.mp isCall).1) ?_ isFirst isObject
      rwa [ofKind_iff, ofKind_iff]
    · cases found

/-- The name that a key spells: a word or a number as it stands, a string without its quotes. -/
inductive Spells : Node → String → Prop
  | word {key : Node} (isWord : key.kind ∈ [.identifier, .shorthand, .privateName, .number]) :
      Spells key key.text
  | string {key : Node} (isString : key.kind = .string) : Spells key (unquoted key.text)

theorem spells_iff {key : Node} {name : String} : Spells key name ↔ key.key? = some name := by
  constructor
  · intro spells
    cases spells with
    | word isWord =>
        simp only [List.mem_cons, List.not_mem_nil, or_false] at isWord
        rcases isWord with isKind | isKind | isKind | isKind <;> rw [key?, isKind]
    | string isString => simp [key?, stringValue?, isString]
  · intro named
    unfold key? at named
    split at named
    case h_5 isString =>
      rw [stringValue?, if_pos isString] at named
      cases named
      exact .string isString
    case h_6 => cases named
    all_goals
      cases named
      exact .word (by simp [*])

/-- A pair of a key with a static name and a value. -/
inductive Pairs : Node → String → Node → Prop
  | mk {member key value : Node} {name : String} (isPair : member.kind = .pair)
      (hasKey : member.child? .key = some key) (spells : Spells key name)
      (hasValue : member.child? .value = some value) : Pairs member name value

theorem pairs_iff {name : String} :
    Pairs member name value ↔ member.kind = .pair ∧ pair? member = some (name, value) := by
  constructor
  · rintro ⟨isPair, hasKey, spells, hasValue⟩
    refine ⟨isPair, ?_⟩
    simp [pair?, hasKey, spells_iff.mp spells, hasValue]
  · rintro ⟨isPair, found⟩
    simp only [pair?, Option.bind_eq_bind, Option.bind_eq_some_iff, pure, Option.some.injEq,
      Prod.mk.injEq] at found
    obtain ⟨key, hasKey, _, named, _, hasValue, rfl, rfl⟩ := found
    exact .mk isPair hasKey (spells_iff.mpr named) hasValue

mutual

/-- The prop that a member of an object of types tells of. -/
inductive Tells (survey : Survey) : Node → PropDecl → Prop
  | shorthand {member : Node} (isShorthand : member.kind = .shorthand) :
      Tells survey member ⟨member.text, some ⟨some .custom, some member.text, none⟩, false, none⟩
  | plain {member value type : Node} {name : String} {kind : PropKind} {required : Bool}
      (pairs : Pairs member name value) (marks : Marks value type required)
      (ofKind : OfKind type kind) (noFields : ∀ object, ¬HasFields survey type object) :
      Tells survey member ⟨name, some ⟨some kind, some value.text, none⟩, required, none⟩
  | shape {member value type object : Node} {name : String} {kind : PropKind} {required : Bool}
      {fields : List PropDecl} (pairs : Pairs member name value) (marks : Marks value type required)
      (ofKind : OfKind type kind) (hasFields : HasFields survey type object)
      (tellAll : TellAll survey object.childNodes fields) :
      Tells survey member ⟨name, some ⟨some kind, some value.text, some fields⟩, required, none⟩

/-- The props that members of an object of types tell of: one for each member with a static name, in
the order of the members. -/
inductive TellAll (survey : Survey) : List Node → List PropDecl → Prop
  | nil : TellAll survey [] []
  | named {member : Node} {prop : PropDecl} {members : List Node} {props : List PropDecl}
      (tells : Tells survey member prop) (tellAll : TellAll survey members props) :
      TellAll survey (member :: members) (prop :: props)
  | nameless {member : Node} {members : List Node} {props : List PropDecl}
      (nameless : memberName? member = none) (tellAll : TellAll survey members props) :
      TellAll survey (member :: members) props

end

/-- The props that are read of an object of types, where reading ends. -/
def ReadAs (survey : Survey) (object : Node) (props : List PropDecl) : Prop :=
  ∃ limit declared, declared? survey limit object = some declared ∧
    declared.filterMap Declared.prop? = props

theorem declaredProp_eq {name : String} {required : Bool} {fields : Option (List PropDecl)}
    (marks : Marks value type required) (ofKind : OfKind type kind) :
    declaredProp name value fields =
      ⟨name, some ⟨some kind, some value.text, fields⟩, required, none⟩ := by
  rw [declaredProp, marks_iff.mp marks]
  dsimp only
  rw [ofKind_iff.mp ofKind]

theorem marks_splitRequired (value : Node) :
    Marks value (splitRequired value).1 (splitRequired value).2 :=
  marks_iff.mpr rfl

theorem ofKind_kindOf (type : Node) : OfKind type (kindOf type) :=
  ofKind_iff.mpr rfl

/-- What a member tells of is what it declares, if that is so of the object of a shape. -/
theorem tells_of_memberDeclared? {read? : Node → Option (List Declared)} {declared : List Declared}
    (reads : ∀ inner declared, read? inner = some declared →
      TellAll survey inner.childNodes (declared.filterMap Declared.prop?))
    (isRead : memberDeclared? survey read? member = some declared) :
    (memberName? member = none ∧ declared.filterMap Declared.prop? = []) ∨
      ∃ prop, Tells survey member prop ∧ declared.filterMap Declared.prop? = [prop] := by
  cases memberCase survey member with
  | nameless nameless =>
      obtain ⟨always, isAlways, noProp⟩ := exists_memberDeclared?_of_nameless survey nameless
      cases (isAlways read?).symm.trans isRead
      exact .inl ⟨nameless, noProp⟩
  | shorthand isShorthand =>
      cases (memberDeclared?_of_shorthand isShorthand).symm.trans isRead
      exact .inr ⟨_, .shorthand isShorthand, rfl⟩
  | @plain name value isPair hasPair noFields =>
      cases (memberDeclared?_of_plain isPair hasPair noFields).symm.trans isRead
      have noObject (object : Node) : ¬HasFields survey (splitRequired value).1 object := by
        rw [hasFields_iff, noFields]
        nofun
      refine .inr ⟨declaredProp name value none, ?_, rfl⟩
      exact .plain (pairs_iff.mpr ⟨isPair, hasPair⟩) (marks_splitRequired value)
        (ofKind_kindOf _) noObject
  | @shape name value inner isPair hasPair hasFields =>
      rw [memberDeclared?_of_shape isPair hasPair hasFields, Option.map_eq_some_iff] at isRead
      obtain ⟨fields, isInner, rfl⟩ := isRead
      refine .inr ⟨_, ?_, filterMap_prop?_shapeDeclared name value fields⟩
      exact .shape (pairs_iff.mpr ⟨isPair, hasPair⟩) (marks_splitRequired value) (ofKind_kindOf _)
        (hasFields_iff.mpr hasFields) (reads inner fields isInner)

theorem tellAll_of_groups {read? : Node → Option (List Declared)} {members : List Node}
    {groups : List (List Declared)}
    (reads : ∀ inner declared, read? inner = some declared →
      TellAll survey inner.childNodes (declared.filterMap Declared.prop?))
    (areRead : List.Forall₂ (fun member group => memberDeclared? survey read? member = some group)
      members groups) : TellAll survey members (groups.flatten.filterMap Declared.prop?) := by
  induction areRead with
  | nil => exact .nil
  | cons isRead _ induction =>
      rw [List.flatten_cons, List.filterMap_append]
      rcases tells_of_memberDeclared? reads isRead with ⟨nameless, noProp⟩ | ⟨prop, tells, isProp⟩
      · rw [noProp]
        exact .nameless nameless induction
      · rw [isProp]
        exact .named tells induction

theorem tellAll_of_declared? {limit : Nat} {declared : List Declared}
    (isRead : declared? survey limit object = some declared) :
    TellAll survey object.childNodes (declared.filterMap Declared.prop?) := by
  induction limit generalizing object declared with
  | zero => cases isRead
  | succ limit induction =>
      obtain ⟨groups, areRead, rfl⟩ := declared?_succ_eq_some_iff.mp isRead
      exact tellAll_of_groups (fun _ _ => induction) areRead

theorem fieldsObject?_eq_none {required : Bool} (marks : Marks value type required)
    (noFields : ∀ object, ¬HasFields survey type object) :
    fieldsObject? survey (splitRequired value).1 = none := by
  rw [marks_iff.mp marks, Option.eq_none_iff_forall_ne_some]
  exact fun object found => noFields object (hasFields_iff.mpr found)

theorem fieldsObject?_eq_some {required : Bool} (marks : Marks value type required)
    (hasFields : HasFields survey type object) :
    fieldsObject? survey (splitRequired value).1 = some object := by
  rw [marks_iff.mp marks]
  exact hasFields_iff.mp hasFields

mutual

theorem exists_group_of_tells {member : Node} {prop : PropDecl} : Tells survey member prop →
    ∃ limit group, memberDeclared? survey (declared? survey limit) member = some group ∧
      group.filterMap Declared.prop? = [prop]
  | .shorthand isShorthand => ⟨0, _, memberDeclared?_of_shorthand isShorthand, rfl⟩
  | .plain pairs marks ofKind noFields => by
      obtain ⟨isPair, hasPair⟩ := pairs_iff.mp pairs
      have noObject := fieldsObject?_eq_none marks noFields
      refine ⟨0, _, memberDeclared?_of_plain isPair hasPair noObject, ?_⟩
      exact congrArg ([·]) (declaredProp_eq marks ofKind)
  | @Tells.shape _ _ value _ _ name _ _ _ pairs marks ofKind hasFields tellAll => by
      obtain ⟨isPair, hasPair⟩ := pairs_iff.mp pairs
      obtain ⟨limit, groups, areRead, rfl⟩ := exists_readWithin_of_tellAll tellAll
      have isObject := fieldsObject?_eq_some marks hasFields
      have isRead := declared?_succ_eq_some_iff.mpr ⟨groups, areRead, rfl⟩
      refine ⟨limit + 1, shapeDeclared name value groups.flatten, ?_, ?_⟩
      · rw [memberDeclared?_of_shape isPair hasPair isObject, isRead, Option.map_some]
      · rw [filterMap_prop?_shapeDeclared, declaredProp_eq marks ofKind]

theorem exists_readWithin_of_tellAll {members : List Node} {props : List PropDecl} :
    TellAll survey members props →
    ∃ limit groups, ReadWithin survey limit members groups ∧
      groups.flatten.filterMap Declared.prop? = props
  | .nil => ⟨0, [], .nil, rfl⟩
  | .named tells tellAll => by
      obtain ⟨_, group, isFirst, isProp⟩ := exists_group_of_tells tells
      obtain ⟨_, groups, areRest, same⟩ := exists_readWithin_of_tellAll tellAll
      obtain ⟨enough, areAll⟩ := exists_readWithin_cons isFirst areRest
      refine ⟨enough, group :: groups, areAll, ?_⟩
      rw [List.flatten_cons, List.filterMap_append, isProp, same, List.singleton_append]
  | .nameless nameless tellAll => by
      obtain ⟨limit, groups, areRead, same⟩ := exists_readWithin_of_tellAll tellAll
      obtain ⟨group, isGroup, noProp⟩ := exists_memberDeclared?_of_nameless survey nameless
      refine ⟨limit, group :: groups, .cons (isGroup _) areRead, ?_⟩
      rw [List.flatten_cons, List.filterMap_append, noProp, same, List.nil_append]

end

theorem readAs_iff_tellAll {props : List PropDecl} :
    ReadAs survey object props ↔ TellAll survey object.childNodes props := by
  constructor
  · rintro ⟨limit, declared, isRead, rfl⟩
    exact tellAll_of_declared? isRead
  · intro tellAll
    obtain ⟨limit, groups, areRead, same⟩ := exists_readWithin_of_tellAll tellAll
    exact ⟨limit + 1, _, declared?_succ_eq_some_iff.mpr ⟨groups, areRead, rfl⟩, same⟩

theorem memberName?_of_pairs {name : String} (pairs : Pairs member name value) :
    memberName? member = some name := by
  obtain ⟨isPair, hasPair⟩ := pairs_iff.mp pairs
  rw [memberName?_of_pair? isPair, hasPair, Option.map_some]

theorem memberName?_of_tells {prop : PropDecl} (tells : Tells survey member prop) :
    memberName? member = some prop.name := by
  cases tells with
  | shorthand isShorthand => exact memberName?_of_shorthand isShorthand
  | plain pairs _ _ _ => exact memberName?_of_pairs pairs
  | shape pairs _ _ _ _ => exact memberName?_of_pairs pairs

theorem map_name_of_tellAll {members : List Node} {props : List PropDecl} :
    TellAll survey members props → props.map (·.name) = members.filterMap memberName?
  | .nil => rfl
  | .named tells tellAll => by
      rw [List.map_cons, List.filterMap_cons_some (memberName?_of_tells tells),
        map_name_of_tellAll tellAll]
  | .nameless nameless tellAll => by
      rw [List.filterMap_cons_none nameless, map_name_of_tellAll tellAll]

theorem noDefault_of_tells {prop : PropDecl} (tells : Tells survey member prop) :
    prop.declaredDefault = none := by
  cases tells <;> rfl

theorem noDefault_of_tellAll {members : List Node} {props : List PropDecl} :
    TellAll survey members props → ∀ prop ∈ props, prop.declaredDefault = none
  | .nil => nofun
  | .named tells tellAll => by
      rw [List.forall_mem_cons]
      exact ⟨noDefault_of_tells tells, noDefault_of_tellAll tellAll⟩
  | .nameless _ tellAll => noDefault_of_tellAll tellAll

/-- Reading finds just what the members of an object tell of, at every depth; the names are those of
the members that have one, in their order. -/
theorem readAs_exactly (survey : Survey) (object : Node) (props : List PropDecl) :
    (ReadAs survey object props ↔ TellAll survey object.childNodes props) ∧
      (ReadAs survey object props →
        props.map (·.name) = object.childNodes.filterMap memberName?) := by
  refine ⟨readAs_iff_tellAll, fun isRead => ?_⟩
  exact map_name_of_tellAll (readAs_iff_tellAll.mp isRead)

/-- Members of every kind, one of them with a shape that a variable holds. -/
theorem readAs_exactly_card :
    let source := Text.ofLines [
      "const size = \x7b unit: A.b.isRequired \x7d;",
      "Card.propTypes = \x7b",
      "  'data-id': A, ...rest, size: PropTypes.exact(size), [key]: A, 7: A, label",
      "\x7d;"]
    ∃ program object props, Module.read? .javaScript source.toList = some program ∧
      typesObject? program = some object ∧
      ReadAs (Survey.ofProgram program) object props ∧
      TellAll (Survey.ofProgram program) object.childNodes props ∧
      object.childNodes.filterMap memberName? = ["data-id", "size", "7", "label"] ∧
      ∃ prop ∈ props, prop.shape?.map (·.map (·.name)) = some ["unit"] := by
  intro source
  have evaluated : (Module.read? .javaScript source.toList).any fun program =>
      (typesObject? program).any fun object =>
        (declared? (Survey.ofProgram program) 2 object).any fun declared =>
          let props := declared.filterMap Declared.prop?
          props.map (·.name) == ["data-id", "size", "7", "label"] &&
            props.any fun prop => prop.shape?.map (·.map (·.name)) == some ["unit"] := by
    decide +kernel
  obtain ⟨program, read, evaluated⟩ := (Option.any_eq_true ..).mp evaluated
  obtain ⟨object, isTypes, evaluated⟩ := (Option.any_eq_true ..).mp evaluated
  obtain ⟨declared, isRead, evaluated⟩ := (Option.any_eq_true ..).mp evaluated
  obtain ⟨names, shape⟩ := Bool.and_eq_true_iff.mp evaluated
  obtain ⟨prop, isProp, fields⟩ := List.any_eq_true.mp shape
  have readAs : ReadAs (Survey.ofProgram program) object (declared.filterMap Declared.prop?) :=
    ⟨2, declared, isRead, rfl⟩
  have exactly :=
    readAs_exactly (Survey.ofProgram program) object (declared.filterMap Declared.prop?)
  refine ⟨program, object, _, read, isTypes, readAs, exactly.1.mp readAs, ?_, ?_⟩
  · exact (exactly.2 readAs).symm.trans (beq_iff_eq.mp names)
  · exact ⟨prop, isProp, beq_iff_eq.mp fields⟩

end Extraction

end SnapshotGen
