import Mathlib.Data.List.Forall2
import SnapshotGen.Extraction.DeclaredTypes

/-!
The members of an object of types. A member with a static name declares one prop, a shape with what
is read of one more object; the others declare none.
-/

namespace SnapshotGen.Extraction

open Script Script.Node

/-- The name of a member of an object literal, unless it has to be computed: that of a pair is its
key, that of a shorthand member its text. Nothing else has a name here. -/
def memberName? (member : Node) : Option String :=
  match member.kind with
  | .pair => (member.child? .key).bind fun key => (member.child? .value).bind fun _ => key.key?
  | .shorthand => some member.text
  | _ => none

variable {survey : Survey} {member value inner : Node} {name : String}
  {read? : Node → Option (List Declared)} {declared : List Declared}

theorem memberName?_of_pair? (isPair : member.kind = .pair) :
    memberName? member = (pair? member).map (·.1) := by
  unfold memberName? pair?
  rw [isPair]
  cases member.child? .key with
  | none => rfl
  | some key =>
      cases member.child? .value with
      | none => cases key.key? <;> simp
      | some value => cases named : key.key? <;> simp [named]

theorem memberName?_of_shorthand (isShorthand : member.kind = .shorthand) :
    memberName? member = some member.text := by
  rw [memberName?, isShorthand]

/-- What a member declares whose type is a shape, once its object is read. -/
def shapeDeclared (name : String) (value : Node) (inner : List Declared) : List Declared :=
  (inner.filterMap Declared.spread?).map .spread ++
    [.prop (declaredProp name value (some (inner.filterMap Declared.prop?)))]

/-- The members that are told apart: one without a static name, a shorthand member, a pair with a
type, and a pair with a shape whose object is found. -/
inductive MemberCase (survey : Survey) (member : Node) : Prop
  | nameless (nameless : memberName? member = none)
  | shorthand (isShorthand : member.kind = .shorthand)
  | plain {name : String} {value : Node} (isPair : member.kind = .pair)
      (hasPair : pair? member = some (name, value))
      (noFields : fieldsObject? survey (splitRequired value).1 = none)
  | shape {name : String} {value inner : Node} (isPair : member.kind = .pair)
      (hasPair : pair? member = some (name, value))
      (hasFields : fieldsObject? survey (splitRequired value).1 = some inner)

theorem memberCase (survey : Survey) (member : Node) : MemberCase survey member := by
  by_cases isPair : member.kind = .pair
  · cases hasPair : pair? member with
    | none => exact .nameless (by rw [memberName?_of_pair? isPair, hasPair]; rfl)
    | some entry =>
        obtain ⟨name, value⟩ := entry
        cases hasFields : fieldsObject? survey (splitRequired value).1 with
        | none => exact .plain isPair hasPair hasFields
        | some inner => exact .shape isPair hasPair hasFields
  · by_cases isShorthand : member.kind = .shorthand
    · exact .shorthand isShorthand
    · refine .nameless ?_
      unfold memberName?
      split
      · contradiction
      · contradiction
      · rfl

theorem exists_memberDeclared?_of_nameless (survey : Survey)
    (nameless : memberName? member = none) :
    ∃ declared, (∀ read?, memberDeclared? survey read? member = some declared) ∧
      declared.filterMap Declared.prop? = [] := by
  cases isKind : member.kind with
  | pair =>
      rw [memberName?_of_pair? isKind, Option.map_eq_none_iff] at nameless
      exact ⟨[], fun read? => by rw [memberDeclared?, isKind, nameless], rfl⟩
  | shorthand => simp [memberName?_of_shorthand isKind] at nameless
  | spread => exact ⟨[.spread member.text], fun read? => by rw [memberDeclared?, isKind], rfl⟩
  | _ => exact ⟨[], fun read? => by rw [memberDeclared?, isKind], rfl⟩

theorem memberDeclared?_of_shorthand (isShorthand : member.kind = .shorthand) :
    memberDeclared? survey read? member = some [.prop (shorthandProp member.text)] := by
  rw [memberDeclared?, isShorthand]

theorem memberDeclared?_of_plain (isPair : member.kind = .pair)
    (hasPair : pair? member = some (name, value))
    (noFields : fieldsObject? survey (splitRequired value).1 = none) :
    memberDeclared? survey read? member = some [.prop (declaredProp name value none)] := by
  rw [memberDeclared?, isPair, hasPair]
  dsimp only
  rw [noFields]

theorem memberDeclared?_of_shape (isPair : member.kind = .pair)
    (hasPair : pair? member = some (name, value))
    (hasFields : fieldsObject? survey (splitRequired value).1 = some inner) :
    memberDeclared? survey read? member = (read? inner).map (shapeDeclared name value) := by
  rw [memberDeclared?, isPair, hasPair]
  dsimp only
  rw [hasFields]
  cases isRead : read? inner <;> simp [isRead, shapeDeclared]

theorem filterMap_prop?_shapeDeclared (name : String) (value : Node) (inner : List Declared) :
    (shapeDeclared name value inner).filterMap Declared.prop? =
      [declaredProp name value (some (inner.filterMap Declared.prop?))] := by
  simp [shapeDeclared, Declared.prop?, Function.comp_def]

theorem mapM_eq_some_iff {α β : Type} {f : α → Option β} {items : List α} {results : List β} :
    items.mapM f = some results ↔ List.Forall₂ (fun item result => f item = some result)
      items results := by
  induction items generalizing results with
  | nil =>
      rw [List.mapM_nil, List.forall₂_nil_left_iff]
      exact ⟨fun same => (Option.some.inj same).symm, fun same => congrArg some same.symm⟩
  | cons item items induction =>
      simp only [List.mapM_cons, Option.bind_eq_bind, Option.bind_eq_some_iff, pure,
        Option.some.injEq, induction]
      constructor
      · rintro ⟨first, isFirst, rest, areRest, rfl⟩
        exact .cons isFirst areRest
      · rintro (_ | ⟨isFirst, areRest⟩)
        exact ⟨_, isFirst, _, areRest, rfl⟩

theorem exists_of_mem_of_forall₂ {α β : Type} {R : α → β → Prop} {items : List α} {results : List β}
    (related : List.Forall₂ R items results) {item : α} (isItem : item ∈ items) :
    ∃ result ∈ results, R item result := by
  induction related with
  | nil => cases isItem
  | @cons first result _ _ isFirst _ induction =>
      rcases List.mem_cons.mp isItem with rfl | inRest
      · exact ⟨result, .head _, isFirst⟩
      · obtain ⟨other, isOther, others⟩ := induction inRest
        exact ⟨other, .tail _ isOther, others⟩

/-- Groups of declarations, one for each member, read with at most so many objects inside one
another. -/
abbrev ReadWithin (survey : Survey) (limit : Nat) (members : List Node)
    (groups : List (List Declared)) : Prop :=
  List.Forall₂ (fun member group =>
    memberDeclared? survey (declared? survey limit) member = some group) members groups

theorem declared?_succ_eq_some_iff {limit : Nat} {object : Node} :
    declared? survey (limit + 1) object = some declared ↔
      ∃ groups, ReadWithin survey limit object.childNodes groups ∧ groups.flatten = declared := by
  simp only [declared?, Option.map_eq_some_iff, mapM_eq_some_iff]

end SnapshotGen.Extraction
