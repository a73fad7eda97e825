import SnapshotGen.Script.Module
import SnapshotGen.Proofs.Script.Blanks
import SnapshotGen.Proofs.Script.Parts

/-!
What readers keep: no reader goes back in the text, and the nodes that it gives cover the text of
their children. A reader keeps both if the readers that it consists of do, so instances say so.
-/

namespace SnapshotGen.Script

/-- What a token reads in front of some text. -/
def IsToken (length : List Char → Nat) (text : String) : Prop :=
  ∃ cs, length cs ≠ 0 ∧ text.toList = cs.take (length cs)

namespace Node

/-- The text of a member is that of its object, something between, and that of its property.
Parentheses have more text than what they hold. Names and numbers have the text of one token; only a
name can be missing. -/
def Covers : Node → Prop
  | mk .member text children =>
    ∃ (object property : Node) (between : String),
      children = [(.object, object), (.property, property)] ∧
        text = object.text ++ between ++ property.text ∧ between ≠ ""
  | mk .parenthesized text children =>
    ∃ inner : Node, children = [(.part, inner)] ∧ inner.text.length < text.length
  | mk .identifier text _ => text = "" ∨ IsToken nameLength text
  | mk .shorthand text _ => IsToken nameLength text
  | mk .privateName text _ => IsToken privateNameLength text
  | mk .number text _ => IsToken numberLength text
  | _ => True

def Faithful (node : Node) : Prop :=
  ∀ part ∈ node.parts, part.Covers

theorem Faithful.of_children {kind : Kind} {text : String} {children : List (Role × Node)}
    (covers : (mk kind text children).Covers)
    (faithful : ∀ child ∈ children, child.2.Faithful) : (mk kind text children).Faithful := by
  intro part inNode
  rw [parts, List.mem_cons, mem_childParts_iff] at inNode
  rcases inNode with rfl | ⟨child, isChild, inChild⟩
  · exact covers
  · exact faithful child isChild part inChild

theorem Faithful.of_mem_parts {inner node : Node} (faithful : node.Faithful)
    (inNode : inner ∈ node.parts) : inner.Faithful :=
  fun _ inInner => faithful _ (mem_parts_trans inInner node inNode)

theorem Faithful.covers {node : Node} (faithful : node.Faithful) : node.Covers :=
  faithful node (mem_parts_self node)

end Node

/-- The text of nodes of this kind is not looked into. -/
@[reducible] def Kind.isPlain : Kind → Bool
  | .member | .parenthesized | .identifier | .shorthand | .privateName | .number => false
  | _ => true

theorem Node.covers_of_isPlain {kind : Kind} {text : String} {children : List (Role × Node)}
    (isPlain : kind.isPlain = true) : (Node.mk kind text children).Covers := by
  cases kind <;> first | contradiction | trivial

/-- A condition that instance search decides. -/
class Holds (condition : Bool) : Prop where
  holds : condition = true

instance holds_true : Holds true := ⟨rfl⟩

instance holds_isPlain_ite {condition : Bool} {first second : Kind} [Holds first.isPlain]
    [Holds second.isPlain] : Holds (Kind.isPlain (if condition then first else second)) := by
  split <;> infer_instance

/-- Values that hold nodes, with what it is for all of them to be faithful. -/
class Textual (α : Type) where
  IsFaithful : α → Prop

section Values

variable {α β : Type} [Textual α] [Textual β]

instance textual_node : Textual Node := ⟨Node.Faithful⟩

instance textual_unit : Textual Unit := ⟨fun _ => True⟩

instance textual_bool : Textual Bool := ⟨fun _ => True⟩

instance textual_string : Textual String := ⟨fun _ => True⟩

instance textual_cursor : Textual Cursor := ⟨fun _ => True⟩

instance textual_role : Textual Role := ⟨fun _ => True⟩

instance textual_prod : Textual (α × β) :=
  ⟨fun pair => Textual.IsFaithful pair.1 ∧ Textual.IsFaithful pair.2⟩

instance textual_option : Textual (Option α) :=
  ⟨fun found => ∀ a ∈ found, Textual.IsFaithful a⟩

instance textual_list : Textual (List α) :=
  ⟨fun items => ∀ a ∈ items, Textual.IsFaithful a⟩

/-- All nodes of a value are faithful if what is given holds. -/
class Faithful (given : Prop) (a : α) : Prop where
  isFaithful : given → Textual.IsFaithful a

variable {given other : Prop}

instance faithful_given (a : α) : Faithful (given ∧ Textual.IsFaithful a) a := ⟨And.right⟩

instance faithful_and (a : α) [Faithful given a] : Faithful (given ∧ other) a :=
  ⟨fun both => Faithful.isFaithful both.1⟩

instance faithful_unit (a : Unit) : Faithful given a := ⟨fun _ => trivial⟩

instance faithful_bool (a : Bool) : Faithful given a := ⟨fun _ => trivial⟩

instance faithful_role (a : Role) : Faithful given a := ⟨fun _ => trivial⟩

instance faithful_prod (a : α) (b : β) [Faithful given a] [Faithful given b] :
    Faithful given (a, b) :=
  ⟨fun holds => ⟨Faithful.isFaithful holds, Faithful.isFaithful holds⟩⟩

instance faithful_none : Faithful given (none : Option α) :=
  ⟨fun _ _ found => by contradiction⟩

instance faithful_some (a : α) [Faithful given a] : Faithful given (some a) :=
  ⟨fun holds _ found => by
    cases found
    exact Faithful.isFaithful holds⟩

instance faithful_nil : Faithful given ([] : List α) :=
  ⟨fun _ _ member => by contradiction⟩

instance faithful_cons (a : α) (items : List α) [Faithful given a] [Faithful given items] :
    Faithful given (a :: items) :=
  ⟨fun holds b member => by
    rcases List.mem_cons.mp member with rfl | inItems
    · exact Faithful.isFaithful holds
    · exact Faithful.isFaithful (a := items) holds b inItems⟩

instance faithful_append (front back : List α) [Faithful given front] [Faithful given back] :
    Faithful given (front ++ back) :=
  ⟨fun holds a member => by
    rcases List.mem_append.mp member with inFront | inBack
    · exact Faithful.isFaithful (a := front) holds a inFront
    · exact Faithful.isFaithful (a := back) holds a inBack⟩

instance faithful_map (items : List α) (f : α → β) [Faithful given items]
    [∀ a, Faithful (given ∧ Textual.IsFaithful a) (f a)] : Faithful given (items.map f) :=
  ⟨fun holds b member => by
    obtain ⟨a, inItems, rfl⟩ := List.mem_map.mp member
    have isFaithful : Textual.IsFaithful a := Faithful.isFaithful (a := items) holds a inItems
    exact Faithful.isFaithful (And.intro holds isFaithful)⟩

instance faithful_toList (found : Option α) [Faithful given found] :
    Faithful given found.toList :=
  ⟨fun holds a member =>
    Faithful.isFaithful (a := found) holds a (Option.mem_toList.mp member)⟩

instance faithful_present (items : List (Option α)) [Faithful given items] :
    Faithful given (items.filterMap id) :=
  ⟨fun holds a member => by
    obtain ⟨found, inItems, same⟩ := List.mem_filterMap.mp member
    exact Faithful.isFaithful (a := items) holds found inItems a same⟩

instance faithful_flatten (items : List (List α)) [Faithful given items] :
    Faithful given items.flatten :=
  ⟨fun holds a member => by
    obtain ⟨group, inItems, inGroup⟩ := List.mem_flatten.mp member
    exact Faithful.isFaithful (a := items) holds group inItems a inGroup⟩

instance faithful_leaf (kind : Kind) (text : String) [Holds kind.isPlain] :
    Faithful given (Node.mk kind text []) :=
  ⟨fun _ => Node.Faithful.of_children (Node.covers_of_isPlain Holds.holds) (by simp)⟩

instance faithful_missing : Faithful given (Node.mk .identifier "" []) :=
  ⟨fun _ => Node.Faithful.of_children (.inl rfl) (by simp)⟩

instance faithful_shorthand (text : String) :
    Faithful (given ∧ IsToken nameLength text) (Node.mk .shorthand text []) :=
  ⟨fun both => Node.Faithful.of_children both.2 (by simp)⟩

end Values

/-- The characters left are counted, and a token that may be filled in is one that may. -/
structure Cursor.Fit (c : Cursor) : Prop where
  counted : c.Counted
  fillable : ∀ gap ∈ c.gap, gap.token ∈ Module.fillers

theorem Cursor.Fit.refused {c : Cursor} (fit : c.Fit) (far : Nat) :
    Cursor.Fit { c with far := far } :=
  ⟨fit.counted, fit.fillable⟩

/-- How far a reader has to go: only not back, not back behind the next token, or over the next
token. -/
inductive Pace
  | loose
  | steady
  | brisk

def Pace.Goes : Pace → Cursor → Cursor → Prop
  | loose, c, next => next.rest <:+ c.rest
  | steady, c, next => next.rest <:+ c.rest ∧ next.skip.rest <:+ c.skip.rest
  | brisk, c, next => next.rest <:+ c.skip.rest

namespace Pace

variable {pace : Pace} {c middle next : Cursor}

theorem Goes.loose (goes : pace.Goes c next) : next.rest <:+ c.rest := by
  cases pace with
  | loose => exact goes
  | steady => exact goes.1
  | brisk => exact goes.trans c.skip_suffix

theorem Goes.weaken (goes : brisk.Goes c next) (pace : Pace) : pace.Goes c next := by
  cases pace with
  | loose => exact goes.loose
  | steady => exact ⟨goes.loose, next.skip_suffix.trans goes⟩
  | brisk => exact goes

/-- A pace at which a reader need not go on. -/
class MayStay (pace : Pace) : Prop where
  stays : ∀ {c next : Cursor}, next.rest = c.rest → pace.Goes c next

instance mayStay_loose : MayStay loose where
  stays same := ⟨[], same⟩

instance mayStay_steady : MayStay steady where
  stays {c next} same := by
    rw [Goes, Cursor.skip_rest, Cursor.skip_rest, same]
    exact ⟨List.suffix_refl _, List.suffix_refl _⟩

theorem MayStay.refl [MayStay pace] (c : Cursor) : pace.Goes c c :=
  stays rfl

/-- The pace of two readers after one another. -/
def andThen : Pace → Pace → Pace
  | brisk, _ => brisk
  | steady, second => second
  | loose, _ => loose

theorem andThen_self : pace.andThen pace = pace := by
  cases pace <;> rfl

theorem Goes.andThen {first second : Pace} (toMiddle : first.Goes c middle)
    (toNext : second.Goes middle next) : (first.andThen second).Goes c next := by
  cases first with
  | loose => exact toNext.loose.trans toMiddle
  | steady =>
      cases second with
      | loose => exact toNext.trans toMiddle.1
      | steady => exact ⟨toNext.1.trans toMiddle.1, toNext.2.trans toMiddle.2⟩
      | brisk => exact toNext.trans toMiddle.2
  | brisk => exact toNext.loose.trans toMiddle

end Pace

namespace Reader

section Done

variable {α β : Type}

theorem bind_eq_done {p : Reader α} {f : α → Reader β} {c next : Cursor} {b : β} :
    (p >>= f) c = .done b next ↔ ∃ a middle, p c = .done a middle ∧ f a middle = .done b next := by
  change Reader.bind p f c = _ ↔ _
  unfold Reader.bind
  cases p c with
  | stuck far => simp
  | done a middle =>
      constructor
      · intro done
        exact ⟨a, middle, rfl, done⟩
      · rintro ⟨_, _, same, done⟩
        cases same
        exact done

theorem orElse_eq_done {p q : Reader α} {c next : Cursor} {a : α}
    (done : (p <|> q) c = .done a next) :
    p c = .done a next ∨ ∃ far, q { c with far := far } = .done a next := by
  change Reader.orElse p (fun _ => q) c = _ at done
  unfold Reader.orElse at done
  cases first : p c with
  | stuck far =>
      rw [first] at done
      exact .inr ⟨_, done⟩
  | done b middle =>
      rw [first] at done
      cases done
      exact .inl rfl

end Done

variable {α β : Type} [Textual α] [Textual β] {given other : Prop} {pace : Pace}

/-- A reader goes on at a pace, and gives faithful nodes if what is given holds. -/
class Careful (given : Prop) (pace : Pace) (p : Reader α) : Prop where
  keeps : given → ∀ {c : Cursor} {a : α} {next : Cursor}, c.Fit → p c = .done a next →
    next.Fit ∧ pace.Goes c next ∧ Textual.IsFaithful a

theorem careful (pace : Pace) {p : Reader α} [Careful given pace p] (holds : given)
    {c next : Cursor} {a : α} (fit : c.Fit) (done : p c = .done a next) :
    next.Fit ∧ pace.Goes c next ∧ Textual.IsFaithful a :=
  Careful.keeps holds fit done

instance (priority := low) careful_of_brisk [pace.MayStay] (p : Reader α)
    [Careful given .brisk p] : Careful given pace p where
  keeps holds _ _ _ fit done := by
    obtain ⟨nextFit, goes, isFaithful⟩ := careful .brisk holds fit done
    exact ⟨nextFit, goes.weaken pace, isFaithful⟩

instance (priority := 50) careful_and (p : Reader α) [Careful given pace p] :
    Careful (given ∧ other) pace p :=
  ⟨fun both => Careful.keeps both.1⟩

theorem careful_bind (first second : Pace) {p : Reader α} {f : α → Reader β}
    [Careful given first p] [∀ a, Careful (given ∧ Textual.IsFaithful a) second (f a)] :
    Careful given (first.andThen second) (p >>= f) where
  keeps holds {c b next} fit done := by
    obtain ⟨a, middle, firstDone, secondDone⟩ := bind_eq_done.mp done
    obtain ⟨middleFit, toMiddle, isFaithful⟩ := careful first holds fit firstDone
    obtain ⟨nextFit, toNext, isFaithful'⟩ :=
      careful second (And.intro holds isFaithful) middleFit secondDone
    exact ⟨nextFit, toMiddle.andThen toNext, isFaithful'⟩

section Bind

variable (p : Reader α) (f : α → Reader β)

instance careful_bind_same [pace.MayStay] [Careful given pace p]
    [∀ a, Careful (given ∧ Textual.IsFaithful a) pace (f a)] : Careful given pace (p >>= f) :=
  (Pace.andThen_self : pace.andThen pace = pace) ▸ careful_bind pace pace

instance careful_bind_second [Careful given .steady p]
    [∀ a, Careful (given ∧ Textual.IsFaithful a) .brisk (f a)] : Careful given .brisk (p >>= f) :=
  careful_bind .steady .brisk

instance careful_bind_first [Careful given .brisk p]
    [∀ a, Careful (given ∧ Textual.IsFaithful a) .loose (f a)] : Careful given .brisk (p >>= f) :=
  careful_bind .brisk .loose

end Bind

instance careful_pure [pace.MayStay] (a : α) [Faithful given a] :
    Careful given pace (pure a : Reader α) where
  keeps holds _ _ _ fit done := by
    cases done
    exact ⟨fit, Pace.MayStay.refl _, Faithful.isFaithful holds⟩

instance careful_orElse (p q : Reader α) [Careful given pace p] [Careful given pace q] :
    Careful given pace (p <|> q) where
  keeps holds _ _ _ fit done := by
    rcases orElse_eq_done done with done | ⟨far, done⟩
    · exact careful pace holds fit done
    · have kept := careful pace holds (fit.refused far) done
      cases pace <;> exact kept

instance careful_ite (condition : Prop) [Decidable condition] (p q : Reader α)
    [Careful given pace p] [Careful given pace q] :
    Careful given pace (if condition then p else q) := by
  split <;> infer_instance

instance careful_map (p : Reader α) (f : α → β) [Careful given pace p]
    [∀ a, Faithful (given ∧ Textual.IsFaithful a) (f a)] : Careful given pace (f <$> p) where
  keeps holds _ _ _ fit done := by
    obtain ⟨a, next, done, same⟩ := bind_eq_done.mp done
    cases same
    obtain ⟨nextFit, goes, isFaithful⟩ := careful pace holds fit done
    exact ⟨nextFit, goes, Faithful.isFaithful (And.intro holds isFaithful)⟩

instance careful_discard (p : Reader α) [Careful given pace p] :
    Careful given pace (discard p) :=
  inferInstanceAs (Careful given pace ((fun _ => ()) <$> p))

instance careful_seqRight [pace.MayStay] (p : Reader α) (q : Reader β) [Careful given pace p]
    [Careful given pace q] : Careful given pace (p *> q) :=
  inferInstanceAs (Careful given pace (p >>= fun _ => q))

instance careful_refuse : Careful given pace (refuse : Reader α) where
  keeps _ _ _ _ _ done := by contradiction

instance careful_oneOf_nil : Careful given pace (oneOf ([] : List (Reader α))) :=
  careful_refuse

instance careful_oneOf_cons (p : Reader α) (ps : List (Reader α)) [Careful given pace p]
    [Careful given pace (oneOf ps)] : Careful given pace (oneOf (p :: ps)) := by
  cases ps with
  | nil => assumption
  | cons q ps => exact careful_orElse p (oneOf (q :: ps))

instance careful_oneOf_map {γ : Type} (items : List γ) (f : γ → Reader α)
    [∀ item, Careful given pace (f item)] : Careful given pace (oneOf (items.map f)) := by
  induction items with
  | nil => exact careful_refuse
  | cons item items induction => exact careful_oneOf_cons (f item) (items.map f)

section Staying

variable [pace.MayStay] (p : Reader α) [Careful given pace p]

instance careful_here : Careful given pace here where
  keeps _ _ _ _ fit done := by
    cases done
    exact ⟨fit, Pace.MayStay.refl _, trivial⟩

instance careful_guard (condition : Bool) : Careful given pace (guard condition) := by
  unfold guard
  infer_instance

instance careful_optional : Careful given pace (optional p) := by
  unfold optional
  infer_instance

instance careful_repeatUpTo (n : Nat) : Careful given pace (repeatUpTo n p) := by
  induction n with
  | zero =>
      unfold repeatUpTo
      infer_instance
  | succ n induction =>
      unfold repeatUpTo
      infer_instance

instance careful_many : Careful given pace (many p) := by
  unfold many
  infer_instance

end Staying

end Reader

end SnapshotGen.Script
