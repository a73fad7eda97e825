import SnapshotGen.Proofs.Outcomes
import SnapshotGen.Template.Render

/-!
Plain templates: texts, names, loops over lists and branches. What one writes is said by recursion
on it, without frames left behind or faults; rendering its nodes ends and gives just that.
-/

namespace SnapshotGen.Template

/-- A part of a plain template, with all that comes behind it. -/
inductive Plain
  | done
  | text (s : String) (more : Plain)
  | value (path : List String) (more : Plain)
  | loop (item : String) (container : List String) (body more : Plain)
  | branch (condition : List String) (body otherwise more : Plain)

namespace Plain

def named (path : List String) : Expr :=
  .ofCore (.path (path.map .key))

def nodes : Plain → List Node
  | done => []
  | text s more => .text s :: more.nodes
  | value path more => .value (named path) :: more.nodes
  | loop item container body more =>
    .loop none item (named container) body.nodes [] :: more.nodes
  | branch condition body otherwise more =>
    .branch (named condition) body.nodes otherwise.nodes :: more.nodes

def template (plain : Plain) : Tree :=
  ⟨none, [], [], plain.nodes⟩

def isPath : List String → Path → Bool
  | [], [] => true
  | key :: more, .key other :: steps => key == other && isPath more steps
  | _, _ => false

def isNamed (path : List String) : Expr → Bool
  | .mk (.path steps) [] false => isPath path steps
  | _ => false

def isOf : Plain → List Node → Bool
  | done, [] => true
  | text s more, .text t :: nodes => s == t && more.isOf nodes
  | value path more, .value expr :: nodes => isNamed path expr && more.isOf nodes
  | loop item container body more, .loop none name expr inner [] :: nodes =>
    item == name && isNamed container expr && body.isOf inner && more.isOf nodes
  | branch condition body otherwise more, .branch expr inner alternative :: nodes =>
    isNamed condition expr && body.isOf inner && otherwise.isOf alternative && more.isOf nodes
  | _, _ => false

def isTemplate (plain : Plain) (template : Tree) : Bool :=
  template.parent.isNone && template.libraries.isEmpty && template.macros.isEmpty &&
    plain.isOf template.body

theorem eq_of_isPath {path : List String} {steps : Path} (same : isPath path steps = true) :
    steps = path.map .key := by
  induction path generalizing steps with
  | nil =>
    cases steps with
    | nil => rfl
    | cons step more => simp [isPath] at same
  | cons key more ih =>
    cases steps with
    | nil => simp [isPath] at same
    | cons step rest =>
      cases step with
      | key other =>
        simp only [isPath, Bool.and_eq_true, beq_iff_eq] at same
        rw [same.1, ih same.2, List.map_cons]
      | valueOf inner => simp [isPath] at same

theorem eq_of_isNamed {path : List String} {expr : Expr} (same : isNamed path expr = true) :
    expr = named path := by
  unfold isNamed at same
  split at same
  · rw [eq_of_isPath same]
    rfl
  · cases same

theorem eq_of_isOf {plain : Plain} {all : List Node} (same : plain.isOf all = true) :
    all = plain.nodes := by
  fun_induction isOf plain all with
  | case1 => rfl
  | case2 s more t all ih =>
    simp only [Bool.and_eq_true, beq_iff_eq] at same
    rw [nodes, same.1, ih same.2]
  | case3 path more expr all ih =>
    simp only [Bool.and_eq_true] at same
    rw [nodes, eq_of_isNamed same.1, ih same.2]
  | case4 item container body more name expr inner all ihBody ihMore =>
    simp only [Bool.and_eq_true, beq_iff_eq] at same
    obtain ⟨⟨⟨sameItem, sameContainer⟩, sameBody⟩, sameMore⟩ := same
    rw [nodes, sameItem, eq_of_isNamed sameContainer, ihBody sameBody, ihMore sameMore]
  | case5 condition body otherwise more expr inner alternative all ihBody ihOtherwise ihMore =>
    simp only [Bool.and_eq_true] at same
    obtain ⟨⟨⟨sameCondition, sameBody⟩, sameOtherwise⟩, sameMore⟩ := same
    rw [nodes, eq_of_isNamed sameCondition, ihBody sameBody, ihOtherwise sameOtherwise,
      ihMore sameMore]
  | case6 => cases same

theorem eq_of_isTemplate {plain : Plain} {found : Tree}
    (same : plain.isTemplate found = true) : found = plain.template := by
  obtain ⟨parent, libraries, macros, body⟩ := found
  simp only [isTemplate, Bool.and_eq_true, Option.isNone_iff_eq_none, List.isEmpty_iff] at same
  obtain ⟨⟨⟨rfl, rfl⟩, rfl⟩, sameBody⟩ := same
  rw [eq_of_isOf sameBody]
  rfl

variable (world : World)

def seen (frames : Frames) (path : List String) : Option Value :=
  lookup world frames (path.map .key)

/-- What a body writes in all rounds of a loop. -/
def acrossRounds (body : Frames → Option String) (item : String) (frames : Frames) :
    Nat → List (String × Value) → Option String
  | _, [] => some ""
  | index, (key, current) :: more => do
    let text ← body (⟨.loop, [], some ⟨none, item, index, more.isEmpty, key, current⟩⟩ :: frames)
    return text ++ (← acrossRounds body item frames (index + 1) more)

def written : Plain → Frames → Option String
  | done, _ => some ""
  | text s more, frames => do
    return s ++ (← more.written frames)
  | value path more, frames => do
    let value ← seen world frames path
    return value.shown ++ (← more.written frames)
  | loop item container body more, frames => do
    let rounds ← roundsOf false (← seen world frames container)
    let text ← acrossRounds body.written item frames 0 rounds
    return text ++ (← more.written frames)
  | branch condition body otherwise more, frames => do
    let chosen :=
      if (seen world frames condition).any Value.holds then body.written frames
      else otherwise.written frames
    return (← chosen) ++ (← more.written frames)

variable {world}

theorem keysOf_keys (frames : Frames) (path : List String) :
    keysOf world frames (path.map .key) = some path := by
  induction path with
  | nil => rfl
  | cons key more ih =>
    rw [List.map_cons, keysOf, ih]
    rfl

theorem seen_eq_value? (frames : Frames) {path : List String} (ordinary : path ≠ [everything]) :
    seen world frames path = frames.value? world path := by
  unfold seen lookup
  rw [keysOf_keys]
  exact if_neg ordinary

theorem written_text (s : String) (more : Plain) (frames : Frames) :
    (text s more).written world frames = (more.written world frames).map (s ++ ·) := by
  rw [written]
  cases more.written world frames <;> rfl

theorem written_value {path : List String} {frames : Frames} {value : Value}
    (found : seen world frames path = some value) (more : Plain) :
    (Plain.value path more).written world frames =
      (more.written world frames).map (value.shown ++ ·) := by
  rw [written, found]
  cases more.written world frames <;> rfl

theorem written_loop {item : String} {container : List String} {body : Plain} {frames : Frames}
    {value : Value} {rounds : List (String × Value)} {text : String}
    (found : seen world frames container = some value) (loops : roundsOf false value = some rounds)
    (across : acrossRounds (body.written world) item frames 0 rounds = some text) (more : Plain) :
    (loop item container body more).written world frames =
      (more.written world frames).map (text ++ ·) := by
  rw [written, found]
  change ((roundsOf false value).bind fun rounds => _) = _
  rw [loops]
  change ((acrossRounds (body.written world) item frames 0 rounds).bind fun text => _) = _
  rw [across]
  cases more.written world frames <;> rfl

theorem written_branch {condition : List String} {body otherwise : Plain} {frames : Frames}
    {value : Value} {text : String} (found : seen world frames condition = some value)
    (chosen : (if value.holds then body else otherwise).written world frames = some text)
    (more : Plain) :
    (branch condition body otherwise more).written world frames =
      (more.written world frames).map (text ++ ·) := by
  rw [apply_ite (fun plain : Plain => plain.written world frames)] at chosen
  rw [written, found]
  change (Option.bind (if value.holds then _ else _) fun text => _) = _
  rw [chosen]
  cases more.written world frames <;> rfl

theorem acrossRounds_map {α : Type} {valueOf : α → Value} {textOf : α → String}
    {body : Frames → Option String} {item : String} {frames : Frames}
    (writes : ∀ thing index isLast,
      body (⟨.loop, [], some ⟨none, item, index, isLast, "", valueOf thing⟩⟩ :: frames) =
        some (textOf thing))
    (things : List α) (index : Nat) :
    acrossRounds body item frames index ((things.map valueOf).map fun value => ("", value)) =
      some (String.join (things.map textOf)) := by
  induction things generalizing index with
  | nil => rfl
  | cons thing more ih =>
    rw [List.map_cons, List.map_cons, acrossRounds, writes, ih, List.map_cons, String.join_cons]
    rfl

theorem evaluate_named (frames : Frames) (path : List String) :
    world.evaluate frames (named path) = orFault (seen world frames path) := by
  unfold named Expr.ofCore seen
  rw [World.evaluate]
  cases lookup world frames (path.map .key) with
  | none => rfl
  | some value =>
    simp only [pure_bind, World.applyFilters, Bool.false_eq_true, if_false]
    rfl

theorem truth_named (frames : Frames) (path : List String) :
    world.truth frames (named path) = pure ((seen world frames path).any Value.holds) := by
  have value : world.evaluate frames (named path) = orFault (seen world frames path) :=
    evaluate_named frames path
  unfold named Expr.ofCore at value ⊢
  rw [World.truth, value]
  cases seen world frames path with
  | none => rfl
  | some value => rfl

theorem renderInner_of_renderAll {body : List Node} {frames : Frames}
    {rendered : String × Frames × Flow}
    (renders : world.renderAll body frames = pure rendered) :
    world.renderInner body frames = pure rendered := by
  rw [World.renderInner, renders]
  rfl

theorem renderRounds_of_acrossRounds {nodes : List Node} {body : Frames → Option String}
    (renders : ∀ frames text, body frames = some text →
      world.renderAll nodes frames = pure (text, frames, .onward))
    {item : String} {frames : Frames} {index : Nat} {rounds : List (String × Value)} {text : String}
    (writes : acrossRounds body item frames index rounds = some text) :
    world.renderRounds nodes none item index frames rounds = pure (text, frames) := by
  induction rounds generalizing index text with
  | nil =>
    cases writes
    rw [World.renderRounds]
  | cons round more ih =>
    obtain ⟨key, current⟩ := round
    simp only [acrossRounds, Option.bind_eq_bind, Option.pure_def, Option.bind_eq_some_iff,
      Option.some.injEq] at writes
    obtain ⟨first, writesFirst, rest, writesRest, rfl⟩ := writes
    simp only [World.renderRounds, renderInner_of_renderAll (renders _ _ writesFirst), pure_bind,
      List.tail_cons, ih writesRest, reduceCtorEq, if_false]

theorem renderAll_cons {node : Node} {more : List Node} {frames : Frames} {text rest : String}
    (first : world.render node frames = pure (text, frames, .onward))
    (others : world.renderAll more frames = pure (rest, frames, .onward)) :
    world.renderAll (node :: more) frames = pure (text ++ rest, frames, .onward) := by
  simp only [World.renderAll, first, others, pure_bind, if_true]

theorem render_loop {item : String} {container : List String} {body : List Node}
    {frames : Frames} {value : Value} {rounds : List (String × Value)} {text : String}
    (found : seen world frames container = some value) (loops : roundsOf false value = some rounds)
    (through : world.renderRounds body none item 0 frames rounds = pure (text, frames)) :
    world.render (.loop none item (named container) body []) frames =
      pure (text, frames, .onward) := by
  rw [World.render, evaluate_named, found]
  change (orFault (roundsOf false value) >>= _) = _
  rw [loops]
  cases rounds with
  | nil =>
    rw [World.renderRounds] at through
    cases through
    exact World.renderAll.eq_1 world frames
  | cons round more =>
    change (world.renderRounds body none item 0 frames (round :: more) >>= _) = _
    rw [through]
    rfl

/-- A plain template is rendered to what it writes, and leaves the frames as they were. -/
theorem renderAll_nodes {plain : Plain} {frames : Frames} {text : String}
    (writes : plain.written world frames = some text) :
    world.renderAll plain.nodes frames = pure (text, frames, .onward) := by
  induction plain generalizing frames text with
  | done =>
    cases writes
    exact World.renderAll.eq_1 world frames
  | text s more ih =>
    simp only [written, Option.bind_eq_bind, Option.pure_def, Option.bind_eq_some_iff,
      Option.some.injEq] at writes
    obtain ⟨rest, writesRest, rfl⟩ := writes
    refine renderAll_cons ?_ (ih writesRest)
    rw [World.render]
  | value path more ih =>
    simp only [written, Option.bind_eq_bind, Option.pure_def, Option.bind_eq_some_iff,
      Option.some.injEq] at writes
    obtain ⟨value, found, rest, writesRest, rfl⟩ := writes
    refine renderAll_cons ?_ (ih writesRest)
    rw [World.render, evaluate_named, found]
    rfl
  | loop item container body more ihBody ihMore =>
    simp only [written, Option.bind_eq_bind, Option.pure_def, Option.bind_eq_some_iff,
      Option.some.injEq] at writes
    obtain ⟨value, found, rounds, loops, inner, writesInner, rest, writesRest, rfl⟩ := writes
    refine renderAll_cons (render_loop found loops ?_) (ihMore writesRest)
    exact renderRounds_of_acrossRounds (fun _ _ => ihBody) writesInner
  | branch condition body otherwise more ihBody ihOtherwise ihMore =>
    simp only [written, Option.bind_eq_bind, Option.pure_def, Option.bind_eq_some_iff,
      Option.some.injEq] at writes
    obtain ⟨inner, writesInner, rest, writesRest, rfl⟩ := writes
    refine renderAll_cons ?_ (ihMore writesRest)
    rw [World.render, truth_named, pure_bind]
    cases holds : (seen world frames condition).any Value.holds with
    | true =>
      rw [holds] at writesInner
      exact ihBody writesInner
    | false =>
      rw [holds] at writesInner
      exact ihOtherwise writesInner

end Plain

end SnapshotGen.Template
