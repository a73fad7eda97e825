import SnapshotGen.Template.Filter
import SnapshotGen.Template.Node

/-!
What a template gives for values. Names are sought in frames, the innermost first: a loop and a
macro have a frame of their own. Macros and inclusions may call themselves, so not every template
gives something.
-/

namespace SnapshotGen.Template

structure Loop where
  key : Option String
  item : String
  index : Nat
  isLast : Bool
  currentKey : String
  current : Value

inductive FrameKind
  | origin
  | loop
  | macroBody
  | inclusion
  deriving DecidableEq, Repr

structure Frame where
  kind : FrameKind
  bound : List (String × Value)
  loop : Option Loop

abbrev Frames := List Frame

/-- What does not change while a template gives its text. -/
structure World where
  name : String
  template : Tree
  values : List (String × Value)
  environment : List (String × String)

/-- Why a template gives no text: the macro in whose body the fault is, once this is settled. -/
structure Fault where
  inMacro : Option (String × String)
  isSettled : Bool
  deriving DecidableEq, Repr

namespace Fault

def plain : Fault := ⟨none, false⟩

def settle (fault : Fault) : Fault :=
  { fault with isSettled := true }

def settleIn (space name : String) (fault : Fault) : Fault :=
  if fault.isSettled then fault else ⟨some (space, name), true⟩

end Fault

abbrev Result (α : Type) := ExceptT Fault Option α

def orFault (a : Option α) : Result α :=
  match a with
  | some a => pure a
  | none => throw .plain

namespace Loop

def value? (loop : Loop) (keys : List String) : Option Value :=
  match keys with
  | ["loop", "index"] => some (.whole (loop.index + 1))
  | ["loop", "index0"] => some (.whole loop.index)
  | ["loop", "first"] => some (.flag (loop.index == 0))
  | ["loop", "last"] => some (.flag loop.isLast)
  | [] => none
  | key :: more =>
    if key = loop.item then loop.current.at? more
    else if loop.key = some key && more.isEmpty then some (.text loop.currentKey)
    else none

end Loop

namespace Frame

def value? (frame : Frame) (keys : List String) : Option Value :=
  let own :=
    match keys with
    | [] => none
    | key :: more => (Value.entry? key frame.bound).bind (·.at? more)
  own.or (frame.loop.bind (·.value? keys))

def set (frame : Frame) (name : String) (value : Value) : Frame :=
  { frame with bound := Value.putEntry name value frame.bound }

end Frame

namespace Frames

/-- The value of a path of keys: in the frames up to the body of a macro, else among the values
that the template was given. -/
def value? (world : World) (keys : List String) : Frames → Option Value
  | [] => (Value.record world.values).at? keys
  | frame :: more =>
    (frame.value? keys).or (if frame.kind = .macroBody then none else value? world keys more)

def set (name : String) (value : Value) : Frames → Frames
  | [] => []
  | frame :: more => frame.set name value :: more

def setGlobal (name : String) (value : Value) : Frames → Frames
  | [] => []
  | frame :: more =>
    if frame.kind = .loop then frame :: setGlobal name value more else frame.set name value :: more

def inLoop : Frames → Bool
  | frame :: _ => frame.kind == .loop
  | [] => false

def putAll (entries base : List (String × Value)) : List (String × Value) :=
  entries.foldl (fun all entry => Value.putEntry entry.1 entry.2 all) base

/-- All variables that can be seen, with those of outer frames in the way of inner ones where both
set one. -/
def visible (world : World) : Frames → List (String × Value)
  | [] => world.values
  | frame :: more =>
    let base := if frame.kind = .macroBody then [] else visible world more
    let ofLoop :=
      match frame.loop with
      | some loop =>
        (loop.item, loop.current) :: (loop.key.map fun key => (key, .text loop.currentKey)).toList
      | none => []
    putAll ofLoop (putAll frame.bound base)

end Frames

mutual

def keysOf (world : World) (frames : Frames) : Path → Option (List String)
  | [] => some []
  | step :: more => do
    let key ← keyOf world frames step
    return key :: (← keysOf world frames more)

def keyOf (world : World) (frames : Frames) : Step → Option String
  | .key key => some key
  | .valueOf path => do
    let keys ← keysOf world frames path
    match ← frames.value? world keys with
    | .text s => some s
    | .whole n => some (toString n)
    | .fraction x => some (Value.fractionText x)
    | _ => none

end

/-- A name that stands for everything that can be seen. -/
def everything : String := "__tera_context"

def lookup (world : World) (frames : Frames) (path : Path) : Option Value := do
  let keys ← keysOf world frames path
  if keys = [everything] then
    return .text ((Value.record (frames.visible world)).notated (some 0))
  else frames.value? world keys

def isWord (n : Int) : Bool :=
  -0x8000000000000000 ≤ n && n < 0x8000000000000000

def wholeOrFault (n : Int) : Result (Option Value) :=
  if isWord n then pure (some (.whole n)) else throw .plain

def finite (x : Float) : Option Value :=
  if x.isNaN || x.isInf then none else some (.fraction x)

def remainder (a b : Float) : Float :=
  let q := a / b
  a - b * (if q < 0 then q.ceil else q.floor)

def calculate (sign : Arithmetic) (a b : Value) : Result (Option Value) := do
  let x ← orFault a.number?
  let y ← orFault b.number?
  match sign, a, b with
  | .add, .whole m, .whole n => wholeOrFault (m + n)
  | .sub, .whole m, .whole n => wholeOrFault (m - n)
  | .mul, .whole m, .whole n => wholeOrFault (m * n)
  | .mod, .whole m, .whole n => if n = 0 then throw .plain else wholeOrFault (Int.tmod m n)
  | .add, _, _ => return finite (x + y)
  | .sub, _, _ => return finite (x - y)
  | .mul, _, _ => return finite (x * y)
  | .mod, _, _ => return finite (remainder x y)
  | .div, _, _ => return finite (x / y)

def compareNumbers (sign : Comparison) (x y : Float) : Bool :=
  match sign with
  | .lt => x < y
  | .le => x ≤ y
  | .gt => x > y
  | .ge => x ≥ y
  | .eq => x == y
  | .ne => x != y

/-- Equality where a number equals only numbers, and unlike things are neither equal nor
different. -/
def compareValues (isEqual : Bool) (a b : Value) : Bool :=
  match a.number?, b.number? with
  | some x, some y => if isEqual then x == y else x != y
  | none, none => a.same b == isEqual
  | _, _ => false

def contains? (item container : Value) : Option Bool :=
  match container, item with
  | .list items, item => some (items.any (·.same item))
  | .text s, .text piece => some (Text.contains piece.toList s.toList)
  | .record entries, .text key => some (Value.entry? key entries).isSome
  | _, _ => none

/-- The rounds of a loop over a value, each with its key; nothing if the value cannot be looped
over that way. -/
def roundsOf (hasKey : Bool) : Value → Option (List (String × Value))
  | .list items => if hasKey then none else some (items.map fun item => ("", item))
  | .text s => if hasKey then none else some (s.toList.map fun c => ("", .text (String.ofList [c])))
  | .record entries => if hasKey then some entries else none
  | _ => none

def isLoopable : Core → Bool
  | .path _ | .call _ | .list _ => true
  | _ => false

inductive Flow
  | onward
  | stop
  | next
  deriving DecidableEq, Repr

abbrev Rendered := Result (String × Frames × Flow)

def defaultFilter : String := "default"

/-- Filters that change nothing here. -/
def isIdle (name : String) : Bool :=
  name == "safe" || name == defaultFilter

def argument? (name : String) (args : List (String × Expr)) : Option Expr :=
  (args.find? (·.1 == name)).map (·.2)

mutual

/-- The value of an expression. A name that is not there is an error, unless the first filter gives
a default or the expression is negated. -/
def World.evaluate (world : World) (frames : Frames) : Expr → Result Value
  | .mk core filters isNegated => do
    let found : Option Value ←
      match core with
      | .path path =>
        match lookup world frames path, filters.head? with
        | some value, _ => pure (some value)
        | none, some (.mk name args) =>
          if name = defaultFilter then
            return ← world |>.evaluate frames (← orFault (argument? "value" args))
          else pure none
        | none, none => pure none
      | core => some <$> (world |>.evaluateCore frames core)
    match found with
    | none => if isNegated then return .flag true else throw .plain
    | some value =>
      let value ← world |>.applyFilters frames filters value
      return if isNegated then .flag !value.holds else value
partial_fixpoint

def World.applyFilters (world : World) (frames : Frames) : List Call → Value → Result Value
  | [], value => pure value
  | .mk name args :: more, value => do
    if isIdle name then world |>.applyFilters frames more value
    else
      let args ← world |>.evaluateArgs frames args
      let value ← orFault (applyFilter? name args value)
      world |>.applyFilters frames more value
partial_fixpoint

def World.evaluateArgs (world : World) (frames : Frames) : List (String × Expr) → Result Arguments
  | [] => pure []
  | (name, expr) :: more => do
    let value ← world |>.evaluate frames expr
    return (name, value) :: (← world |>.evaluateArgs frames more)
partial_fixpoint

def World.evaluateAll (world : World) (frames : Frames) : List Expr → Result (List Value)
  | [] => pure []
  | expr :: more => do
    let value ← world |>.evaluate frames expr
    return value :: (← world |>.evaluateAll frames more)
partial_fixpoint

def World.evaluateCore (world : World) (frames : Frames) (core : Core) : Result Value :=
  match core with
  | .text s => pure (.text s)
  | .whole m => pure (.whole m)
  | .fraction x => pure (.fraction x)
  | .flag holds => pure (.flag holds)
  | .path path => orFault (lookup world frames path)
  | .concat parts => .text <$> (world |>.concatenated frames parts)
  | .list items => .list <$> (world |>.evaluateAll frames items)
  | .call (.mk name args) => do
    let args ← world |>.evaluateArgs frames args
    if isEndless name args then (none : Option (Except Fault Value))
    else orFault (callFunction? world.environment name args)
  | .macroCall space (.mk name args) => .text <$> (world |>.callMacro frames space name args)
  | .tested path isNot name args => do
    let args ← world |>.evaluateAll frames args
    let passed ← orFault (passes? name (lookup world frames path) args)
    return .flag (passed != isNot)
  | .within item container isNot => do
    let item ← world |>.evaluate frames item
    let container ← world |>.evaluate frames container
    return .flag ((← orFault (contains? item container)) != isNot)
  | .arithmetic .. => do
    match ← world |>.calculateCore frames core with
    | some number => return number
    | none => return .text "NaN"
  | .comparison .. | .both .. | .either .. => .flag <$> (world |>.truthOfCore frames core)
partial_fixpoint

/-- The text of parts in a row; each has to be a text or a number. -/
def World.concatenated (world : World) (frames : Frames) : List Core → Result String
  | [] => pure ""
  | part :: more => do
    let text ←
      match ← world |>.evaluateCore frames part with
      | .text s => pure s
      | .whole m => pure (toString m)
      | .fraction x => pure (Value.fractionText x)
      | _ => throw .plain
    return text ++ (← world |>.concatenated frames more)
partial_fixpoint

/-- The number an expression comes to; nothing stands for what is no number. -/
def World.calculateExpr (world : World) (frames : Frames) : Expr → Result (Option Value)
  | .mk core filters isNegated => do
    if filters.isEmpty then world |>.calculateCore frames core
    else
      let value ← world |>.evaluate frames (.mk core filters isNegated)
      if value.number?.isSome then return some value else throw .plain
partial_fixpoint

def World.calculateCore (world : World) (frames : Frames) (core : Core) : Result (Option Value) :=
  match core with
  | .arithmetic sign left right => do
    match ← world |>.calculateExpr frames left, ← world |>.calculateExpr frames right with
    | some a, some b => calculate sign a b
    | _, _ => return none
  | .path _ | .call _ | .whole _ | .fraction _ => do
    let value ← world |>.evaluateCore frames core
    if value.number?.isSome then return some value else throw .plain
  | _ => throw .plain
partial_fixpoint

def World.truth (world : World) (frames : Frames) (expr : Expr) : Result Bool :=
  match expr with
  | .mk (.path path) filters isNegated =>
    (do
      match ← (world |>.evaluate frames (.mk (.path path) filters isNegated)).run with
      | .ok value => return .ok value.holds
      | .error _ => return .ok false : Option (Except Fault Bool))
  | .mk core _ isNegated => do
    return (← world |>.truthOfCore frames core) != isNegated
partial_fixpoint

def World.truthOfCore (world : World) (frames : Frames) (core : Core) : Result Bool :=
  match core with
  | .both left right => do
    if ← world |>.truth frames left then world |>.truth frames right else return false
  | .either left right => do
    if ← world |>.truth frames left then return true else world |>.truth frames right
  | .comparison .eq left right => do
    return compareValues true (← world |>.evaluate frames left) (← world |>.evaluate frames right)
  | .comparison .ne left right => do
    return compareValues false (← world |>.evaluate frames left) (← world |>.evaluate frames right)
  | .comparison sign left right => do
    let a ← world |>.calculateExpr frames left
    let b ← world |>.calculateExpr frames right
    match a.bind Value.number?, b.bind Value.number? with
    | some x, some y => return compareNumbers sign x y
    | _, _ => throw .plain
  | .arithmetic .. | .whole _ | .fraction _ => do
    match ← world |>.calculateCore frames core with
    | some value => return value.holds
    | none => return false
  | .call _ => do
    match ← world |>.evaluateCore frames core with
    | .flag holds => return holds
    | _ => throw .plain
  | core => do
    return (← world |>.evaluateCore frames core).holds
partial_fixpoint

def World.callMacro (world : World) (frames : Frames) (space name : String)
    (args : List (String × Expr)) : Result String := do
  let isOwn := space == "self" || world.template.libraries.contains (world.name, space)
  let found ← orFault (if isOwn then world.template.macros.find? (·.name == name) else none)
  let bound ← world |>.bindParameters frames args found.parameters
  (do
    match ← (world |>.renderAll found.body (⟨.macroBody, bound, none⟩ :: frames)).run with
    | .ok (text, _) => return .ok text
    | .error fault => return .error (fault.settleIn space name) : Option (Except Fault String))
partial_fixpoint

def World.bindParameters (world : World) (frames : Frames) (args : List (String × Expr)) :
    List Parameter → Result (List (String × Value))
  | [] => pure []
  | (name, default) :: more => do
    let value ←
      match argument? name args, default with
      | some expr, _ => world |>.evaluate frames expr
      | none, some core => world |>.evaluateCore frames core
      | none, none => throw .plain
    return Value.putEntry name value (← world |>.bindParameters frames args more)
partial_fixpoint

def World.renderAll (world : World) : List Node → Frames → Rendered
  | [], frames => pure ("", frames, .onward)
  | node :: more, frames => do
    let (text, frames, flow) ← world |>.render node frames
    if flow = .onward then
      let (rest, frames, flow) ← world |>.renderAll more frames
      return (text ++ rest, frames, flow)
    else return (text, frames, flow)
partial_fixpoint

def World.renderInner (world : World) (body : List Node) (frames : Frames) : Rendered :=
  (do
    match ← (world |>.renderAll body frames).run with
    | .ok rendered => return .ok rendered
    | .error fault => return .error fault.settle : Option (Except Fault _))
partial_fixpoint

def World.renderRounds (world : World) (body : List Node) (key : Option String) (item : String)
    (index : Nat) (frames : Frames) : List (String × Value) → Result (String × Frames)
  | [] => pure ("", frames)
  | (currentKey, current) :: more => do
    let loop : Loop := ⟨key, item, index, more.isEmpty, currentKey, current⟩
    let (text, inner, flow) ← world |>.renderInner body (⟨.loop, [], some loop⟩ :: frames)
    if flow = .stop then return (text, inner.tail)
    else
      let (rest, frames) ← world |>.renderRounds body key item (index + 1) inner.tail more
      return (text ++ rest, frames)
partial_fixpoint

def World.render (world : World) (node : Node) (frames : Frames) : Rendered :=
  match node with
  | .text s => pure (s, frames, .onward)
  | .value expr => do
    return ((← world |>.evaluate frames expr).shown, frames, .onward)
  | .set name expr isGlobal => do
    let value ← world |>.evaluate frames expr
    let frames := if isGlobal then frames.setGlobal name value else frames.set name value
    return ("", frames, .onward)
  | .loop key item container body empty => do
    if !isLoopable container.core then throw .plain
    else
      let value ← world |>.evaluate frames container
      match ← orFault (roundsOf key.isSome value) with
      | [] => world |>.renderAll empty frames
      | rounds =>
        let (text, frames) ← world |>.renderRounds body key item 0 frames rounds
        return (text, frames, .onward)
  | .branch condition body otherwise => do
    if ← world |>.truth frames condition then world |>.renderAll body frames
    else world |>.renderAll otherwise frames
  | .block _ body => world |>.renderAll body frames
  | .passage (.mk name args) body => do
    let (text, frames, flow) ← world |>.renderAll body frames
    let args ← world |>.evaluateArgs frames args
    let value ← orFault
      (if isIdle name then some (.text text) else applyFilter? name args (.text text))
    return (value.shown, frames, flow)
  | .inclusion names ignoreMissing =>
    if names.contains world.name then do
      let (text, frames, _) ←
        world |>.renderInner world.template.body (⟨.inclusion, [], none⟩ :: frames)
      return (text, frames.tail, .onward)
    else if ignoreMissing then pure ("", frames, .onward)
    else throw .plain
  | .stop => if frames.inLoop then pure ("", frames, .stop) else throw .plain
  | .next => if frames.inLoop then pure ("", frames, .next) else throw .plain
partial_fixpoint

end

end SnapshotGen.Template
