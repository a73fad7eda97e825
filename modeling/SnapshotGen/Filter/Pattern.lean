import SnapshotGen.Filter.Basic

/-!
Patterns of the line editor: basic regular expressions on bytes, and the extended ones in which
braces and parentheses need no backslash.
-/

namespace SnapshotGen.Filter

inductive Pattern
  | byte (b : UInt8)
  | any
  | oneOf (isNegated : Bool) (ranges : List (UInt8 × UInt8))
  | lineStart
  | lineEnd
  | group (number : Nat) (branches : List (List Pattern))
  | repeated (least : Nat) (most : Option Nat) (item : Pattern)
  | sameAs (number : Nat)
  deriving Inhabited

namespace Pattern

structure Source where
  rest : Bytes
  groups : Nat

def char (c : Char) : UInt8 :=
  UInt8.ofNat c.toNat

def setRanges (isFirst : Bool) (bytes : Bytes) : Option (List (UInt8 × UInt8) × Bytes) :=
  match bytes with
  | [] => none
  | b :: bs =>
    if b = char ']' && !isFirst then some ([], bs)
    else
      let high := if bs.head? = some (char '-') then bs[1]?.filter (· ≠ char ']') else none
      (setRanges false (bs.drop (if high.isSome then 2 else 0))).map fun (ranges, rest) =>
        ((b, high.getD b) :: ranges, rest)
termination_by bytes.length
decreasing_by
  simp only [List.length_drop, List.length_cons]
  omega

inductive Mark
  | opened
  | closed
  | branch
  | times (least : Nat) (most : Option Nat)
  | item (item : Pattern)

def groupMark? (c : Char) : Option Mark :=
  match c with
  | '(' => some .opened
  | ')' => some .closed
  | '|' => some .branch
  | '+' => some (.times 1 none)
  | '?' => some (.times 0 (some 1))
  | _ => none

/-- The next mark. In extended patterns groups are marked without a backslash. -/
def mark? (isExtended isFirst : Bool) : Bytes → Option (Mark × Bytes)
  | [] => none
  | b :: bs =>
    let c := Char.ofNat b.toNat
    if c = '\\' then
      match bs with
      | [] => none
      | d :: bs =>
        let c := Char.ofNat d.toNat
        if c.isDigit && c ≠ '0' then some (.item (.sameAs (c.toNat - '0'.toNat)), bs)
        else if c = 'n' then some (.item (.byte newline), bs)
        else
          match groupMark? c with
          | some mark => some (if isExtended then .item (.byte d) else mark, bs)
          | none => some (.item (.byte d), bs)
    else
      match c with
      | '.' => some (.item .any, bs)
      | '*' => some (if isFirst then .item (.byte b) else .times 0 none, bs)
      | '^' => some (if isFirst || isExtended then .item .lineStart else .item (.byte b), bs)
      | '$' =>
        let isLast := bs.isEmpty || isExtended || "\\)".toUTF8.toList.isPrefixOf bs
        some (if isLast then .item .lineEnd else .item (.byte b), bs)
      | '[' =>
        let isNegated := bs.head? = some (char '^')
        (setRanges true (if isNegated then bs.drop 1 else bs)).map fun (ranges, rest) =>
          (.item (.oneOf isNegated ranges), rest)
      | c =>
        match groupMark? c with
        | some mark => some (if isExtended then mark else .item (.byte b), bs)
        | none => some (.item (.byte b), bs)

def branches (isExtended isInGroup : Bool) (items : List Pattern) (before : List (List Pattern)) :
    Nat → Source → Option (List (List Pattern) × Source)
  | 0, _ => none
  | n + 1, source =>
    match mark? isExtended items.isEmpty source.rest with
    | none =>
      if source.rest.isEmpty && !isInGroup then some (before ++ [items.reverse], source) else none
    | some (mark, rest) =>
      match mark with
      | .item item => branches isExtended isInGroup (item :: items) before n { source with rest }
      | .branch => branches isExtended isInGroup [] (before ++ [items.reverse]) n { source with rest }
      | .closed =>
        if isInGroup then some (before ++ [items.reverse], { source with rest }) else none
      | .times least most =>
        match items with
        | [] => none
        | item :: more =>
          branches isExtended isInGroup (.repeated least most item :: more) before n { source with rest }
      | .opened => do
        let number := source.groups + 1
        let (inner, source) ← branches isExtended true [] [] n ⟨rest, number⟩
        branches isExtended isInGroup (.group number inner :: items) before n source

def ofBytes? (isExtended : Bool) (bytes : Bytes) : Option Pattern :=
  (branches isExtended false [] [] (bytes.length + 1) ⟨bytes, 0⟩).map fun (all, _) => .group 0 all

/-- A way to match: how much of the line stands before it, what is left, and what groups took. -/
structure Way where
  before : Nat
  rest : Bytes
  taken : List (Nat × Bytes)

def Way.step (way : Way) (accepts : UInt8 → Bool) : List Way :=
  match way.rest with
  | b :: rest => if accepts b then [{ way with before := way.before + 1, rest }] else []
  | [] => []

def Way.follows (way : Way) (bytes : Bytes) : List Way :=
  match bytes.isPrefixOf? way.rest with
  | some rest => [{ way with before := way.before + bytes.length, rest }]
  | none => []

def inRanges (ranges : List (UInt8 × UInt8)) (b : UInt8) : Bool :=
  ranges.any fun (low, high) => low ≤ b && b ≤ high

mutual

/-- All ways to match from one on, those that take more first. -/
def ways : Nat → Pattern → Way → List Way
  | 0, _, _ => []
  | n + 1, pattern, way =>
    match pattern with
    | .byte b => way.step (· = b)
    | .any => way.step fun _ => true
    | .oneOf isNegated ranges => way.step fun b => inRanges ranges b != isNegated
    | .lineStart => if way.before = 0 then [way] else []
    | .lineEnd => if way.rest.isEmpty then [way] else []
    | .sameAs number => way.follows ((way.taken.lookup number).getD [])
    | .group number all =>
      (branchWays n all way).map fun next =>
        let taken := way.rest.take (next.before - way.before)
        { next with taken := (number, taken) :: next.taken }
    | .repeated least most item =>
      let more :=
        if most = some 0 then []
        else
          ((ways n item way).filter fun next => way.before < next.before || 0 < least).flatMap
            (ways n (.repeated (least - 1) (most.map (· - 1)) item))
      more ++ if least = 0 then [way] else []

def branchWays : Nat → List (List Pattern) → Way → List Way
  | 0, _, _ => []
  | _ + 1, [], _ => []
  | n + 1, branch :: more, way => itemWays n branch [way] ++ branchWays n more way

def itemWays : Nat → List Pattern → List Way → List Way
  | 0, _, _ => []
  | _ + 1, [], found => found
  | n + 1, item :: more, found => itemWays n more (found.flatMap (ways n item))

end

def longest? (pattern : Pattern) (before : Nat) (rest : Bytes) : Option Way :=
  let found := ways (4 * rest.length + 100) pattern ⟨before, rest, []⟩
  found.foldl (fun best way =>
    match best with
    | some kept => if kept.before < way.before then some way else best
    | none => some way) none

end Pattern

end SnapshotGen.Filter
