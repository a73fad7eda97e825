/-!
Globs: patterns for paths with `/` between names. They match byte by byte; only runs of stars that
stand for whole names, and sets of characters, match a separator.
-/

namespace SnapshotGen.Ignore

inductive Token
  | byte (b : UInt8)
  | anyByte
  | anyRun
  | anyStart
  | anyMiddle
  | anyEnd
  | oneOf (isNegated : Bool) (ranges : List (UInt8 × UInt8))
  | alternatives (branches : List (List Token))
  deriving Inhabited

abbrev Glob := List Token

abbrev Bytes := List UInt8

def separator : UInt8 := 0x2F

def restsInName : Bytes → List Bytes
  | [] => [[]]
  | b :: bs => (b :: bs) :: if b = separator then [] else restsInName bs

def restsBehindSeparators : Bytes → List Bytes
  | [] => []
  | b :: bs => (if b = separator then [bs] else []) ++ restsBehindSeparators bs

def ends : Bytes → List Bytes
  | [] => [[]]
  | b :: bs => (b :: bs) :: ends bs

def distinct (rests : List Bytes) : List Bytes :=
  rests.foldl (fun kept rest => if kept.any (·.length == rest.length) then kept else kept ++ [rest])
    []

mutual

def Token.rests : Token → Bytes → List Bytes
  | .byte a, b :: bs => if a = b then [bs] else []
  | .anyByte, b :: bs => if b = separator then [] else [bs]
  | .anyRun, path => restsInName path
  | .anyStart, path => distinct (path :: restsBehindSeparators path)
  | .anyMiddle, b :: bs => if b = separator then bs :: restsBehindSeparators bs else []
  | .anyEnd, b :: bs => if b = separator then ends bs else []
  | .oneOf isNegated ranges, b :: bs =>
    if (ranges.any fun (low, high) => low ≤ b && b ≤ high) != isNegated then [bs] else []
  | .alternatives branches, path => if branches.all List.isEmpty then [path] else branchRests branches path
  | _, [] => []

def branchRests : List Glob → Bytes → List Bytes
  | [], _ => []
  | branch :: more, path =>
    (if branch.isEmpty then [] else globRests branch [path]) ++ branchRests more path

def globRests : Glob → List Bytes → List Bytes
  | [], paths => paths
  | token :: glob, paths => globRests glob (distinct (paths.flatMap token.rests))

end

def Token.isAnyStart : Token → Bool
  | .anyStart => true
  | _ => false

def Glob.matches (glob : Glob) (path : String) : Bool :=
  (glob.length = 1 && glob.all Token.isAnyStart) ||
    (globRests glob [path.toUTF8.toList]).any List.isEmpty

def charBytes (c : Char) : Bytes :=
  (String.ofList [c]).toUTF8.toList

def byteRanges (low high : Char) : List (UInt8 × UInt8) :=
  let single (b : UInt8) : UInt8 × UInt8 := (b, b)
  if low = high then (charBytes low).map single
  else
    match (charBytes low).getLast?, charBytes high with
    | some last, first :: rest =>
      (charBytes low).dropLast.map single ++ [(last, first)] ++ rest.map single
    | _, _ => []

/-- What a bracket opens: a set of characters, nothing as no bracket closes it, or no glob. -/
inductive Bracket
  | set (ranges : List (Char × Char)) (rest : List Char)
  | unclosed
  | malformed

def bracket (isFirst inRange : Bool) (ranges : List (Char × Char)) : List Char → Bracket
  | [] => .unclosed
  | c :: cs =>
    if c = ']' && !isFirst then
      .set ((if inRange then ('-', '-') :: ranges else ranges).reverse) cs
    else if c = '-' && !isFirst && !inRange then bracket false true ranges cs
    else if inRange then
      match ranges with
      | (low, _) :: more => if c < low then .malformed else bracket false false ((low, c) :: more) cs
      | [] => .malformed
    else bracket false false ((c, c) :: ranges) cs

/-- A glob that is being read: the tokens of its branch, last first, and for each open brace the
branches before it and the tokens in front of it. -/
structure Draft where
  tokens : List Token
  enclosing : List (List Glob × List Token)

namespace Draft

def push (draft : Draft) (tokens : List Token) : Draft :=
  { draft with tokens := tokens.reverse ++ draft.tokens }

def opened (draft : Draft) : Draft :=
  ⟨[], ([], draft.tokens) :: draft.enclosing⟩

def nextBranch (draft : Draft) : Draft :=
  match draft.enclosing with
  | (branches, outer) :: more => ⟨[], (branches ++ [draft.tokens.reverse], outer) :: more⟩
  | [] => draft

def closed? (draft : Draft) : Option Draft :=
  match draft.enclosing with
  | (branches, outer) :: more =>
    some ⟨.alternatives (branches ++ [draft.tokens.reverse]) :: outer, more⟩
  | [] => none

/-- Replaces the separator in front of two stars by a token for both. -/
def spanning (draft : Draft) (token : Token) : Draft :=
  match draft.tokens with
  | .anyStart :: _ | .anyEnd :: _ => draft
  | _ :: front => { draft with tokens := token :: front }
  | [] => draft

/-- Reads two stars, given what stands behind them. Together with the separators around them they
stand for any names; elsewhere each is a star of its own. -/
def twoStars (draft : Draft) (isBehindSeparator : Bool) (cs : List Char) : Draft × Option Char × List Char :=
  let inBraces := !draft.enclosing.isEmpty
  match draft.tokens.isEmpty, isBehindSeparator, cs with
  | true, _, [] => (draft.push [.anyStart], some '*', [])
  | true, _, '/' :: rest => (draft.push [.anyStart], some '/', rest)
  | false, true, [] => (draft.spanning .anyEnd, some '*', [])
  | false, true, '/' :: rest => (draft.spanning .anyMiddle, some '/', rest)
  | false, true, c :: rest =>
    if inBraces && (c = ',' || c = '\x7d') then (draft.spanning .anyEnd, some '*', c :: rest)
    else (draft.push [.anyRun, .anyRun], some '*', c :: rest)
  | _, _, cs => (draft.push [.anyRun, .anyRun], some '*', cs)

/-- Reads on behind a character. Once a bracket was not closed, brackets stand for themselves. -/
def read (draft : Draft) (hasSets : Bool) (before : Option Char) : Nat → List Char → Option Glob
  | 0, _ => none
  | _ + 1, [] => if draft.enclosing.isEmpty then some draft.tokens.reverse else none
  | n + 1, c :: cs =>
    let goOn (next : Draft) : Option Glob := next.read hasSets (some c) n cs
    let literal (c : Char) : List Token := (charBytes c).map Token.byte
    match c, cs with
    | '?', _ => goOn (draft.push [.anyByte])
    | '*', '*' :: cs =>
      let (next, before, cs) := draft.twoStars (before = some '/') cs
      next.read hasSets before n cs
    | '*', _ => goOn (draft.push [.anyRun])
    | '[', _ =>
      if hasSets then
        let isNegated := cs.head? = some '!' || cs.head? = some '^'
        match bracket true false [] (if isNegated then cs.drop 1 else cs) with
        | .set ranges rest =>
          let bytes := ranges.flatMap fun (low, high) => byteRanges low high
          (draft.push [.oneOf isNegated bytes]).read hasSets (some ']') n rest
        | .unclosed => (draft.push (literal '[')).read false (some c) n cs
        | .malformed => none
      else goOn (draft.push (literal '['))
    | '\x7b', _ => goOn draft.opened
    | '\x7d', _ => draft.closed?.bind goOn
    | ',', _ => goOn (if draft.enclosing.isEmpty then draft.push (literal ',') else draft.nextBranch)
    | '\\', c :: cs => (draft.push (literal c)).read hasSets (some c) n cs
    | '\\', [] => none
    | c, _ => goOn (draft.push (literal c))

end Draft

def Glob.ofText? (cs : List Char) : Option Glob :=
  Draft.read ⟨[], []⟩ true none (cs.length + 1) cs

end SnapshotGen.Ignore
