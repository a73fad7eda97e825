import SnapshotGen.Text.Blank

/-!
Path texts with `/` between components. Empty components and `.` do not count, except a `.` that
begins a relative path; two paths are the same when their components are.
-/

namespace SnapshotGen

namespace Path

inductive Part
  | root
  | here
  | up
  | name (text : List Char)
  deriving DecidableEq, Repr

namespace Part

def ofPiece (piece : List Char) : Option Part :=
  if piece = [] || piece = ['.'] then none
  else if piece = ['.', '.'] then some up
  else some (name piece)

def text : Part → List Char
  | root => ['/']
  | here => ['.']
  | up => ['.', '.']
  | name text => text

def name? : Part → Option (List Char)
  | name text => some text
  | _ => none

end Part

def parts (path : List Char) : List Part :=
  let pieces := Text.splitAt '/' path
  let start :=
    if path.head? = some '/' then [Part.root]
    else if pieces.head? = some ['.'] then [Part.here]
    else []
  start ++ pieces.filterMap Part.ofPiece

def fileName? (path : List Char) : Option (List Char) :=
  (parts path).getLast?.bind Part.name?

/-- A file name in front of its last dot and behind it; a dot at the start does not count. -/
def splitName (name : List Char) : List Char × Option (List Char) :=
  let extension := (name.reverse.takeWhile (· ≠ '.')).reverse
  let front := name.take (name.length - extension.length - 1)
  if extension.length = name.length || front = [] then (name, none) else (front, some extension)

def fileStem? (path : List Char) : Option (List Char) :=
  (fileName? path).map fun name => (splitName name).1

def extension? (path : List Char) : Option (List Char) :=
  (fileName? path).bind fun name => (splitName name).2

/-- The text in front of the last component, without the separators between the two. A path
whose last component is the root has no parent. -/
def parent? (path : List Char) : Option (List Char) :=
  match (parts path).getLast? with
  | none | some .root => none
  | some last =>
    let trailing := trimRight path
    let front := trailing.take (trailing.length - last.text.length)
    some (trimRight front)
where
  /-- Drops separators, and `.` components behind a separator, from the end. -/
  trimRight (path : List Char) : List Char :=
    (go path.reverse).reverse
  go : List Char → List Char
    | ['/'] => ['/']
    | '/' :: rest => go rest
    | '.' :: '/' :: rest => if rest = [] then ['/'] else go rest
    | cs => cs

def isAbsolute (path : List Char) : Bool :=
  path.head? = some '/'

def join (directory path : List Char) : List Char :=
  if isAbsolute path then path
  else if directory = [] || directory.getLast? = some '/' then directory ++ path
  else directory ++ '/' :: path

/-- The path with its last component replaced, or with the name added if the last component is
no name. -/
def withFileName (path name : List Char) : List Char :=
  match fileName? path with
  | none => join path name
  | some _ => join ((parent? path).getD []) name

def below? (directory path : List Char) : Option (List Part) :=
  (parts directory).isPrefixOf? (parts path)

/-- The order of components: the root, then `.` and `..`, then names by their characters. -/
def Part.before : Part → Part → Bool
  | root, _ => true
  | here, p => p != root
  | up, p => p != root && p != here
  | name a, name b => !b.lex a (· < ·)
  | name _, _ => false

def partsBefore : List Part → List Part → Bool
  | [], _ => true
  | _ :: _, [] => false
  | p :: ps, q :: qs => if p = q then partsBefore ps qs else p.before q

def before (path other : List Char) : Bool :=
  partsBefore (parts path) (parts other)

def ofParts (ps : List Part) : List Char :=
  ps.foldl (fun path part => join path part.text) []

/-- The way from a directory to a place: up to where the two ways part, and on from there. -/
def wayBetween : List Part → List Part → List Part
  | [], ps => ps
  | bs, [] => bs.map fun _ => .up
  | b :: bs, p :: ps => if b = p then wayBetween bs ps else (b :: bs).map (fun _ => .up) ++ p :: ps

/-- An absolute path, or the way to it from a directory where that has fewer components. -/
def shownFrom (directory path : List Char) : List Char :=
  let way := wayBetween (parts directory) (parts path)
  if way.length < (parts path).length then ofParts way else path

end Path

end SnapshotGen
