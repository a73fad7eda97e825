/-!
Trees of files: a file has a content, a directory has named entries.
-/

namespace SnapshotGen

inductive FileTree
  | file (content : ByteArray)
  | directory (entries : List (String × FileTree))
  deriving Inhabited

inductive FileProblem
  | missing
  | notDirectory
  | isDirectory
  | notText
  deriving DecidableEq, Repr

def FileProblem.message : FileProblem → String
  | missing => "No such file or directory (os error 2)"
  | notDirectory => "Not a directory (os error 20)"
  | isDirectory => "Is a directory (os error 21)"
  | notText => "stream did not contain valid UTF-8"

namespace FileTree

def empty : FileTree :=
  directory []

def isDirectory : FileTree → Bool
  | directory _ => true
  | file _ => false

def find (tree : FileTree) : List String → Except FileProblem FileTree
  | [] => .ok tree
  | name :: path =>
    match tree with
    | file _ => .error .notDirectory
    | directory entries =>
      match entries.lookup name with
      | some entry => entry.find path
      | none => .error .missing

def text : FileTree → Except FileProblem String
  | directory _ => .error .isDirectory
  | file content =>
    match String.fromUTF8? content with
    | some text => .ok text
    | none => .error .notText

def setEntry (name : String) (entry : FileTree) :
    List (String × FileTree) → List (String × FileTree)
  | [] => [(name, entry)]
  | (other, kept) :: more =>
    if other = name then (name, entry) :: more else (other, kept) :: setEntry name entry more

def write (content : ByteArray) : List String → FileTree → Except FileProblem FileTree
  | [], file _ => .ok (file content)
  | [], directory _ => .error .isDirectory
  | _ :: _, file _ => .error .notDirectory
  | name :: path, directory entries =>
    match entries.lookup name, path with
    | some entry, path => do
      return directory (setEntry name (← entry.write content path) entries)
    | none, [] => .ok (directory (setEntry name (file content) entries))
    | none, _ :: _ => .error .missing

/-- Puts a tree at the end of a path, whose directories are made where they are missing. -/
def plant : FileTree → List String → FileTree → FileTree
  | _, [], planted => planted
  | tree, name :: path, planted =>
    let entries :=
      match tree with
      | directory entries => entries
      | file _ => []
    directory (setEntry name (((entries.lookup name).getD empty).plant path planted) entries)

mutual

def files : FileTree → List (List String × ByteArray)
  | file content => [([], content)]
  | directory entries => entryFiles entries

def entryFiles : List (String × FileTree) → List (List String × ByteArray)
  | [] => []
  | (name, entry) :: more =>
    entry.files.map (fun (path, content) => (name :: path, content)) ++ entryFiles more

end

def changes (before after : FileTree) : List (List String × ByteArray) :=
  let old := before.files
  after.files.filter fun (path, content) =>
    !old.any fun (known, kept) => known == path && kept.toList == content.toList

end FileTree

end SnapshotGen
