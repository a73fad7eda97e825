import SnapshotGen.Path
import SnapshotGen.Text.Casing

/-!
Names of test files and test directories, and the path of the test of a source file.
-/

namespace SnapshotGen

namespace TestName

def directories : List String :=
  ["test", "tests", "spec", "specs", "__tests__", "__mocks__", "__snapshots__", "__fixtures__",
    "e2e"]

def markers : List String := [".test.", ".spec."]

def scriptExtensions : List String := ["js", "jsx", "ts", "tsx", "mjs", "cjs"]

def isDirectory (name : String) : Bool :=
  directories.contains name

def splitLast? (name : List Char) : Option (List Char × List Char) :=
  let extension := (name.reverse.takeWhile (· ≠ '.')).reverse
  if extension.length = name.length then none
  else some (name.take (name.length - extension.length - 1), extension)

/-- A script whose name, in lower case and up to the last dot, ends in a marker and does not
begin with it. -/
def isFile (name : String) : Bool :=
  match splitLast? (Text.lower name.toList) with
  | none => false
  | some (stem, extension) =>
    scriptExtensions.contains (String.ofList extension) &&
      markers.any fun marker =>
        marker.toList.isSuffixOf (stem ++ ['.']) && marker.length < stem.length + 1

/-- The test of `dir/name.ext` is `dir/name.test.ext`; a source without an extension has a test
with the extension `js`. -/
def forSource (source : List Char) : List Char :=
  let stem := (Path.fileStem? source).getD []
  let extension := (Path.extension? source).getD ['j', 's']
  Path.withFileName source (stem ++ ".test.".toList ++ extension)

end TestName

end SnapshotGen
