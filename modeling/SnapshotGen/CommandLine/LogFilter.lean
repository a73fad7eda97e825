import SnapshotGen.Notice
import SnapshotGen.Text.Blank
import SnapshotGen.Text.Letter

/-!
Which notices reach the log. A filter gives a greatest rank to every origin with a certain
beginning; the longest beginning decides.
-/

namespace SnapshotGen

structure LogFilter where
  directives : List (String × Nat)
  deriving DecidableEq, Repr

namespace LogFilter

def upTo (level : Level) : LogFilter :=
  ⟨[("", level.rank)]⟩

def ranks : List (String × Nat) :=
  [("off", 0), ("error", 1), ("warn", 2), ("info", 3), ("debug", 4), ("trace", 5), ("0", 0),
    ("1", 1), ("2", 2), ("3", 3), ("4", 4), ("5", 5)]

def rank? (text : List Char) : Option Nat :=
  ranks.lookup (String.ofList (text.map Char.toLower))

def isOrigin (text : List Char) : Bool :=
  !text.isEmpty && text.all fun c => Text.isWordChar c || c == ':' || c == '-'

/-- A directive: a rank for all origins, an origin for all ranks, or both with an equals sign. -/
def directive? (text : List Char) : Option (String × Nat) :=
  let origin := text.takeWhile (· != '=')
  match text.dropWhile (· != '=') with
  | [] =>
    match rank? text with
    | some rank => some ("", rank)
    | none => if isOrigin text then some (String.ofList text, 5) else none
  | _ :: rank =>
    if !isOrigin origin then none
    else
      let origin := if (rank? origin).isSome then "" else String.ofList origin
      if rank.isEmpty then some (origin, 5) else (rank? rank).map (origin, ·)

def ofText? (text : String) : Option LogFilter := do
  let pieces := (Text.splitAt ',' text.toList).filter (!·.isEmpty)
  let directives ← pieces.mapM directive?
  return if directives.isEmpty then upTo .error else ⟨directives⟩

/-- The more telling of two directives; of two for the same origin, the later one. -/
def better (best : Option (String × Nat)) (next : String × Nat) : Option (String × Nat) :=
  match best with
  | some kept => if kept.1.length ≤ next.1.length then some next else best
  | none => some next

def admits (filter : LogFilter) (notice : Notice) : Bool :=
  let telling := filter.directives.filter fun (origin, _) =>
    origin.toList.isPrefixOf notice.origin.toList
  match telling.foldl better none with
  | some (_, rank) => notice.level.rank ≤ rank
  | none => false

end LogFilter

end SnapshotGen
