import SnapshotGen.CommandLine.Program
import SnapshotGen.Proofs.Batch.Returning
import SnapshotGen.Proofs.Batch.Settled
import SnapshotGen.Proofs.Batch.Writes
import SnapshotGen.Proofs.CommandLine.Loudness
import SnapshotGen.Proofs.Extraction.Uses
import SnapshotGen.Proofs.Template.Builtin

/-!
How a run of the program ends. What can fail as a whole does so before the first test is written; a
batch that is begun ends well, if its tools return, and its tests are all that is written.
-/

namespace SnapshotGen.CommandLine

variable {request other : Request} {surroundings : Surroundings} {settings : Settings}
  {root : String} {engine : Engine}

/-! ### Stages -/

structure Ready (request : Request) (surroundings : Surroundings) (settings : Settings)
    (root : String) (engine : Engine) : Prop where
  loaded : ∃ loaded, load surroundings = .ok loaded ∧ settings = request.applied loaded
  valid : settings.invalid? = none
  isRoot : request.root surroundings.prompt settings = .ok root
  directory : surroundings.disk.isDirectory root = true
  engine : engineOf (templatePath? settings surroundings.disk) surroundings.disk = .ok engine

theorem Ready.unique {otherSettings : Settings} {otherRoot : String} {otherEngine : Engine}
    (ready : Ready request surroundings settings root engine)
    (otherReady : Ready request surroundings otherSettings otherRoot otherEngine) :
    otherSettings = settings ∧ otherRoot = root ∧ otherEngine = engine := by
  obtain ⟨loaded, isLoaded, rfl⟩ := ready.loaded
  obtain ⟨loaded', isLoaded', rfl⟩ := otherReady.loaded
  cases isLoaded.symm.trans isLoaded'
  cases ready.isRoot.symm.trans otherReady.isRoot
  cases ready.engine.symm.trans otherReady.engine
  exact ⟨rfl, rfl, rfl⟩

def Outcome.left (outcome : Outcome) : Nat × Disk :=
  (outcome.code, outcome.disk)

variable {arguments : List String}

def Process.Total (process : Process) : Prop :=
  ∀ arguments input, (process arguments input).isSome

end SnapshotGen.CommandLine
