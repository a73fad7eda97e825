import SnapshotGen.Filter.Basic

/-!
How a text passes through a filter that copies. Caller and filter are joined by two pipes: the
caller writes the whole text, closes the first pipe, and only then reads the second. The filter
reads while its buffer has room and writes while the second pipe has room.
-/

namespace SnapshotGen.Filter

/-- How many bytes the pipe to a filter, its buffer and the pipe from it hold. -/
structure Sizes where
  pipeIn : Nat
  buffer : Nat
  pipeOut : Nat
  pipeIn_pos : 0 < pipeIn
  buffer_pos : 0 < buffer
  pipeOut_pos : 0 < pipeOut

namespace Sizes

def total (sizes : Sizes) : Nat :=
  sizes.pipeIn + sizes.buffer + sizes.pipeOut

/-- The pipes of a Linux system. A filter gets no more from a pipe at once than the pipe holds. -/
def usual : Sizes :=
  ⟨65536, 65536, 65536, by decide, by decide, by decide⟩

end Sizes

namespace Exchange

inductive Caller
  | writing (unsent : Bytes)
  | reading
  | returned
  deriving DecidableEq, Repr

namespace Caller

def unsent : Caller → Bytes
  | writing bytes => bytes
  | reading | returned => []

def isWriting : Caller → Bool
  | writing _ => true
  | reading | returned => false

end Caller

structure State where
  caller : Caller
  pipeIn : Bytes
  held : Bytes
  pipeOut : Bytes
  received : Bytes
  hasEnded : Bool
  deriving DecidableEq, Repr

def start (source : Bytes) : State :=
  ⟨.writing source, [], [], [], [], false⟩

/-- One step of the caller (`write`, `close`, `read`, `leave`) or of the filter (`take`, `put`,
`finish`). Bytes move in pieces of any length for which there is room. -/
inductive Step (sizes : Sizes) (state : State) : State → Prop
  | write {piece unsent : Bytes} : piece ≠ [] → state.caller = .writing (piece ++ unsent) →
      (state.pipeIn ++ piece).length ≤ sizes.pipeIn →
      Step sizes state
        { state with caller := .writing unsent, pipeIn := state.pipeIn ++ piece }
  | close : state.caller = .writing [] → Step sizes state { state with caller := .reading }
  | take {piece left : Bytes} : piece ≠ [] → state.pipeIn = piece ++ left →
      (state.held ++ piece).length ≤ sizes.buffer →
      Step sizes state { state with pipeIn := left, held := state.held ++ piece }
  | put {piece left : Bytes} : piece ≠ [] → state.held = piece ++ left →
      (state.pipeOut ++ piece).length ≤ sizes.pipeOut →
      Step sizes state { state with held := left, pipeOut := state.pipeOut ++ piece }
  | finish : state.hasEnded = false → state.caller.isWriting = false → state.pipeIn = [] →
      state.held = [] → Step sizes state { state with hasEnded := true }
  | read {piece left : Bytes} : piece ≠ [] → state.caller = .reading →
      state.pipeOut = piece ++ left →
      Step sizes state { state with pipeOut := left, received := state.received ++ piece }
  | leave : state.caller = .reading → state.hasEnded = true → state.pipeOut = [] →
      Step sizes state { state with caller := .returned }

end Exchange

end SnapshotGen.Filter

namespace SnapshotGen

/-- A filter that copies: it writes while it reads, and holds no more than these sizes. -/
def Process.copying (sizes : Filter.Sizes) (filter : Filter) : Process := fun arguments input =>
  let outcome := filter arguments input
  if outcome.unread.isEmpty && sizes.total < input.length then none else some outcome

end SnapshotGen
