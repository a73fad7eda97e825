/-!
Filters: programs that read bytes, write bytes, may complain, and end with a status.
-/

namespace SnapshotGen.Filter

abbrev Bytes := List UInt8

inductive Ending
  | code (n : Nat)
  | signal (n : Nat)
  deriving DecidableEq, Repr

namespace Ending

def isSuccess (ending : Ending) : Bool :=
  ending = code 0

def signalNames : List (Nat × String) :=
  [(1, "SIGHUP"), (2, "SIGINT"), (3, "SIGQUIT"), (6, "SIGABRT"), (9, "SIGKILL"), (11, "SIGSEGV"),
    (13, "SIGPIPE"), (15, "SIGTERM")]

def shown : Ending → String
  | code n => "exit status: " ++ toString n
  | signal n =>
    "signal: " ++ toString n ++ ((signalNames.lookup n).elim "" fun name => " (" ++ name ++ ")")

end Ending

/-- What a run leaves: two outputs, a status, and the input that was not read. -/
structure Outcome where
  output : Bytes
  complaint : Bytes
  ending : Ending
  unread : Bytes

def ofText (text : String) : Bytes :=
  text.toUTF8.toList

namespace Outcome

def done (output : Bytes) : Outcome :=
  ⟨output, [], .code 0, []⟩

def silent (code : Nat) (input : Bytes) : Outcome :=
  ⟨[], [], .code code, input⟩

def refused (complaint : String) (code : Nat) (input : Bytes) : Outcome :=
  ⟨[], ofText complaint, .code code, input⟩

end Outcome

def newline : UInt8 := 0x0A

def isBlankByte (b : UInt8) : Bool :=
  b = 0x20 || (0x09 ≤ b && b ≤ 0x0D)

def lines : Bytes → List Bytes
  | [] => []
  | b :: bs =>
    if b = newline then [b] :: lines bs
    else
      match lines bs with
      | [] => [[b]]
      | line :: more => (b :: line) :: more

def lineText (line : Bytes) : Bytes :=
  line.filter (· ≠ newline)

def wordCount : Bytes → Nat
  | [] => 0
  | [b] => if isBlankByte b then 0 else 1
  | b :: c :: bs => (if !isBlankByte b && isBlankByte c then 1 else 0) + wordCount (c :: bs)

end SnapshotGen.Filter

namespace SnapshotGen

abbrev Filter := List String → Filter.Bytes → Filter.Outcome

/-- A program that is started and given its whole input before any of its output is read. The two may
wait for one another without end; then it leaves nothing. -/
abbrev Process := List String → Filter.Bytes → Option Filter.Outcome

/-- A filter that reads all its input before it writes. -/
def Process.reading (filter : Filter) : Process := fun arguments input =>
  some (filter arguments input)

end SnapshotGen
