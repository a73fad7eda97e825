/-!
Bytes read as text: line by line up to the first that is none, or with a substitute for those that
are none.
-/

namespace SnapshotGen.Text

def byteLines : List UInt8 → List (List UInt8)
  | [] => [[]]
  | b :: bs =>
    if b = 0x0A then [] :: byteLines bs
    else
      match byteLines bs with
      | [] => [[b]]
      | line :: lines => (b :: line) :: lines

def textLines : List (List UInt8) → List (List Char)
  | [] => []
  | bytes :: more =>
    match String.fromUTF8? ⟨bytes.toArray⟩ with
    | some line => line.toList :: textLines more
    | none => []

/-- The lines of a content up to the first that is not text. -/
def leadingLines (content : ByteArray) : List (List Char) :=
  textLines (byteLines content.toList)

/-- The least and greatest byte that may follow the first one, and how many bytes follow in all. -/
def following? (first : UInt8) : Option (UInt8 × UInt8 × Nat) :=
  if 0xC2 ≤ first && first ≤ 0xDF then some (0x80, 0xBF, 1)
  else if first = 0xE0 then some (0xA0, 0xBF, 2)
  else if first = 0xED then some (0x80, 0x9F, 2)
  else if 0xE1 ≤ first && first ≤ 0xEF then some (0x80, 0xBF, 2)
  else if first = 0xF0 then some (0x90, 0xBF, 3)
  else if 0xF1 ≤ first && first ≤ 0xF3 then some (0x80, 0xBF, 3)
  else if first = 0xF4 then some (0x80, 0x8F, 3)
  else none

def wellFormedCount (low high : UInt8) : Nat → List UInt8 → Nat
  | n + 1, b :: bs => if low ≤ b && b ≤ high then wellFormedCount 0x80 0xBF n bs + 1 else 0
  | _, _ => 0

def codePoint (first : UInt8) (more : List UInt8) : Nat :=
  let lead :=
    match more.length with
    | 1 => first.toNat - 0xC0
    | 2 => first.toNat - 0xE0
    | _ => first.toNat - 0xF0
  more.foldl (fun n b => n * 64 + (b.toNat - 0x80)) lead

/-- Each longest run of bytes that begins a character but is none gives one substitute. -/
def decodedWithSubstitutes (bytes : List UInt8) : List Char :=
  match bytes with
  | [] => []
  | b :: bs =>
    if b < 0x80 then Char.ofNat b.toNat :: decodedWithSubstitutes bs
    else
      match following? b with
      | none => '\ufffd' :: decodedWithSubstitutes bs
      | some (low, high, count) =>
        let found := wellFormedCount low high count bs
        let c := if found = count then Char.ofNat (codePoint b (bs.take count)) else '\ufffd'
        c :: decodedWithSubstitutes (bs.drop found)
termination_by bytes.length
decreasing_by
  all_goals simp only [List.length_cons, List.length_drop]
  all_goals omega

end SnapshotGen.Text
