/-!
Texts and characters between quotes, with escapes for what does not show.
-/

namespace SnapshotGen.Text

def hexDigits (n : Nat) : List Char :=
  Nat.toDigits 16 n

/-- Characters that do not show: controls, formats, private ones, and spaces other than the
plain one. -/
def isHidden (c : Char) : Bool :=
  let n := c.toNat
  n < 0x20 || (0x7F ≤ n && n ≤ 0xA0) || n == 0xAD || (0x600 ≤ n && n ≤ 0x605) || n == 0x61C ||
    n == 0x6DD || n == 0x70F || n == 0x1680 || n == 0x180E || (0x2000 ≤ n && n ≤ 0x200F) ||
    (0x2028 ≤ n && n ≤ 0x202F) || (0x205F ≤ n && n ≤ 0x206F) || n == 0x3000 ||
    (0xE000 ≤ n && n ≤ 0xF8FF) || n == 0xFEFF || (0xFFF0 ≤ n && n ≤ 0xFFFB) || 0xE0000 ≤ n

def escaped (quote c : Char) : List Char :=
  if c = '\x00' then ['\\', '0']
  else if c = '\t' then ['\\', 't']
  else if c = '\n' then ['\\', 'n']
  else if c = '\r' then ['\\', 'r']
  else if c = '\\' || c = quote then ['\\', c]
  else if isHidden c then "\\u\x7b".toList ++ hexDigits c.toNat ++ ['\x7d']
  else [c]

def quotedBy (quote : Char) (cs : List Char) : String :=
  String.ofList (quote :: (cs.flatMap (escaped quote) ++ [quote]))

def quoted (s : String) : String :=
  quotedBy '"' s.toList

end SnapshotGen.Text
