import SnapshotGen.Script.Node

/-!
Trees can be compared: two are the same if their kinds, their texts and their children are.
-/

namespace SnapshotGen.Script.Node

mutual

def decEq : (node other : Node) → Decidable (node = other)
  | mk kind text children, mk otherKind otherText otherChildren =>
    if sameKind : kind = otherKind then
      if sameText : text = otherText then
        match decEqChildren children otherChildren with
        | isTrue sameChildren => isTrue (sameKind ▸ sameText ▸ sameChildren ▸ rfl)
        | isFalse differ => isFalse fun same => differ (mk.inj same).2.2
      else isFalse fun same => sameText (mk.inj same).2.1
    else isFalse fun same => sameKind (mk.inj same).1

def decEqChildren : (children others : List (Role × Node)) → Decidable (children = others)
  | [], [] => isTrue rfl
  | [], _ :: _ => isFalse nofun
  | _ :: _, [] => isFalse nofun
  | (role, child) :: more, (otherRole, other) :: others =>
    if sameRole : role = otherRole then
      match decEq child other with
      | isTrue sameChild =>
        match decEqChildren more others with
        | isTrue sameMore => isTrue (sameRole ▸ sameChild ▸ sameMore ▸ rfl)
        | isFalse differ => isFalse fun same => differ (List.cons.inj same).2
      | isFalse differ => isFalse fun same => differ (Prod.mk.inj (List.cons.inj same).1).2
    else isFalse fun same => sameRole (Prod.mk.inj (List.cons.inj same).1).1

end

instance : DecidableEq Node := decEq

end SnapshotGen.Script.Node
