import SnapshotGen.Disk.Tree

/-!
The entries of directories. Finding and writing go through one entry at a time, and to set an entry
changes what is looked up under its name and nothing else.
-/

namespace SnapshotGen.FileTree

variable {entries : List (String × FileTree)} {name : String} {entry : FileTree}

theorem lookup_cons_of_ne {key : String} {value : FileTree} (different : name ≠ key) :
    ((key, value) :: entries).lookup name = entries.lookup name := by
  rw [List.lookup_cons, beq_eq_false_iff_ne.mpr different]

theorem lookup_setEntry_self :
    (setEntry name entry entries).lookup name = some entry := by
  induction entries with
  | nil => simp [setEntry]
  | cons first more induction =>
      obtain ⟨key, value⟩ := first
      by_cases same : key = name
      · simp [setEntry, same]
      · rw [setEntry, if_neg same, lookup_cons_of_ne (Ne.symm same), induction]

theorem lookup_setEntry_other {other : String} (different : other ≠ name) :
    (setEntry name entry entries).lookup other = entries.lookup other := by
  induction entries with
  | nil => rw [setEntry, lookup_cons_of_ne different]
  | cons first more induction =>
      obtain ⟨key, value⟩ := first
      by_cases same : key = name
      · subst same
        rw [setEntry, if_pos rfl, lookup_cons_of_ne different, lookup_cons_of_ne different]
      · rw [setEntry, if_neg same, List.lookup_cons, List.lookup_cons, induction]

theorem setEntry_of_lookup (found : entries.lookup name = some entry) :
    setEntry name entry entries = entries := by
  induction entries with
  | nil => simp at found
  | cons first more induction =>
      obtain ⟨key, value⟩ := first
      by_cases same : key = name
      · subst same
        obtain rfl : value = entry := by simpa using found
        rw [setEntry, if_pos rfl]
      · rw [lookup_cons_of_ne (Ne.symm same)] at found
        rw [setEntry, if_neg same, induction found]

theorem setEntry_of_lookup_eq_none (absent : entries.lookup name = none) :
    setEntry name entry entries = entries ++ [(name, entry)] := by
  induction entries with
  | nil => rfl
  | cons first more induction =>
      obtain ⟨key, value⟩ := first
      by_cases same : key = name
      · simp [same] at absent
      · rw [lookup_cons_of_ne (Ne.symm same)] at absent
        rw [setEntry, if_neg same, induction absent, List.cons_append]

theorem find_singleton_eq_ok_iff :
    (directory entries).find [name] = .ok entry ↔ entries.lookup name = some entry := by
  rw [find]
  cases entries.lookup name <;> simp [find]

theorem find_append (tree : FileTree) (front back : List String) :
    tree.find (front ++ back) = tree.find front >>= fun found => found.find back := by
  induction front generalizing tree with
  | nil => rfl
  | cons name front induction =>
      cases tree with
      | file content => rfl
      | directory entries =>
          cases found : entries.lookup name with
          | none => simp [find, found, bind, Except.bind]
          | some entry => simpa [find, found] using induction entry

theorem write_cons_ok {tree after : FileTree} {content : ByteArray} {path : List String}
    (written : tree.write content (name :: path) = .ok after) :
    ∃ entries entry, tree = directory entries ∧ after = directory (setEntry name entry entries) ∧
      ((∃ before, entries.lookup name = some before ∧ before.write content path = .ok entry) ∨
        entries.lookup name = none ∧ path = [] ∧ entry = file content) := by
  cases tree with
  | file old => simp [write] at written
  | directory entries =>
      cases found : entries.lookup name with
      | some before =>
          cases inner : before.write content path with
          | error problem => simp [write, found, inner, bind, Except.bind] at written
          | ok entry =>
              obtain rfl : directory (setEntry name entry entries) = after := by
                simpa [write, found, inner, bind, Except.bind, pure, Except.pure] using written
              exact ⟨entries, entry, rfl, rfl, .inl ⟨before, found, inner⟩⟩
      | none =>
          cases path with
          | cons next path => simp [write, found] at written
          | nil =>
              obtain rfl : directory (setEntry name (file content) entries) = after := by
                simpa [write, found] using written
              exact ⟨entries, file content, rfl, rfl, .inr ⟨found, rfl, rfl⟩⟩

end SnapshotGen.FileTree
