import SnapshotGen.Path
import SnapshotGen.Proofs.Path.Pieces

/-!
Components of paths. Joining a name to a path adds a component, and replacing the file name of a
path replaces its last component.
-/

namespace SnapshotGen.Path

open Text

/-- A text that stands for itself between separators. -/
structure IsName (text : List Char) : Prop where
  nonempty : text ≠ []
  notHere : text ≠ ['.']
  notUp : text ≠ ['.', '.']
  plain : '/' ∉ text

instance (text : List Char) : Decidable (IsName text) :=
  decidable_of_iff
    (text ≠ [] ∧ text ≠ ['.'] ∧ text ≠ ['.', '.'] ∧ '/' ∉ text)
    ⟨fun ⟨nonempty, notHere, notUp, plain⟩ => ⟨nonempty, notHere, notUp, plain⟩,
      fun name => ⟨name.nonempty, name.notHere, name.notUp, name.plain⟩⟩

namespace Part

@[simp] theorem ofPiece_nil : ofPiece [] = none := by simp [ofPiece]

@[simp] theorem ofPiece_here : ofPiece ['.'] = none := by simp [ofPiece]

theorem ofPiece_of_isName {text : List Char} (isName : IsName text) :
    ofPiece text = some (name text) := by
  simp [ofPiece, isName.nonempty, isName.notHere, isName.notUp]

theorem eq_of_ofPiece_eq_name {piece text : List Char} (known : ofPiece piece = some (name text)) :
    piece = text ∧ piece ≠ [] ∧ piece ≠ ['.'] ∧ piece ≠ ['.', '.'] := by
  unfold ofPiece at known
  split at known
  · contradiction
  · split at known <;> simp_all

end Part

def opening (path : List Char) : List Part :=
  if path.head? = some '/' then [.root]
  else if (splitAt '/' path).head? = some ['.'] then [.here]
  else []

theorem parts_eq (path : List Char) :
    parts path = opening path ++ (splitAt '/' path).filterMap Part.ofPiece := rfl

theorem opening_append_separator {path : List Char} (nonempty : path ≠ []) (rest : List Char) :
    opening (path ++ '/' :: rest) = opening path := by
  have sameHead : (path ++ '/' :: rest).head? = path.head? := by
    cases path with
    | nil => contradiction
    | cons c path => rfl
  have samePiece : (splitAt '/' (path ++ '/' :: rest)).head? = (splitAt '/' path).head? := by
    rw [splitAt_append_separator]
    cases pieces : splitAt '/' path with
    | nil => exact absurd pieces (splitAt_ne_nil path)
    | cons piece more => rfl
  rw [opening, opening, sameHead, samePiece]

theorem parts_append_separator {path : List Char} (nonempty : path ≠ []) (rest : List Char) :
    parts (path ++ '/' :: rest) =
      parts path ++ (splitAt '/' rest).filterMap Part.ofPiece := by
  rw [parts_eq, parts_eq, opening_append_separator nonempty, splitAt_append_separator,
    List.filterMap_append, List.append_assoc]

theorem parts_separator_cons (rest : List Char) :
    parts ('/' :: rest) = .root :: (splitAt '/' rest).filterMap Part.ofPiece := by
  rw [parts_eq, splitAt_separator_cons]
  simp [opening]

theorem parts_of_isName {name : List Char} (isName : IsName name) :
    parts name = [.name name] := by
  have noRoot : name.head? ≠ some '/' := fun starts =>
    isName.plain (List.mem_of_mem_head? starts)
  rw [parts_eq, splitAt_of_not_mem isName.plain]
  simp [opening, noRoot, splitAt_of_not_mem isName.plain, isName.notHere,
    Part.ofPiece_of_isName isName]

theorem parts_append_name {folder name : List Char} (isName : IsName name)
    (separated : folder = [] ∨ folder.getLast? = some '/') :
    parts (folder ++ name) = parts folder ++ [.name name] := by
  have named : (splitAt '/' name).filterMap Part.ofPiece = [.name name] := by
    simp [splitAt_of_not_mem isName.plain, Part.ofPiece_of_isName isName]
  rcases separated with rfl | ends
  · rw [List.nil_append, parts_of_isName isName]
    rfl
  · obtain ⟨front, rfl⟩ := List.getLast?_eq_some_iff.mp ends
    rw [List.append_assoc, List.singleton_append]
    by_cases isRoot : front = []
    · subst isRoot
      rw [List.nil_append, List.nil_append, parts_separator_cons, parts_separator_cons, named]
      simp [splitAt]
    · rw [parts_append_separator isRoot, parts_append_separator isRoot, named]
      simp [splitAt]

theorem isAbsolute_eq_false {name : List Char} (isName : IsName name) :
    isAbsolute name = false := by
  have noRoot : name.head? ≠ some '/' := fun starts =>
    isName.plain (List.mem_of_mem_head? starts)
  simp [isAbsolute, noRoot]

theorem parts_join (folder : List Char) {name : List Char} (isName : IsName name) :
    parts (join folder name) = parts folder ++ [.name name] := by
  rw [join, if_neg (by simp [isAbsolute_eq_false isName])]
  by_cases separated : folder = [] ∨ folder.getLast? = some '/'
  · rw [if_pos (by simpa using separated), parts_append_name isName separated]
  · rw [if_neg (by simpa using separated),
      parts_append_separator (fun isEmpty => separated (.inl isEmpty))]
    simp [splitAt_of_not_mem isName.plain, Part.ofPiece_of_isName isName]

theorem getLast?_join_ne {directory name : List Char} (isName : IsName name) :
    (join directory name).getLast? ≠ some '/' := by
  obtain ⟨front, joined⟩ : ∃ front, join directory name = front ++ name := by
    unfold join
    split
    · exact ⟨[], rfl⟩
    · split
      · exact ⟨directory, rfl⟩
      · exact ⟨directory ++ ['/'], by simp⟩
  rw [joined, List.getLast?_append, List.getLast?_eq_some_getLast isName.nonempty, Option.some_or]
  intro ends
  exact isName.plain (Option.some.inj ends ▸ List.getLast_mem isName.nonempty)

def along (path : List Char) (names : List String) : List Char :=
  names.foldl (fun path name => join path name.toList) path

theorem parts_along (path : List Char) {names : List String}
    (areNames : ∀ name ∈ names, IsName name.toList) :
    parts (along path names) = parts path ++ names.map fun name => .name name.toList := by
  induction names generalizing path with
  | nil => exact (List.append_nil _).symm
  | cons name names induction =>
      rw [List.forall_mem_cons] at areNames
      have onwards : parts (along path (name :: names)) =
          parts (join path name.toList) ++ names.map fun name => .name name.toList :=
        induction (join path name.toList) areNames.2
      rw [onwards, parts_join path areNames.1, List.append_assoc, List.map_cons,
        List.singleton_append]

theorem getLast?_along_ne {path : List Char} {names : List String}
    (areNames : ∀ name ∈ names, IsName name.toList)
    (plain : names = [] → path.getLast? ≠ some '/') : (along path names).getLast? ≠ some '/' := by
  induction names generalizing path with
  | nil => exact plain rfl
  | cons name names induction =>
      rw [List.forall_mem_cons] at areNames
      exact induction areNames.2 fun _ => getLast?_join_ne areNames.1

theorem parts_reverse_go (cs : List Char) :
    parts (parent?.go cs).reverse = parts cs.reverse := by
  -- The path is reversed, so that its end is dropped from the front.
  fun_induction parent?.go cs with
  | case1 => rfl
  | case2 rest notRoot induction =>
      have nonempty : rest.reverse ≠ [] := by simpa using notRoot
      rw [induction, List.reverse_cons, parts_append_separator nonempty]
      simp [splitAt]
  | case3 => rfl
  | case4 rest nonempty induction =>
      have reversed : ('.' :: '/' :: rest).reverse = rest.reverse ++ '/' :: ['.'] := by simp
      rw [induction, reversed, parts_append_separator (by simpa using nonempty)]
      simp [splitAt]
  | case5 => rfl

/-- What is left ends in neither a separator nor a dot behind one, unless it is one separator. -/
theorem go_trimmed (cs : List Char) :
    parent?.go cs = ['/'] ∨
      (∀ rest, parent?.go cs ≠ '/' :: rest) ∧ ∀ rest, parent?.go cs ≠ '.' :: '/' :: rest := by
  fun_induction parent?.go cs with
  | case1 => simp
  | case2 rest notRoot induction => exact induction
  | case3 => simp
  | case4 rest nonempty induction => exact induction
  | case5 cs notRoot notSeparator notHere => exact .inr ⟨notSeparator, notHere⟩

theorem parts_trimRight (path : List Char) : parts (parent?.trimRight path) = parts path := by
  rw [parent?.trimRight, parts_reverse_go, List.reverse_reverse]

theorem fileName?_trimRight (path : List Char) :
    fileName? (parent?.trimRight path) = fileName? path := by
  rw [fileName?, parts_trimRight, fileName?]

theorem getLast?_parts {path name : List Char} (named : fileName? path = some name) :
    (parts path).getLast? = some (.name name) := by
  obtain ⟨last, isLast, isName?⟩ := Option.bind_eq_some_iff.mp named
  cases last with
  | root | here | up => simp [Part.name?] at isName?
  | name text =>
      obtain rfl : text = name := Option.some.inj isName?
      exact isLast

theorem eq_fileName_of_not_mem {path name : List Char} (free : '/' ∉ path)
    (named : fileName? path = some name) : IsName name ∧ path = name := by
  have isLast := getLast?_parts named
  have noRoot : path.head? ≠ some '/' := fun starts => free (List.mem_of_mem_head? starts)
  rw [parts_eq, splitAt_of_not_mem free] at isLast
  cases piece : Part.ofPiece path with
  | none =>
      simp only [opening, if_neg noRoot, splitAt_of_not_mem free, List.filterMap_cons, piece,
        List.filterMap_nil, List.append_nil] at isLast
      split at isLast <;> simp at isLast
  | some part =>
      obtain rfl : part = .name name := by simpa [piece] using isLast
      obtain ⟨same, nonempty, notHere, notUp⟩ := Part.eq_of_ofPiece_eq_name piece
      subst same
      exact ⟨⟨nonempty, notHere, notUp, free⟩, rfl⟩

theorem eq_fileName_of_separator {front back name : List Char} (free : '/' ∉ back)
    (nonempty : back ≠ []) (notHere : back ≠ ['.'])
    (named : fileName? (front ++ '/' :: back) = some name) :
    IsName name ∧ back = name := by
  have isLast := getLast?_parts named
  rw [parts_eq, splitAt_append_separator, splitAt_of_not_mem free, List.filterMap_append] at isLast
  cases piece : Part.ofPiece back with
  | none =>
      unfold Part.ofPiece at piece
      split at piece
      · simp_all
      · split at piece <;> contradiction
  | some part =>
      obtain rfl : part = .name name := by simpa [piece] using isLast
      obtain ⟨same, _, _, notUp⟩ := Part.eq_of_ofPiece_eq_name piece
      subst same
      exact ⟨⟨nonempty, notHere, notUp, free⟩, rfl⟩

theorem trimRight_eq_append {path name : List Char} (named : fileName? path = some name) :
    IsName name ∧ ∃ folder, parent?.trimRight path = folder ++ name ∧
      (folder = [] ∨ folder.getLast? = some '/') := by
  rw [← fileName?_trimRight] at named
  rcases exists_last_separator '/' (parent?.trimRight path) with free | ⟨front, back, eq, free⟩
  · obtain ⟨isName, same⟩ := eq_fileName_of_not_mem free named
    exact ⟨isName, [], by simp [same], .inl rfl⟩
  · have reversed : parent?.go path.reverse = back.reverse ++ '/' :: front.reverse := by
      have := congrArg List.reverse eq
      simpa [parent?.trimRight] using this
    have trimmed := go_trimmed path.reverse
    rw [eq] at named ⊢
    rw [reversed] at trimmed
    have isFileName : IsName name ∧ back = name := by
      rcases trimmed with isRoot | ⟨noSeparator, noHere⟩
      · have : front ++ '/' :: back = ['/'] := by simpa using congrArg List.reverse isRoot
        rw [this] at named
        simp [fileName?, parts, splitAt, Part.name?] at named
      · have nonempty : back ≠ [] := fun isEmpty => noSeparator front.reverse (by simp [isEmpty])
        have notHere : back ≠ ['.'] := fun isHere => noHere front.reverse (by simp [isHere])
        exact eq_fileName_of_separator free nonempty notHere named
    obtain ⟨isName, rfl⟩ := isFileName
    exact ⟨isName, front ++ ['/'], by simp, .inr (by simp)⟩

theorem isName_of_fileName? {path name : List Char} (named : fileName? path = some name) :
    IsName name :=
  (trimRight_eq_append named).1

theorem parts_parent? {path name : List Char} (named : fileName? path = some name) :
    ∃ folder, parent? path = some folder ∧ parts path = parts folder ++ [.name name] := by
  obtain ⟨isName, folder, eq, separated⟩ := trimRight_eq_append named
  refine ⟨parent?.trimRight folder, ?_, ?_⟩
  · simp [parent?, getLast?_parts named, eq, Part.text]
  · rw [← parts_trimRight path, eq, parts_append_name isName separated, parts_trimRight]

theorem parts_eq_of_fileName? {path name : List Char} (named : fileName? path = some name) :
    parts path = (parts path).dropLast ++ [.name name] := by
  obtain ⟨folder, _, eq⟩ := parts_parent? named
  rw [eq, List.dropLast_concat]

theorem parts_withFileName {path name new : List Char} (named : fileName? path = some name)
    (isName : IsName new) :
    parts (withFileName path new) = (parts path).dropLast ++ [.name new] := by
  obtain ⟨folder, parent, eq⟩ := parts_parent? named
  rw [withFileName, named]
  simp only [parent, Option.getD_some]
  rw [parts_join folder isName, eq, List.dropLast_concat]

theorem fileName?_withFileName {path name new : List Char} (named : fileName? path = some name)
    (isName : IsName new) : fileName? (withFileName path new) = some new := by
  rw [fileName?, parts_withFileName named isName, List.getLast?_concat]
  rfl

/-- A path with its file name replaced stays in the same folder. -/
theorem parent?_withFileName {path name new : List Char} (named : fileName? path = some name)
    (isName : IsName new) :
    ∃ folder, parent? (withFileName path new) = some folder ∧
      parts folder = (parts path).dropLast := by
  obtain ⟨folder, parent, eq⟩ := parts_parent? (fileName?_withFileName named isName)
  rw [parts_withFileName named isName] at eq
  exact ⟨folder, parent, (List.append_inj_left' eq rfl).symm⟩

end SnapshotGen.Path
