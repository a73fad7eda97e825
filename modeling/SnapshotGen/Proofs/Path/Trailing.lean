import SnapshotGen.Proofs.Path.FileName

/-!
What may follow the last component of a path, and extensions of paths by their text.
-/

namespace SnapshotGen.Path

open Text

/-- A text that adds no component where it stands behind a separator. -/
def IsVoid (text : List Char) : Prop :=
  ∀ piece ∈ splitAt '/' text, piece = [] ∨ piece = ['.']

variable {path front rest text folder name extension : List Char}

theorem isVoid_nil : IsVoid [] := by
  simp [IsVoid, splitAt]

theorem isVoid_here : IsVoid ['.'] := by
  simp [IsVoid, splitAt]

theorem IsVoid.append_separator (isVoid : IsVoid rest) (more : IsVoid text) :
    IsVoid (rest ++ '/' :: text) := by
  intro piece member
  rw [splitAt_append_separator, List.mem_append] at member
  exact member.elim (isVoid piece) (more piece)

theorem parts_append_void (nonempty : path ≠ []) (isVoid : IsVoid rest) :
    parts (path ++ '/' :: rest) = parts path := by
  have none : (splitAt '/' rest).filterMap Part.ofPiece = [] := by
    rw [List.filterMap_eq_nil_iff]
    intro piece member
    rcases isVoid piece member with rfl | rfl
    · exact Part.ofPiece_nil
    · exact Part.ofPiece_here
  rw [parts_append_separator nonempty, none, List.append_nil]

/-- The last piece of a text that adds no component. -/
theorem IsVoid.exists_last (isVoid : IsVoid rest) :
    ∃ front last, '/' :: rest = front ++ '/' :: last ∧ (last = [] ∨ last = ['.']) := by
  rcases exists_last_separator '/' rest with free | ⟨front, last, rfl, free⟩
  · exact ⟨[], rest, rfl, isVoid rest (by rw [splitAt_of_not_mem free]; exact .head _)⟩
  · refine ⟨'/' :: front, last, rfl, isVoid last ?_⟩
    rw [splitAt_append_separator, splitAt_of_not_mem free]
    exact List.mem_append_right _ (.head _)

theorem getLast?_append_void (isVoid : IsVoid rest) :
    (path ++ '/' :: rest).getLast? = some '/' ∨ (path ++ '/' :: rest).getLast? = some '.' := by
  obtain ⟨front, last, eq, rfl | rfl⟩ := isVoid.exists_last
  · rw [eq]
    exact .inl (by simp)
  · rw [eq]
    exact .inr (by simp)

theorem exists_dropped (cs : List Char) :
    parent?.go cs = ['/'] ∨ parent?.go cs = cs ∨
      ∃ rest, IsVoid rest ∧ cs.reverse = (parent?.go cs).reverse ++ '/' :: rest := by
  -- As in the definition, the path is reversed, and each case drops one piece from its end.
  fun_induction parent?.go cs with
  | case1 => exact .inl rfl
  | case2 rest notRoot induction =>
      rcases induction with isRoot | kept | ⟨dropped, isVoid, eq⟩
      · exact .inl isRoot
      · exact .inr (.inr ⟨[], isVoid_nil, by rw [kept, List.reverse_cons]⟩)
      · refine .inr (.inr ⟨dropped ++ '/' :: [], isVoid.append_separator isVoid_nil, ?_⟩)
        rw [List.reverse_cons, eq, List.append_assoc, List.cons_append]
  | case3 => exact .inl rfl
  | case4 rest nonempty induction =>
      rcases induction with isRoot | kept | ⟨dropped, isVoid, eq⟩
      · exact .inl isRoot
      · exact .inr (.inr ⟨['.'], isVoid_here, by rw [kept]; simp⟩)
      · refine .inr (.inr ⟨dropped ++ '/' :: ['.'], isVoid.append_separator isVoid_here, ?_⟩)
        simp [eq]
  | case5 => exact .inr (.inl rfl)

/-- A path with a file name ends in it, or goes on with what adds no component. -/
theorem exists_trailing (named : fileName? path = some name) :
    ∃ folder, (folder = [] ∨ folder.getLast? = some '/') ∧
      (path = folder ++ name ∨ ∃ rest, IsVoid rest ∧ path = folder ++ name ++ '/' :: rest) := by
  obtain ⟨isName, folder, trimmed, separated⟩ := trimRight_eq_append named
  refine ⟨folder, separated, ?_⟩
  rw [← trimmed]
  rcases exists_dropped path.reverse with isRoot | kept | ⟨rest, isVoid, eq⟩
  · rw [← fileName?_trimRight, parent?.trimRight, isRoot] at named
    cases named
  · exact .inl (by rw [parent?.trimRight, kept, List.reverse_reverse])
  · exact .inr ⟨rest, isVoid, by rw [parent?.trimRight, ← eq, List.reverse_reverse]⟩

/-- A path that ends in a name does not go on behind it. -/
theorem append_name_ne_append_void (isName : IsName name)
    (separated : folder = [] ∨ folder.getLast? = some '/') (isVoid : IsVoid rest) :
    folder ++ name ≠ path ++ '/' :: rest := by
  obtain ⟨front, last, eq, isLast⟩ := isVoid.exists_last
  have lastFree : '/' ∉ last := by rcases isLast with rfl | rfl <;> decide
  rw [eq, ← List.append_assoc]
  intro same
  rcases separated with rfl | ends
  · rw [List.nil_append] at same
    exact isName.plain (same ▸ by simp)
  · obtain ⟨start, rfl⟩ := List.getLast?_eq_some_iff.mp ends
    rw [List.append_assoc, List.singleton_append] at same
    obtain ⟨_, rfl⟩ := append_separator_inj isName.plain lastFree same
    exact isLast.elim isName.nonempty isName.notHere

theorem exists_join_eq (directory : List Char) (isName : IsName name) :
    ∃ folder, (folder = [] ∨ folder.getLast? = some '/') ∧ join directory name = folder ++ name := by
  rw [join, if_neg (by simp [isAbsolute_eq_false isName])]
  by_cases separated : directory = [] ∨ directory.getLast? = some '/'
  · exact ⟨directory, separated, if_pos (by simpa using separated)⟩
  · refine ⟨directory ++ ['/'], .inr (by simp), ?_⟩
    rw [if_neg (by simpa using separated), List.append_assoc, List.singleton_append]

theorem exists_last_piece (text : List Char) :
    ∃ folder name, text = folder ++ name ∧ '/' ∉ name ∧
      (folder = [] ∨ folder.getLast? = some '/') := by
  rcases exists_last_separator '/' text with free | ⟨front, back, rfl, free⟩
  · exact ⟨[], text, rfl, free, .inl rfl⟩
  · exact ⟨front ++ ['/'], back, by simp, free, .inr (by simp)⟩

theorem fileName?_append (isName : IsName name)
    (separated : folder = [] ∨ folder.getLast? = some '/') :
    fileName? (folder ++ name) = some name := by
  rw [fileName?, parts_append_name isName separated, List.getLast?_concat]
  rfl

theorem isName_of_getLast? {c : Char} (ends : name.getLast? = some c) (noDot : c ≠ '.')
    (plain : '/' ∉ name) : IsName name := by
  refine ⟨?_, ?_, ?_, plain⟩
  · rintro rfl
    cases ends
  · rintro rfl
    exact noDot (Option.some.inj ends).symm
  · rintro rfl
    exact noDot (Option.some.inj ends).symm

theorem exists_fileName? {c : Char} (ends : path.getLast? = some c) (noSeparator : c ≠ '/')
    (noDot : c ≠ '.') : ∃ name, fileName? path = some name := by
  obtain ⟨folder, name, rfl, plain, separated⟩ := exists_last_piece path
  have nonempty : name ≠ [] := by
    rintro rfl
    rw [List.append_nil] at ends
    rcases separated with rfl | separator
    · cases ends
    · exact noSeparator (Option.some.inj (ends.symm.trans separator))
  have nameEnds : name.getLast? = some c := by
    rw [← ends, List.getLast?_append, List.getLast?_eq_some_getLast nonempty, Option.some_or]
  exact ⟨name, fileName?_append (isName_of_getLast? nameEnds noDot plain) separated⟩

theorem isName_append_extension (nonempty : extension ≠ []) (free : '.' ∉ extension)
    (plain : '/' ∉ extension) (namePlain : '/' ∉ name) : IsName (name ++ '.' :: extension) := by
  refine ⟨by simp, fun same => ?_, fun same => ?_, by simp [plain, namePlain]⟩
  · cases name <;> simp_all
  · have split : name ++ '.' :: extension = ['.'] ++ '.' :: [] := same
    exact nonempty (append_separator_inj free List.not_mem_nil split).2

theorem extension?_append (nonempty : extension ≠ []) (free : '.' ∉ extension)
    (plain : '/' ∉ extension) (named : front ≠ []) (inName : front.getLast? ≠ some '/') :
    extension? (front ++ '.' :: extension) = some extension := by
  obtain ⟨folder, stem, rfl, stemPlain, separated⟩ := exists_last_piece front
  have hasStem : stem ≠ [] := by
    rintro rfl
    rw [List.append_nil] at named inName
    exact separated.elim named inName
  have isName := isName_append_extension nonempty free plain stemPlain
  rw [List.append_assoc, extension?, fileName?_append isName separated, Option.bind_some,
    splitName_append hasStem free]

theorem extension?_hidden (nonempty : extension ≠ []) (free : '.' ∉ extension)
    (plain : '/' ∉ extension) (separated : folder = [] ∨ folder.getLast? = some '/') :
    extension? (folder ++ '.' :: extension) = none := by
  have isName : IsName ('.' :: extension) :=
    isName_append_extension nonempty free plain (List.not_mem_nil (a := '/'))
  rw [extension?, fileName?_append isName separated, Option.bind_some, splitName_hidden free]

end SnapshotGen.Path
