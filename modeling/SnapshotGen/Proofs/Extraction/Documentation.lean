import SnapshotGen.Extraction.Comment
import SnapshotGen.Proofs.Script.Comments
import SnapshotGen.Proofs.Text.Lines

/-!
Comments that are written around some lines, each behind a star. Reading one takes off just what
was written around the lines, whatever blanks and stars they hold themselves.
-/

namespace SnapshotGen.Extraction

open Script Text

def starred (line : List Char) : List Char :=
  " * ".toList ++ line

def documentation (lines : List (List Char)) : List Char :=
  List.intercalate ['\n'] (opening :: (lines.map starred ++ [' ' :: closing]))

/-- Lines that a comment can say: none holds a line end or the end of a comment or has blanks behind
it, the first begins with more than a blank, and the last is not empty. -/
structure IsDocumentation (lines : List (List Char)) : Prop where
  unbroken : ∀ line ∈ lines, '\n' ∉ line
  isOpen : ∀ line ∈ lines, ¬closing <:+: line
  noBlankBehind : ∀ line ∈ lines, ∀ c ∈ line.getLast?, isBlank c = false
  begins : ∃ first ∈ lines.head?, ∃ c ∈ first.head?, isBlank c = false
  ends : ∃ last ∈ lines.getLast?, last ≠ []

variable {lines : List (List Char)} {line : List Char}

section

variable {piece front rest : List Char}

theorem dropLeading_append (notEmpty : piece ≠ []) (notAgain : piece.isPrefixOf? rest = none) :
    dropLeading piece (piece ++ rest) = rest := by
  obtain ⟨c, more, rfl⟩ := List.exists_cons_of_ne_nil notEmpty
  have isFirst : (c :: more).isPrefixOf? (c :: more ++ rest) = some rest :=
    List.isPrefixOf?_eq_some_iff_append_eq.mpr rfl
  unfold dropLeading
  rw [List.cons_append, List.length_cons, ← List.cons_append, dropLeading.go, isFirst]
  cases (more ++ rest).length with
  | zero => rfl
  | succ n =>
      dsimp only
      rw [dropLeading.go, notAgain]

theorem dropTrailing_append (notEmpty : piece ≠ [])
    (notAgain : piece.reverse.isPrefixOf? front.reverse = none) :
    dropTrailing piece (front ++ piece) = front := by
  unfold dropTrailing
  rw [List.reverse_append, dropLeading_append (by simpa using notEmpty) notAgain,
    List.reverse_reverse]

end

/-- The lines of a comment without the blanks around all of them. -/
def starredLines (first : List Char) (more : List (List Char)) : List (List Char) :=
  ('*' :: ' ' :: first) :: more.map starred

def starredText (first : List Char) (more : List (List Char)) : List Char :=
  List.intercalate ['\n'] (starredLines first more)

theorem documentation_cons (first : List Char) (more : List (List Char)) :
    documentation (first :: more) =
      opening ++ (['\n', ' '] ++ starredText first more ++ ['\n', ' ']) ++ closing := by
  have front : documentation (first :: more) =
      List.intercalate ['\n'] (opening :: (first :: more).map starred) ++ ['\n'] ++
        ' ' :: closing :=
    intercalate_concat (List.cons_ne_nil opening _)
  rw [front, List.map_cons, List.intercalate_cons_cons]
  simp [starredText, starredLines, starred]

/-- A line that stands behind a star; where the comment itself begins no blank is in front of it. -/
inductive Bears (line : List Char) : List Char → Prop
  | atStar : Bears line ('*' :: ' ' :: line)
  | behindBlank : Bears line (starred line)

namespace Bears

variable {piece : List Char}

theorem unbroken (bears : Bears line piece) (lineUnbroken : '\n' ∉ line) : '\n' ∉ piece := by
  cases bears with
  | atStar => simpa using lineUnbroken
  | behindBlank => simpa [starred] using lineUnbroken

theorem isOpen (bears : Bears line piece) (lineIsOpen : ¬closing <:+: line) :
    ¬closing <:+: piece := by
  have atStar : ¬closing <:+: '*' :: ' ' :: line := by
    simpa [closing, List.infix_cons_iff, List.cons_prefix_cons] using lineIsOpen
  cases bears with
  | atStar => exact atStar
  | behindBlank =>
      rintro isInfix
      rcases List.infix_cons_iff.mp isInfix with isPrefix | inRest
      · exact absurd (List.cons_prefix_cons.mp isPrefix).1 (by decide)
      · exact atStar inRest

theorem getLast? (bears : Bears line piece) : piece.getLast? = some (line.getLast?.getD ' ') := by
  cases bears with
  | atStar => rw [List.getLast?_cons, List.getLast?_cons, Option.getD_some]
  | behindBlank =>
      change (' ' :: '*' :: ' ' :: line).getLast? = _
      rw [List.getLast?_cons, List.getLast?_cons, List.getLast?_cons, Option.getD_some,
        Option.getD_some]

theorem ne_nil (bears : Bears line piece) : piece ≠ [] :=
  List.ne_nil_of_mem (List.mem_of_getLast? bears.getLast?)

theorem commentLine_eq (bears : Bears line piece)
    (noBlankBehind : ∀ c ∈ line.getLast?, isBlank c = false) : commentLine piece = line := by
  have atStar : commentLine ('*' :: ' ' :: line) = line := by
    cases line with
    | nil => decide
    | cons c rest =>
        have same : trim ('*' :: ' ' :: c :: rest) = '*' :: ' ' :: c :: rest := by
          refine trim_eq_self (by simp [isBlank]) ?_
          rwa [List.getLast?_cons_cons, List.getLast?_cons_cons]
        rw [commentLine, same]
        rfl
  cases bears with
  | atStar => exact atStar
  | behindBlank =>
      have trimmed : trim (starred line) = trim ('*' :: ' ' :: line) :=
        trim_append_left [' '] rfl _
      rw [commentLine, trimmed, ← commentLine, atStar]

end Bears

section

variable {first last piece : List Char} {more : List (List Char)}

theorem exists_bears_of_mem (member : piece ∈ starredLines first more) :
    ∃ line ∈ first :: more, Bears line piece := by
  rcases List.mem_cons.mp member with rfl | inMore
  · exact ⟨first, .head _, .atStar⟩
  · obtain ⟨line, isLine, rfl⟩ := List.mem_map.mp inMore
    exact ⟨line, .tail _ isLine, .behindBlank⟩

theorem exists_bears_getLast? (isLast : (first :: more).getLast? = some last) :
    ∃ piece, (starredLines first more).getLast? = some piece ∧ Bears last piece := by
  rw [starredLines, List.getLast?_cons, List.getLast?_map]
  rw [List.getLast?_cons] at isLast
  cases behind : more.getLast? with
  | none =>
      rw [behind] at isLast
      cases isLast
      exact ⟨_, rfl, .atStar⟩
  | some line =>
      rw [behind] at isLast
      cases isLast
      exact ⟨_, rfl, .behindBlank⟩

theorem map_commentLine_starredLines
    (noBlankBehind : ∀ line ∈ first :: more, ∀ c ∈ line.getLast?, isBlank c = false) :
    (starredLines first more).map commentLine = first :: more := by
  obtain ⟨ofFirst, ofMore⟩ := List.forall_mem_cons.mp noBlankBehind
  rw [starredLines, List.map_cons, Bears.atStar.commentLine_eq ofFirst, List.map_map]
  congr 1
  refine (List.map_congr_left fun line member => ?_).trans (List.map_id more)
  exact Bears.behindBlank.commentLine_eq (ofMore line member)

end

namespace IsDocumentation

variable {first : List Char} {more : List (List Char)}

theorem exists_cons (documents : IsDocumentation lines) : ∃ first more, lines = first :: more := by
  obtain ⟨first, isFirst, -⟩ := documents.begins
  exact ⟨first, List.head?_eq_some_iff.mp isFirst⟩

theorem lines_starredText (documents : IsDocumentation (first :: more)) :
    Text.lines (starredText first more) = starredLines first more := by
  obtain ⟨last, isLast, -⟩ := documents.ends
  obtain ⟨piece, isLastPiece, bears⟩ := exists_bears_getLast? isLast
  refine lines_intercalate ?_ ?_ isLastPiece bears.ne_nil
  · intro piece member
    obtain ⟨line, isLine, bears⟩ := exists_bears_of_mem member
    exact bears.unbroken (documents.unbroken line isLine)
  · intro piece member isReturn
    obtain ⟨line, isLine, bears⟩ := exists_bears_of_mem member
    rw [bears.getLast?] at isReturn
    cases behind : line.getLast? with
    | none => simp [behind] at isReturn
    | some c =>
        have noBlank := documents.noBlankBehind line isLine c behind
        obtain rfl : c = '\r' := by simpa [behind] using isReturn
        exact absurd noBlank (by decide)

/-- Blanks are taken off around the comment, but none off its lines. -/
theorem trim_starredText (documents : IsDocumentation (first :: more)) :
    trim (['\n', ' '] ++ starredText first more ++ ['\n', ' ']) = starredText first more := by
  rw [trim_append_right ['\n', ' '] rfl, trim_append_left ['\n', ' '] rfl]
  obtain ⟨last, isLast, notEmpty⟩ := documents.ends
  obtain ⟨piece, isLastPiece, bears⟩ := exists_bears_getLast? isLast
  have lastIsLine := List.mem_of_getLast? isLast
  apply trim_eq_self
  · rw [starredText, starredLines, List.intercalate_cons_cons_left]
    simp [isBlank]
  · intro c isLastChar
    rw [starredText, getLast?_intercalate isLastPiece bears.ne_nil, bears.getLast?,
      List.getLast?_eq_some_getLast notEmpty] at isLastChar
    cases isLastChar
    exact documents.noBlankBehind last lastIsLine _ (List.getLast?_eq_some_getLast notEmpty)

/-- Every line is read as it was written, be it empty, indented or begin with a star. -/
theorem commentLines_eq (documents : IsDocumentation lines) :
    commentLines (documentation lines) = lines := by
  obtain ⟨first, more, rfl⟩ := documents.exists_cons
  unfold commentLines
  rw [documentation_cons, List.append_assoc,
    dropLeading_append (by decide) rfl,
    dropTrailing_append (by decide) (by rw [List.reverse_append]; rfl),
    documents.trim_starredText, documents.lines_starredText,
    map_commentLine_starredLines documents.noBlankBehind]

theorem trim_joined (documents : IsDocumentation lines) :
    trim (List.intercalate ['\n'] lines) = List.intercalate ['\n'] lines := by
  obtain ⟨first, isFirst, c, isFirstChar, noBlank⟩ := documents.begins
  obtain ⟨more, rfl⟩ := List.head?_eq_some_iff.mp isFirst
  obtain ⟨rest, rfl⟩ := List.head?_eq_some_iff.mp isFirstChar
  obtain ⟨last, isLast, notEmpty⟩ := documents.ends
  apply trim_eq_self
  · rw [List.intercalate_cons_cons_left]
    simpa using noBlank
  · rw [getLast?_intercalate isLast notEmpty]
    exact documents.noBlankBehind last (List.mem_of_getLast? isLast)

theorem isOpen_starredText (documents : IsDocumentation (first :: more)) :
    ¬closing <:+: ['*', '\n', ' '] ++ starredText first more ++ ['\n', ' '] := by
  have free : '\n' ∉ closing := by decide
  have notEmpty : closing ≠ [] := by decide
  have whole : ['*', '\n', ' '] ++ starredText first more ++ ['\n', ' '] =
      ['*'] ++ '\n' :: ((' ' :: starredText first more) ++ '\n' :: [' ']) := by simp
  rw [whole]
  intro isInfix
  rcases infix_of_infix_append_cons free notEmpty isInfix with inFront | behindFront
  · exact absurd inFront (by decide)
  rcases infix_of_infix_append_cons free notEmpty behindFront with inLines | atEnd
  · rcases List.infix_cons_iff.mp inLines with isPrefix | inText
    · exact absurd (List.cons_prefix_cons.mp isPrefix).1 (by decide)
    · obtain ⟨piece, member, inPiece⟩ := exists_infix_of_infix_intercalate free notEmpty inText
      obtain ⟨line, isLine, bears⟩ := exists_bears_of_mem member
      exact bears.isOpen (documents.isOpen line isLine) inPiece
  · exact absurd atEnd (by decide)

theorem commentLength?_eq (documents : IsDocumentation lines) (rest : List Char) :
    commentLength? (documentation lines ++ rest) = some (documentation lines).length := by
  obtain ⟨first, more, rfl⟩ := documents.exists_cons
  have whole : documentation (first :: more) =
      '/' :: '*' :: (['*', '\n', ' '] ++ starredText first more ++ ['\n', ' '] ++ closing) := by
    rw [documentation_cons]
    rfl
  have atClosing : blockTail? (closing ++ rest) = some closing.length := rfl
  have noSlash : (closing ++ rest).head? ≠ some '/' := by simp [closing]
  rw [whole, List.cons_append, List.cons_append, commentLength?, List.append_assoc _ closing rest,
    blockTail?_append documents.isOpen_starredText noSlash, atClosing]
  simp only [Option.map_some, Option.some.injEq, List.length_cons, List.length_append]
  omega

theorem description_eq (documents : IsDocumentation lines) :
    description (documentation lines) = String.ofList (List.intercalate ['\n'] lines) := by
  obtain ⟨first, more, rfl⟩ := documents.exists_cons
  have isOpened : opening.isPrefixOf (documentation (first :: more)) = true := by
    rw [documentation_cons]
    rfl
  rw [description, if_pos isOpened, documents.commentLines_eq, documents.trim_joined]

end IsDocumentation

end SnapshotGen.Extraction
