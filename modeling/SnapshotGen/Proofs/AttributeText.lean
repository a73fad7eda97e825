import SnapshotGen.TestModel

/-!
Attributes of string props. Quotes change at the two ends of a text only, each end for itself; a
text stands as a quoted attribute just if both ends are quotes then and it has no line end. Quotes
inside the text are not looked at. A text that has been through this is not changed again.
-/

namespace SnapshotGen.AttributeValue

/-- What the first or the last character of a text becomes. -/
def atEnd (c : Char) : Char :=
  if c = '\'' then '"' else c

theorem atEnd_of_ne {c : Char} (different : c ≠ '\'') : atEnd c = c :=
  if_neg different

theorem atEnd_eq_self_iff {c : Char} : atEnd c = c ↔ c ≠ '\'' := by
  constructor
  · rintro same rfl
    exact absurd same (by decide)
  · exact atEnd_of_ne

theorem atEnd_eq_quote_iff {c : Char} : atEnd c = '"' ↔ c = '\'' ∨ c = '"' := by
  unfold atEnd
  split <;> simp_all

theorem doubleFirst_cons (c : Char) (rest : List Char) :
    doubleFirst (c :: rest) = atEnd c :: rest := by
  by_cases isQuote : c = '\''
  · subst isQuote
    rfl
  · rw [atEnd_of_ne isQuote, doubleFirst]
    rintro _ same
    exact isQuote (List.cons.inj same).1

theorem reverse_doubleFirst_reverse (body : List Char) (last : Char) :
    (doubleFirst (body ++ [last]).reverse).reverse = body ++ [atEnd last] := by
  rw [List.reverse_append, List.reverse_singleton, List.singleton_append, doubleFirst_cons,
    List.reverse_cons, List.reverse_reverse]

theorem doubleQuotes_of_ne {first : Char} (different : first ≠ '\'') (rest : List Char) :
    doubleQuotes (first :: rest) = (doubleFirst (first :: rest).reverse).reverse := by
  rw [doubleQuotes]
  rintro _ same
  exact different (List.cons.inj same).1

theorem doubleQuotes_singleton (c : Char) : doubleQuotes [c] = [atEnd c] := by
  by_cases isQuote : c = '\''
  · subst isQuote
    rfl
  · rw [doubleQuotes_of_ne isQuote]
    exact reverse_doubleFirst_reverse [] c

theorem doubleQuotes_ends (first last : Char) (body : List Char) :
    doubleQuotes (first :: (body ++ [last])) = atEnd first :: (body ++ [atEnd last]) := by
  by_cases isQuote : first = '\''
  · subst isQuote
    rw [doubleQuotes, reverse_doubleFirst_reverse]
    rfl
  · rw [doubleQuotes_of_ne isQuote, ← List.cons_append, reverse_doubleFirst_reverse,
      atEnd_of_ne isQuote, List.cons_append]

theorem exists_ends {cs : List Char} (long : 2 ≤ cs.length) :
    ∃ first body last, cs = first :: (body ++ [last]) := by
  cases cs with
  | nil => simp at long
  | cons first rest =>
      rcases List.eq_nil_or_concat rest with rfl | ⟨body, last, rfl⟩
      · simp at long
      · exact ⟨first, body, last, by rw [List.concat_eq_append]⟩

/-- Only the two ends of a text differ from those it had. -/
theorem ends_of_doubleQuotes_eq {cs body : List Char} {first last : Char}
    (doubled : doubleQuotes cs = first :: (body ++ [last])) :
    ∃ start stop, cs = start :: (body ++ [stop]) ∧ atEnd start = first ∧ atEnd stop = last := by
  by_cases long : 2 ≤ cs.length
  · obtain ⟨start, inner, stop, rfl⟩ := exists_ends long
    rw [doubleQuotes_ends, List.cons.injEq] at doubled
    obtain ⟨sameFirst, sameRest⟩ := doubled
    obtain ⟨rfl, sameLast⟩ := List.append_inj' sameRest rfl
    exact ⟨start, stop, rfl, sameFirst, List.singleton_inj.mp sameLast⟩
  · match cs with
    | [] => cases doubled
    | [c] => simp [doubleQuotes_singleton] at doubled
    | _ :: _ :: _ => simp at long

theorem text_ofString (text : String) :
    (ofString text).text = String.ofList (doubleQuotes text.toList) := by
  unfold ofString
  dsimp only
  split <;> rfl

theorem standsQuoted_iff {cs : List Char} :
    standsQuoted cs = true ↔
      ∃ body, cs = '"' :: (body ++ ['"']) ∧ ∀ c ∈ body, endsLine c = false := by
  constructor
  · intro stands
    simp only [standsQuoted, Bool.and_eq_true, decide_eq_true_eq, beq_iff_eq, Bool.not_eq_true',
      List.any_eq_false] at stands
    obtain ⟨⟨⟨long, starts⟩, ends⟩, oneLine⟩ := stands
    obtain ⟨first, body, last, rfl⟩ := exists_ends long
    obtain rfl : first = '"' := by simpa using starts
    obtain rfl : last = '"' := by simpa [List.getLast?_cons] using ends
    exact ⟨body, rfl, fun c member => by simpa using oneLine c (by simp [member])⟩
  · rintro ⟨body, rfl, oneLine⟩
    have noLineEnd : endsLine '"' = false := by decide
    simp only [standsQuoted, Bool.and_eq_true, decide_eq_true_eq, beq_iff_eq, Bool.not_eq_true',
      List.any_eq_false]
    refine ⟨⟨⟨by simp, rfl⟩, by simp [List.getLast?_cons]⟩, ?_⟩
    intro c member
    have inText : c = '"' ∨ c ∈ body := by simpa [or_comm, or_assoc] using member
    rcases inText with rfl | inBody
    · simp [noLineEnd]
    · simp [oneLine c inBody]

/-- What stands between the first and the last character. -/
def between (text : String) : List Char :=
  text.toList.tail.dropLast

theorem between_of_ends {text : String} {first last : Char} {body : List Char}
    (split : text.toList = first :: (body ++ [last])) : between text = body := by
  rw [between, split, List.tail_cons, List.dropLast_concat]

/-- One string of an attribute: on one line between two double quotes, with no other one. -/
def IsComplete (text : String) : Prop :=
  ∃ body, text.toList = '"' :: (body ++ ['"']) ∧ '"' ∉ body ∧ ∀ c ∈ body, endsLine c = false

theorem ofString_eq_quoted_iff {text shown : String} :
    ofString text = .quoted shown ↔
      ∃ first body last, text.toList = first :: (body ++ [last]) ∧
        (first = '\'' ∨ first = '"') ∧ (last = '\'' ∨ last = '"') ∧
        (∀ c ∈ body, endsLine c = false) ∧ shown.toList = '"' :: (body ++ ['"']) := by
  have unfolded : ofString text = .quoted shown ↔
      standsQuoted (doubleQuotes text.toList) = true ∧ doubleQuotes text.toList = shown.toList := by
    unfold ofString
    dsimp only
    split <;> simp_all [String.ext_iff]
  rw [unfolded, standsQuoted_iff]
  constructor
  · rintro ⟨⟨body, same, oneLine⟩, isShown⟩
    obtain ⟨first, last, split, startsQuoted, endsQuoted⟩ := ends_of_doubleQuotes_eq same
    exact ⟨first, body, last, split, atEnd_eq_quote_iff.mp startsQuoted,
      atEnd_eq_quote_iff.mp endsQuoted, oneLine, isShown.symm.trans same⟩
  · rintro ⟨first, body, last, split, startsQuoted, endsQuoted, oneLine, isShown⟩
    have doubled : doubleQuotes text.toList = '"' :: (body ++ ['"']) := by
      rw [split, doubleQuotes_ends, atEnd_eq_quote_iff.mpr startsQuoted,
        atEnd_eq_quote_iff.mpr endsQuoted]
    exact ⟨⟨body, doubled, oneLine⟩, doubled.trans isShown.symm⟩

/-- A text becomes a quoted attribute just if it stands on one line between two quotes, whether or
not these belong together. The attribute is one complete string just if no double quote stands
between them. -/
theorem complete_of_quoted (text shown : String) :
    (ofString text = .quoted shown ↔
      ∃ first body last, text.toList = first :: (body ++ [last]) ∧
        (first = '\'' ∨ first = '"') ∧ (last = '\'' ∨ last = '"') ∧
        (∀ c ∈ body, endsLine c = false) ∧ shown.toList = '"' :: (body ++ ['"'])) ∧
    (ofString text = .quoted shown → (IsComplete shown ↔ '"' ∉ between text)) := by
  refine ⟨ofString_eq_quoted_iff, fun isQuoted => ?_⟩
  obtain ⟨first, body, last, split, _, _, oneLine, isShown⟩ := ofString_eq_quoted_iff.mp isQuoted
  rw [between_of_ends split]
  constructor
  · rintro ⟨inner, sameText, plain, _⟩
    rw [isShown, List.cons.injEq] at sameText
    rwa [List.append_cancel_right sameText.2]
  · intro plain
    exact ⟨body, isShown, plain, oneLine⟩

theorem complete_of_quoted_its :
    ofString "'it\\'s'" = .quoted "\"it\\'s\"" ∧ IsComplete "\"it\\'s\"" := by
  have isQuoted : ofString "'it\\'s'" = .quoted "\"it\\'s\"" := by decide +kernel
  exact ⟨isQuoted, ((complete_of_quoted _ _).2 isQuoted).mpr (by decide +kernel)⟩

/-- A string in single quotes can have double quotes inside. -/
theorem quoted_not_complete :
    ofString "'say \"hi\"'" = .quoted "\"say \"hi\"\"" ∧ ¬IsComplete "\"say \"hi\"\"" := by
  refine ⟨by decide +kernel, ?_⟩
  rintro ⟨body, same, plain, _⟩
  have isBody : body = "say \"hi\"".toList := by
    have ends := congrArg (fun cs => cs.tail.dropLast) same
    rw [List.tail_cons, List.dropLast_concat] at ends
    exact ends.symm.trans (by decide +kernel)
  subst isBody
  exact plain (by decide +kernel)

theorem atEnd_atEnd (c : Char) : atEnd (atEnd c) = atEnd c := by
  rw [atEnd_eq_self_iff]
  unfold atEnd
  split
  · decide
  · assumption

theorem doubleQuotes_doubleQuotes (cs : List Char) :
    doubleQuotes (doubleQuotes cs) = doubleQuotes cs := by
  by_cases long : 2 ≤ cs.length
  · obtain ⟨first, body, last, rfl⟩ := exists_ends long
    rw [doubleQuotes_ends, doubleQuotes_ends, atEnd_atEnd, atEnd_atEnd]
  · match cs with
    | [] => rfl
    | [c] => rw [doubleQuotes_singleton, doubleQuotes_singleton, atEnd_atEnd]
    | _ :: _ :: _ => simp at long

/-- How a text stands in a tag is told by what it is with double quotes. -/
theorem ofString_congr {text other : String}
    (same : doubleQuotes text.toList = doubleQuotes other.toList) :
    ofString text = ofString other := by
  rw [ofString, ofString, same]

theorem ofString_text_ofString (text : String) :
    ofString (ofString text).text = ofString text := by
  apply ofString_congr
  rw [text_ofString, String.toList_ofList, doubleQuotes_doubleQuotes]

theorem ofString_single_eq_double (body : String) :
    ofString ("'" ++ body ++ "'") = ofString ("\"" ++ body ++ "\"") := by
  have single : ("'" ++ body ++ "'").toList = '\'' :: (body.toList ++ ['\'']) := by simp
  have double : ("\"" ++ body ++ "\"").toList = '"' :: (body.toList ++ ['"']) := by simp
  apply ofString_congr
  rw [single, double, doubleQuotes_ends, doubleQuotes_ends]
  rfl

theorem endsLine_eq_false_iff {c : Char} :
    endsLine c = false ↔ c ∉ ['\n', '\r', '\u2028', '\u2029'] := by
  simp [endsLine, and_assoc]

theorem exists_ofString_eq_quoted_iff {text : String} :
    (∃ shown, ofString text = .quoted shown) ↔
      2 ≤ text.length ∧
      (∃ c ∈ text.toList.head?, c = '\'' ∨ c = '"') ∧
      (∃ c ∈ text.toList.getLast?, c = '\'' ∨ c = '"') ∧
      ∀ c ∈ text.toList, c ∉ ['\n', '\r', '\u2028', '\u2029'] := by
  simp only [ofString_eq_quoted_iff, ← endsLine_eq_false_iff]
  constructor
  · rintro ⟨_, first, body, last, split, startsQuoted, endsQuoted, oneLine, _⟩
    have notLineEnd : ∀ c, c = '\'' ∨ c = '"' → endsLine c = false := by
      rintro c (rfl | rfl) <;> decide
    rw [← String.length_toList, split]
    refine ⟨by simp, ⟨first, rfl, startsQuoted⟩,
      ⟨last, by simp [List.getLast?_cons], endsQuoted⟩, ?_⟩
    intro c member
    have inText : c = first ∨ c ∈ body ∨ c = last := by simpa using member
    rcases inText with rfl | inBody | rfl
    · exact notLineEnd c startsQuoted
    · exact oneLine c inBody
    · exact notLineEnd c endsQuoted
  · rintro ⟨long, ⟨_, isFirst, startsQuoted⟩, ⟨_, isLast, endsQuoted⟩, oneLine⟩
    rw [← String.length_toList] at long
    obtain ⟨first, body, last, split⟩ := exists_ends long
    rw [split] at isFirst isLast oneLine
    obtain rfl := Option.some.inj isFirst
    obtain rfl : last = _ := by simpa [List.getLast?_cons] using isLast
    refine ⟨String.ofList ('"' :: (body ++ ['"'])), first, body, last, split, startsQuoted,
      endsQuoted, fun c inBody => oneLine c (by simp [inBody]), String.toList_ofList⟩

/-- A text that was brought to its form keeps it, and single quotes around a text have the form of
double ones. Quoted are the texts on one line that begin and end with quotes, of either kind. -/
theorem ofString_normal_form (text body : String) :
    ofString (ofString text).text = ofString text ∧
    ofString ("'" ++ body ++ "'") = ofString ("\"" ++ body ++ "\"") ∧
    ((∃ shown, ofString text = .quoted shown) ↔
      2 ≤ text.length ∧
      (∃ c ∈ text.toList.head?, c = '\'' ∨ c = '"') ∧
      (∃ c ∈ text.toList.getLast?, c = '\'' ∨ c = '"') ∧
      ∀ c ∈ text.toList, c ∉ ['\n', '\r', '\u2028', '\u2029']) :=
  ⟨ofString_text_ofString text, ofString_single_eq_double body, exists_ofString_eq_quoted_iff⟩

/-- A text that is kept, or has its two single quotes replaced by double quotes. -/
def ChangedInPairs (text shown : String) : Prop :=
  shown = text ∨ ∃ body, text.toList = '\'' :: (body ++ ['\'']) ∧
    shown.toList = '"' :: (body ++ ['"'])

theorem toList_text_ofString {text : String} {first last : Char} {body : List Char}
    (split : text.toList = first :: (body ++ [last])) :
    (ofString text).text.toList = atEnd first :: (body ++ [atEnd last]) := by
  rw [text_ofString, String.toList_ofList, split, doubleQuotes_ends]

theorem text_ofString_eq_self_iff {text : String} {first last : Char} {body : List Char}
    (split : text.toList = first :: (body ++ [last])) :
    (ofString text).text = text ↔ first ≠ '\'' ∧ last ≠ '\'' := by
  rw [← String.toList_inj, toList_text_ofString split, split, List.cons.injEq,
    List.append_right_inj, List.singleton_inj, atEnd_eq_self_iff, atEnd_eq_self_iff]

/-- Each end of a text is changed for itself: a single quote there becomes a double quote, and all
else is kept. So the quotes change in pairs just if both ends are single quotes or none is, and the
text of a default stays as it is where none is. -/
theorem ends_ofString {text : String} {first last : Char} {body : List Char}
    (split : text.toList = first :: (body ++ [last])) :
    (ofString text).text.toList = atEnd first :: (body ++ [atEnd last]) ∧
    ((ofString text).text = text ↔ first ≠ '\'' ∧ last ≠ '\'') ∧
    (ChangedInPairs text (ofString text).text ↔ (first = '\'' ↔ last = '\'')) ∧
    ∀ (catalog : Catalog) (sourceFile : String) (prop : PropDecl) (shown : String),
      prop.kind?.getD .string = .string → prop.declaredDefault = some text →
      (TestModel.testProp catalog sourceFile prop).value = .expression shown →
      first ≠ '\'' → last ≠ '\'' → shown = text := by
  refine ⟨toList_text_ofString split, text_ofString_eq_self_iff split, ?_, ?_⟩
  · unfold ChangedInPairs
    rw [text_ofString_eq_self_iff split, toList_text_ofString split, split]
    constructor
    · rintro (⟨notFirst, notLast⟩ | ⟨inner, sameText, _⟩)
      · exact ⟨fun isFirst => absurd isFirst notFirst, fun isLast => absurd isLast notLast⟩
      · rw [List.cons.injEq] at sameText
        obtain ⟨_, sameLast⟩ := List.append_inj' sameText.2 rfl
        exact ⟨fun _ => List.singleton_inj.mp sameLast, fun _ => sameText.1⟩
    · intro both
      by_cases isFirst : first = '\''
      · obtain rfl := both.mp isFirst
        subst isFirst
        exact .inr ⟨body, rfl, rfl⟩
      · exact .inl ⟨isFirst, fun isLast => isFirst (both.mpr isLast)⟩
  · intro catalog sourceFile prop shown isString hasDefault isExpression notFirst notLast
    have isText : (ofString text).text = shown := by
      have value : (TestModel.testProp catalog sourceFile prop).value = ofString text := by
        simp only [TestModel.testProp, TestModel.propText, hasDefault, isString, ofText, if_true]
      rw [← value, isExpression]
      rfl
    rw [← isText, (text_ofString_eq_self_iff split).mpr ⟨notFirst, notLast⟩]

/-- A default that begins with a string and goes on behind it. -/
theorem ends_ofString_sum :
    "'a' + b".toList = '\'' :: ("a' + ".toList ++ ['b']) ∧
      (ofString "'a' + b").text.toList = '"' :: ("a' + ".toList ++ ['b']) := by
  have split : "'a' + b".toList = '\'' :: ("a' + ".toList ++ ['b']) := by decide +kernel
  exact ⟨split, (ends_ofString split).1⟩

/-- One quote of a pair is changed where the other one does not stand at the end. -/
theorem not_changedInPairs_sum :
    2 ≤ "'a' + b".length ∧ ofString "'a' + b" = .expression "\"a' + b" ∧
      ¬ChangedInPairs "'a' + b" (ofString "'a' + b").text := by
  have shown : ofString "'a' + b" = .expression "\"a' + b" := by decide +kernel
  refine ⟨by decide +kernel, shown, ?_⟩
  rw [shown]
  rintro (same | ⟨body, sameText, _⟩)
  · exact absurd same (by decide +kernel)
  · have sameLast := congrArg List.getLast? sameText
    rw [List.getLast?_cons, List.getLast?_concat] at sameLast
    exact absurd sameLast (by decide +kernel)

end SnapshotGen.AttributeValue
