import SnapshotGen.Proofs.Script.Names

/-!
Identifiers: the names by which a module can import something. A script is read with fewer words
set aside and more characters allowed in names, so not every name in it is one.
-/

namespace SnapshotGen.Script

/-- Words that a script may have as names, though a module can import nothing by them. -/
def contextualWords : List String :=
  ["arguments", "await", "enum", "eval", "export", "implements", "interface", "let", "package",
    "private", "protected", "public", "static", "yield"]

def isIdentifier (letters : Letters) (text : String) : Bool :=
  match text.toList with
  | [] => false
  | c :: rest =>
    letters.starts c && rest.all letters.continues && !reservedWords.contains text &&
      !contextualWords.contains text

theorem not_isIdentifier_of_mem {letters : Letters} {text : String} {c : Char}
    (member : c ∈ text.toList) (notStart : letters.starts c = false)
    (notRest : letters.continues c = false) : isIdentifier letters text = false := by
  unfold isIdentifier
  split
  · rfl
  · rename_i d rest same
    rw [same] at member
    rcases List.mem_cons.mp member with rfl | inRest
    · simp [notStart]
    · have notAll : rest.all letters.continues = false :=
        List.all_eq_false.mpr ⟨c, inRest, by simp [notRest]⟩
      simp [notAll]

/-- A name that a script gives is an identifier unless it is one of the few words that the script
may have as names, or spelled with what no identifier is spelled with. -/
theorem isIdentifier_iff_of_isToken {letters : Letters} {text : String}
    (isName : IsToken nameLength text) (unreserved : text ∉ reservedWords) :
    isIdentifier letters text = true ↔ letters.Spell text ∧ text ∉ contextualWords := by
  constructor
  · intro isIdentifier
    have plain : '\\' ∉ text.toList := by
      intro member
      rw [not_isIdentifier_of_mem member (by simp [Letters.starts, isPlainStart, isBeyondAscii])
        (by simp [Letters.continues, isPlainRest, isPlainStart, isBeyondAscii])] at isIdentifier
      cases isIdentifier
    unfold Script.isIdentifier at isIdentifier
    split at isIdentifier
    · cases isIdentifier
    · rename_i c rest same
      simp only [Bool.and_eq_true, List.all_eq_true, Bool.not_eq_true', List.contains_eq_mem,
        decide_eq_false_iff_not] at isIdentifier
      obtain ⟨⟨⟨starts, continues⟩, _⟩, notContextual⟩ := isIdentifier
      refine ⟨⟨plain, ?_, ?_⟩, notContextual⟩
      · rw [same]
        rintro d ⟨⟩ _
        exact starts
      · rw [same]
        exact fun d inRest _ => continues d inRest
  · rintro ⟨spelled, notContextual⟩
    obtain ⟨c, rest, same, starts, inNames⟩ := toList_of_name isName spelled.plain
    obtain ⟨isStart, areRest⟩ := (Letters.spell_iff same starts inNames).mp spelled
    unfold isIdentifier
    rw [same]
    simp only [Bool.and_eq_true, List.all_eq_true, Bool.not_eq_true', List.contains_eq_mem,
      decide_eq_false_iff_not]
    exact ⟨⟨⟨isStart, areRest⟩, unreserved⟩, notContextual⟩

end SnapshotGen.Script
