import SnapshotGen.Proofs.Catalog
import SnapshotGen.Synthesis

/-!
Values of props without fields. Whatever rule gives such a value, it is that of a kind, a fixture of
the catalog, or one of the two that stand for themselves; of the type expression the rules read what
is left without the mark of a required type.
-/

namespace SnapshotGen.FakeValue

/-- What holds of the values of kinds, of fixtures, and of the two that stand for themselves holds of
the value of every prop without fields. -/
theorem ofPlain_induction {motive : FakeValue → Prop} {catalog : Catalog}
    (ofKind : ∀ kind value, ofKind? kind = some value → motive value)
    (ofFixture : ∀ entry ∈ catalog.fixtures, motive (fixture entry.identifier))
    (ofNode : motive node) (ofNothing : motive unknown) (name : String) (kind : Option PropKind)
    (raw : Option String) : motive (ofPlain catalog name kind raw) := by
  have ofName : ∀ name value, ofName? name = some value → motive value := by
    intro name value known
    obtain ⟨kind, _, isKind⟩ := Option.bind_eq_some_iff.mp known
    exact ofKind kind value isKind
  have ofRawMember : ∀ raw value, ofRawMember? raw = some value → motive value := by
    intro raw value known
    obtain ⟨tag, _, ofTag⟩ := Option.bind_eq_some_iff.mp known
    split at ofTag
    · cases ofTag
    · exact ofName tag value ofTag
  unfold ofPlain
  cases known : ((kind.bind ofKind?).or <| (ofName? name).or <| (raw.bind ofRawMember?).or <|
      (raw.bind (ofCatalog? catalog)).or <| raw.bind ofRawNode?) with
  | none => exact ofNothing
  | some value =>
      simp only [Option.or_eq_some_iff, Option.bind_eq_some_iff] at known
      rcases known with ⟨kind, _, isKind⟩ | ⟨_, isName | ⟨_, ⟨raw, _, isMember⟩ |
        ⟨_, ⟨raw, _, inCatalog⟩ | ⟨_, raw, _, isNode⟩⟩⟩⟩
      · exact ofKind kind value isKind
      · exact ofName name value isName
      · exact ofRawMember raw value isMember
      · obtain ⟨entry, found, rfl⟩ := Option.map_eq_some_iff.mp inCatalog
        exact ofFixture entry (Catalog.mem_of_lookup? found)
      · unfold ofRawNode? at isNode
        split at isNode <;> cases isNode
        exact ofNode

theorem ofPlain_of_stripRequired_eq {raw other : String}
    (same : Fixture.stripRequired raw = Fixture.stripRequired other) (catalog : Catalog)
    (name : String) (kind : Option PropKind) :
    ofPlain catalog name kind (some raw) = ofPlain catalog name kind (some other) := by
  simp only [ofPlain, Option.bind_some, ofRawMember?, ofCatalog?, Catalog.lookup?, ofRawNode?, same]

theorem ofKind?_ne_object {kind : PropKind} (fields : List (String × FakeValue)) :
    ofKind? kind ≠ some (object fields) := by
  cases kind <;> exact nofun

theorem ofPlain_ne_object (catalog : Catalog) (name : String) (kind : Option PropKind)
    (raw : Option String) (fields : List (String × FakeValue)) :
    ofPlain catalog name kind raw ≠ object fields := by
  refine ofPlain_induction (motive := (· ≠ object fields)) ?_ ?_ nofun nofun name kind raw
  · rintro kind _ known rfl
    exact ofKind?_ne_object fields known
  · exact fun _ _ => nofun

end SnapshotGen.FakeValue
