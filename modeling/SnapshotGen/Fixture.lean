import SnapshotGen.Text.Blank

/-!
Fixtures are shared test data for domain types. The catalog finds the fixture of a type expression.
-/

namespace SnapshotGen

structure Fixture where
  typeName : String
  identifier : String
  path : String
  deriving DecidableEq, Repr

namespace Fixture

def requiredMark : String := ".isRequired"

/-- A type expression without one trailing `.isRequired`. -/
def stripRequired (raw : String) : String :=
  (Text.dropEnd? requiredMark raw).getD raw

def importLine (fixture : Fixture) : String :=
  "import " ++ fixture.identifier ++ " from '" ++ fixture.path ++ "'"

end Fixture

/-- Fixtures in the order in which their type names were first stored. -/
structure Catalog where
  fixtures : List Fixture
  deriving DecidableEq, Repr

namespace Catalog

def empty : Catalog := ⟨[]⟩

def builtin : Catalog := ⟨[
  ⟨"RomanPropTypes.CardData", "cardData", "roman-shared/src/cardData/testData/cardData.json"⟩,
  ⟨"RomanPropTypes.Doctor", "doctor", "roman-shared/src/user/testData/doctor.json"⟩,
  ⟨"RomanPropTypes.DraftUser", "draftUser", "roman-shared/src/user/testData/draftUser.json"⟩,
  ⟨"RomanPropTypes.Member", "member", "roman-shared/src/user/testData/member.json"⟩,
  ⟨"RomanPropTypes.Order", "order", "roman-shared/src/order/testData/order.json"⟩,
  ⟨"RomanPropTypes.Pharmacist", "pharmacist", "roman-shared/src/user/testData/pharmacist.json"⟩,
  ⟨"RomanPropTypes.Plan", "plan", "roman-shared/src/plan/testData/plan.json"⟩,
  ⟨"RomanPropTypes.PlanListItem", "planListItem",
    "roman-shared/src/plan/testData/planListItem.json"⟩,
  ⟨"RomanPropTypes.Prescription", "prescription",
    "roman-shared/src/prescription/testData/prescription.json"⟩,
  ⟨"RomanPropTypes.Product", "product", "roman-shared/src/product/testData/product.json"⟩,
  ⟨"RomanPropTypes.Tracker", "tracker", "roman-shared/src/tracker/testData/tracker.json"⟩,
  ⟨"RomanPropTypes.TrackerPlan", "trackerPlan",
    "roman-shared/src/tracker/testData/trackerPlan.json"⟩,
  ⟨"RomanPropTypes.TreatmentRecommendation", "treatmentRecommendation",
    "roman-shared/src/treatment-recommendation/testData/treatmentRecommendation.json"⟩,
  ⟨"RomanPropTypes.TreatmentRecommendationItem", "treatmentRecommendationItem",
    "roman-shared/src/treatment-recommendation/testData/treatmentRecommendationItem.json"⟩,
  ⟨"RomanPropTypes.TreatmentRequest", "treatmentRequest",
    "roman-shared/src/treatment-request/testData/treatmentRequest.json"⟩,
  ⟨"RomanPropTypes.TreatmentRequestItem", "treatmentRequestItem",
    "roman-shared/src/treatment-request/testData/treatmentRequestItem.json"⟩,
  ⟨"RomanPropTypes.User", "user", "roman-shared/src/user/testData/user.json"⟩]⟩

/-- Stores a fixture under its type name without `.isRequired`: in place of the fixture that has
the name, else at the end. -/
def insert (catalog : Catalog) (fixture : Fixture) : Catalog :=
  ⟨place { fixture with typeName := Fixture.stripRequired fixture.typeName } catalog.fixtures⟩
where
  place (fixture : Fixture) : List Fixture → List Fixture
    | [] => [fixture]
    | stored :: more =>
      if stored.typeName = fixture.typeName then fixture :: more else stored :: place fixture more

def insertAll (catalog : Catalog) (extra : List Fixture) : Catalog :=
  extra.foldl insert catalog

def lookup? (catalog : Catalog) (raw : String) : Option Fixture :=
  catalog.fixtures.find? fun fixture => fixture.typeName == Fixture.stripRequired raw

def size (catalog : Catalog) : Nat :=
  catalog.fixtures.length

def importLine? (catalog : Catalog) (raw : Option String) : Option String :=
  raw.bind fun raw => (catalog.lookup? raw).map Fixture.importLine

end Catalog

end SnapshotGen
