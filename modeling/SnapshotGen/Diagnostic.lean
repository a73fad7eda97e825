/-!
Remarks on a component whose declarations leave something open.
-/

namespace SnapshotGen

inductive Diagnostic
  | missingProps (component path : String)
  | missingType (prop component path : String)
  | missingDefault (prop component path : String)
  deriving DecidableEq, Repr

namespace Diagnostic

def prop? : Diagnostic → Option String
  | missingProps _ _ => none
  | missingType prop _ _ => some prop
  | missingDefault prop _ _ => some prop

def message : Diagnostic → String
  | missingProps component path => s!"no props found in {component} at {path}"
  | missingType prop component path =>
    s!"propType not set for {prop} in {component} at {path}, consider setting it in propTypes"
  | missingDefault prop component path =>
    s!"defaultProps value not set for {prop} in {component} at {path}, generated fake data instead"

end Diagnostic

end SnapshotGen
