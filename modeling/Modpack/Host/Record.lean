import Modpack.Host.Field
import Modpack.Host.Lists

/-!
# Records of the host

What all records of the host have in common: they are used by the names of their fields and of
their nested lists.
-/
namespace Modpack

/-- Records that are used by names. -/
class HostRecord (ρ : Type) where
  /-- The value of a field, if there is such a field and it has a value. -/
  getNamed? : ρ → String → Option FieldValue
  /-- Write a field. -/
  setNamed : ρ → String → FieldValue → Except HostError ρ
  /-- The handle of a nested list. -/
  handleNamed : ρ → String → Except HostError ListHandle
  /-- Put a fresh empty list in the place of a nested list. -/
  detachNamed : ρ → ListStore → String → Except HostError (ρ × ListStore)

end Modpack
