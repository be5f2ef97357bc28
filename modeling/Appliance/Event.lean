/-!
# Events

What the appliance tells its listeners: a name, and a body whose form depends on
the name.
-/

namespace Appliance

/-- An event of the appliance. -/
structure Event where
  name : String
  body : String
deriving DecidableEq, Repr

end Appliance
