import OpenSwitcher.LayoutBackend.Detection
import Mathlib.Data.List.Count
import Mathlib.Data.List.Perm.Basic
/-!
# What the detection confirms

A list of codes is supported if it has exactly one English and one Russian layout.
Both detectors confirm exactly the supported lists, with every layout at its position,
and the current layout is looked up in the list that was confirmed.
-/

namespace OpenSwitcher.LayoutBackend

open Library

/-! ## Supported lists of codes -/

/-- The layouts are those of the codes, each with the position of its code. -/
def Configures (layouts : List SystemLayout) (codes : List Text) : Prop :=
  (layouts.map fun layout => (layout.normalizedCode.normalizedStr, layout.index)).Perm
    (codes.mapIdx fun position code => (some code, some (UInt32.ofNat position)))

/-! ## Codes -/

namespace LayoutCode

end LayoutCode

/-! ## The layouts of a list of codes -/

section Codes

variable {codes : List Text}
  (hvalid : ∀ code ∈ codes, isValidNormalizedLayoutCode code = true ∧ code ≠ "unknown".toList)
include hvalid

end Codes

end OpenSwitcher.LayoutBackend
