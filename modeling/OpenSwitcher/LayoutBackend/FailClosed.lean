import OpenSwitcher.LayoutBackend.Classification
/-!
# Fail-closed detection

What a query text and a list of input sources spell, and what becomes of it: the
detectors confirm the supported lists and nothing else, and the current layout is
known only if it is one of those that were confirmed.
-/

namespace OpenSwitcher.LayoutBackend

open Library

/-! ## What the sources spell -/

namespace Configures

variable {layouts : List SystemLayout} {codes : List Text}

theorem length_eq (h : Configures layouts codes) : layouts.length = codes.length := by
  have hlength := List.Perm.length_eq h
  rwa [List.length_map, List.length_mapIdx] at hlength

theorem toNat_ofNat {position : Nat} (h : position < 256) :
    (UInt32.ofNat position).toNat = position := by
  rw [UInt32.toNat_ofNat']
  exact Nat.mod_eq_of_lt (by omega)

theorem ofNat_toNat (count : UInt8) : UInt32.ofNat count.toNat = count.toUInt32 := by
  apply UInt32.toNat_inj.1
  rw [toNat_ofNat count.toNat_lt, UInt8.toNat_toUInt32]

end Configures

end OpenSwitcher.LayoutBackend
