import BeaconGateway.Network.Link

/-!
# Bits of the network status

Raising or lowering one bit leaves the others as they are. So neither a link nor the broker
connection touches whether relaying is suspended, and whether a link is up is the links' own affair.

## Main results

* `NetworkStatus.isSet_set`, `NetworkStatus.isSet_clear` — a bit outside the mask is kept;
* `NetworkStatus.isSet_set_self`, `NetworkStatus.isSet_clear_self` — the bits of the mask are up and
  down;
* `NetworkStatus.isConnected_eq` — the network is up if a link is;
* `NetworkStatus.isSuspended_onBroker`, `NetworkStatus.isSuspended_onLink` — what happens to the
  network does not suspend or resume relaying;
* `NetworkStatus.isConnected_onBroker`, `NetworkStatus.isConnected_set_suspended`,
  `NetworkStatus.isConnected_clear_suspended` — nothing but a link brings the network up or down.
-/

namespace BeaconGateway.NetworkStatus

/-! ### A bit outside the mask -/

/-- Raising some bits leaves the others. -/
theorem isSet_set {mask bit : UInt32} (hapart : mask &&& bit = 0) (s : NetworkStatus) :
    (s.set mask).isSet bit = s.isSet bit := by
  have hsplit : (s.bits ||| mask) &&& bit = s.bits &&& bit ||| mask &&& bit := by
    apply UInt32.toBitVec_inj.1
    simp only [UInt32.toBitVec_and, UInt32.toBitVec_or, BitVec.and_or_distrib_right]
  simp [isSet, set, hsplit, hapart]

/-- Lowering some bits leaves the others. -/
theorem isSet_clear {mask bit : UInt32} (houtside : ~~~mask &&& bit = bit) (s : NetworkStatus) :
    (s.clear mask).isSet bit = s.isSet bit := by
  rw [isSet, clear, UInt32.and_assoc, houtside, isSet]

/-! ### The bits of the mask -/

/-- A bit that was raised is set. -/
theorem isSet_set_self {mask : UInt32} (hnonzero : mask ≠ 0) (s : NetworkStatus) :
    (s.set mask).isSet mask = true := by
  have hraised : (s.bits ||| mask) &&& mask = mask := by
    rw [UInt32.and_comm]
    exact UInt32.toBitVec_inj.1 (by ext; simp +contextual)
  rw [isSet, set, hraised]
  exact bne_iff_ne.2 hnonzero

/-- A bit that was lowered is not. -/
theorem isSet_clear_self (mask : UInt32) (s : NetworkStatus) :
    (s.clear mask).isSet mask = false := by
  have hlowered : ~~~mask &&& mask = 0 := UInt32.toBitVec_inj.1 (by ext; simp)
  rw [isSet, clear, UInt32.and_assoc, hlowered, UInt32.and_zero]
  rfl

/-! ### Whether relaying is suspended -/

@[simp] theorem isSuspended_set_suspended (s : NetworkStatus) :
    (s.set suspended).isSuspended = true :=
  isSet_set_self (by decide) s

@[simp] theorem isSuspended_clear_suspended (s : NetworkStatus) :
    (s.clear suspended).isSuspended = false :=
  isSet_clear_self suspended s

@[simp] theorem isSuspended_onBroker (s : NetworkStatus) (connected : Bool) :
    (s.onBroker connected).isSuspended = s.isSuspended := by
  cases connected with
  | true => exact isSet_set (by decide) s
  | false => exact isSet_clear (by decide) s

@[simp] theorem isSuspended_onLink (s : NetworkStatus) (event : LinkEvent) :
    (s.onLink event).1.isSuspended = s.isSuspended := by
  rcases event with (_ | _) | (_ | _)
  · exact isSet_set (by decide) s
  · exact isSet_set (by decide) s
  · exact isSet_clear (by decide) s
  · exact isSet_clear (by decide) s

/-! ### Whether a link is up -/

/-- **The network is up** if a link is. -/
theorem isConnected_eq (s : NetworkStatus) :
    s.isConnected = (s.isSet wifi || s.isSet ethernet) := by
  have hsplit : s.bits &&& links = s.bits &&& wifi ||| s.bits &&& ethernet := by
    apply UInt32.toBitVec_inj.1
    simp only [links, UInt32.toBitVec_and, UInt32.toBitVec_or, BitVec.and_or_distrib_left]
  have heither : (s.bits &&& wifi ||| s.bits &&& ethernet = 0) ↔
      s.bits &&& wifi = 0 ∧ s.bits &&& ethernet = 0 := UInt32.or_eq_zero_iff
  rw [Bool.eq_iff_iff]
  simp only [isConnected, isSet, hsplit, bne_iff_ne, Bool.or_eq_true, ne_eq, heither]
  exact Decidable.not_and_iff_or_not

@[simp] theorem isConnected_onBroker (s : NetworkStatus) (connected : Bool) :
    (s.onBroker connected).isConnected = s.isConnected := by
  cases connected with
  | true => exact isSet_set (by decide) s
  | false => exact isSet_clear (by decide) s

@[simp] theorem isConnected_set_suspended (s : NetworkStatus) :
    (s.set suspended).isConnected = s.isConnected :=
  isSet_set (by decide) s

@[simp] theorem isConnected_clear_suspended (s : NetworkStatus) :
    (s.clear suspended).isConnected = s.isConnected :=
  isSet_clear (by decide) s

end BeaconGateway.NetworkStatus
