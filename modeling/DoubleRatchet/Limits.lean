/-!
# Resource limits

Limits are stored with the state they govern, so that a restored device or session keeps to the
bounds it was made with.
-/

namespace DoubleRatchet

/-- Bounds on what a peer can make a session do. -/
structure RatchetLimits where
  /-- The widest gap in counters that one message may open on a chain. -/
  maxSkip : UInt32 := 1000
  /-- How many skipped message keys are kept. -/
  maxSkippedKeys : UInt32 := 2000
deriving DecidableEq, Repr

/-- Bounds on a device's prekeys, with the limits of the sessions it starts. -/
structure DeviceLimits where
  /-- How many one-time prekeys one bundle may carry. -/
  maxBundleSize : UInt32 := 100
  /-- How many unconsumed one-time prekeys are held. -/
  maxRetained : UInt32 := 1000
  ratchet : RatchetLimits := {}
deriving DecidableEq, Repr

/-- One-time prekeys in a bundle when the caller names no number. -/
def defaultBundleSize : UInt32 := 5

/-- A reason why limits do not fit together. -/
inductive LimitFault
  | emptyBundles
  | retentionBelowBundle (retained bundle : UInt32)
  | cacheBelowSkip (cache skip : UInt32)
deriving DecidableEq, Repr

/-- The fault in words. -/
def LimitFault.message : LimitFault → String
  | emptyBundles => "max_bundle_size must be non-zero"
  | retentionBelowBundle retained bundle =>
    s!"max_retained_one_time_prekeys ({retained}) must be at least max_bundle_size ({bundle})"
  | cacheBelowSkip cache skip =>
    s!"max_skipped_keys ({cache}) must be at least max_skip ({skip})"

/-- A session's cache has to hold the keys of one gap. -/
def RatchetLimits.check (limits : RatchetLimits) : Except LimitFault Unit :=
  if limits.maxSkippedKeys < limits.maxSkip then
    .error (.cacheBelowSkip limits.maxSkippedKeys limits.maxSkip)
  else .ok ()

/-- A device has to be able to publish, and to hold what it published. -/
def DeviceLimits.check (limits : DeviceLimits) : Except LimitFault Unit :=
  if limits.maxBundleSize = 0 then .error .emptyBundles
  else if limits.maxRetained < limits.maxBundleSize then
    .error (.retentionBelowBundle limits.maxRetained limits.maxBundleSize)
  else limits.ratchet.check

end DoubleRatchet
