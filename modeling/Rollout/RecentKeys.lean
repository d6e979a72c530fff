import Rollout.Dict

/-!
# Recent keys

Which keys came up within a window of time. Keys are not dropped one by one when they get old, but
all together: when a window has passed since that was last done, or when there are too many.
-/

namespace Rollout

/-- Keys with the times at which they came up, in milliseconds. -/
structure RecentKeys where
  times : Dict Nat := ∅
  /-- When old keys were last dropped. -/
  purgedAt : Nat := 0
  deriving Repr

namespace RecentKeys

/-- For how many milliseconds a key is recent. -/
def window : Nat := 60000

/-- With so many keys there are too many. -/
def limit : Nat := 100000

/-- Whether a key that came up at a time still is recent. -/
def isRecent (now time : Nat) : Bool := now - time < window

/-- Drop the keys that are not recent any more, and all keys if there are too many recent ones. -/
def drop (r : RecentKeys) (now : Nat) : RecentKeys :=
  let kept := r.times.filterMap fun _ time => if isRecent now time then some time else none
  { times := if limit ≤ kept.size then ∅ else kept, purgedAt := now }

/-- Drop keys when it is time to. -/
def purge (r : RecentKeys) (now : Nat) : RecentKeys :=
  if window ≤ now - r.purgedAt ∨ limit ≤ r.times.size then r.drop now else r

/-- A key comes up: whether it is not recent, so that it is from now on. -/
def offer (r : RecentKeys) (key : String) (now : Nat) : Bool × RecentKeys :=
  let r := r.purge now
  if (r.times.get? key).any (isRecent now) then (false, r)
  else (true, { r with times := r.times.insert key now })

end RecentKeys

end Rollout
