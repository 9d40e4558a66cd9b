/-!
# The clock

Times are milliseconds since the start. What is put off for a time of its own is put off
by thirty years at most: the runtime whose timer does the waiting cuts longer delays down to
that, without an error.
-/

namespace LspClient.Clock

/-- The longest delay that the runtime's timer can wait: thirty years of 365 days, in
milliseconds. A delay beyond this limit of the timer is cut down to it; nothing in a session
sets it. -/
def longestDelay : Nat := 30 * 365 * 24 * 60 * 60 * 1000

/-- The time at which something is due that is put off by so many milliseconds. -/
def due (now millis : Nat) : Nat := now + min millis longestDelay

/-- Nothing is due in the past. -/
theorem le_due (now millis : Nat) : now ≤ due now millis := Nat.le_add_right ..

end LspClient.Clock
