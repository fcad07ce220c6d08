/-!
# The notifier

A counter by which the disk workers, and whoever stops the server, wake the reactor. Each signal
adds one, and draining takes everything at once. A signal that would pass the greatest count is
dropped: the counter is positive then, so the wakeup is not lost.
-/

namespace FileServer

/-- The signals that have not been drained. -/
structure Notifier where
  /-- Their number. -/
  count : Nat
deriving DecidableEq, Repr

namespace Notifier

/-- A notifier that nobody has signalled. -/
def quiet : Notifier := ⟨0⟩

/-- The greatest count. -/
def limit : Nat := UInt64.size - 2

/-- Adds one signal. -/
def signal (notifier : Notifier) : Notifier :=
  if notifier.count < limit then ⟨notifier.count + 1⟩ else notifier

/-- Takes all signals and gives their number. -/
def drain (notifier : Notifier) : Nat × Notifier := (notifier.count, quiet)

/-- Whether there is a signal to be drained. -/
def isReady (notifier : Notifier) : Bool := 0 < notifier.count

/-- A signal is never lost altogether. -/
theorem isReady_signal (notifier : Notifier) : notifier.signal.isReady = true := by
  unfold signal isReady
  split <;> simp_all [limit, UInt64.size]; omega

end Notifier

end FileServer
