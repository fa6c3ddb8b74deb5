/-!
# Values behind a lock

Whoever takes a lock holds a guard with the value, and dropping the guard gives the lock back.  A guard that is dropped
because its holder fails leaves a mark.  From then on the lock is given out as an error, which has the guard all the same
(`Mutex.recover_lock`).
-/

namespace StreamConsumer

/-- A value behind a lock that nobody holds. -/
structure Mutex (α : Type) where
  value : α
  /-- A holder of the lock has failed. -/
  poisoned : Bool
  deriving DecidableEq

/-- What the holder of a lock has in hand. -/
structure Guard (α : Type) where
  value : α
  poisoned : Bool

namespace Guard

variable {α : Type}

/-- The guard of a lock that was taken, whether it bears the mark or not. -/
def recover : Except (Guard α) (Guard α) → Guard α
  | .ok guard => guard
  | .error guard => guard

/-- Give the lock back. -/
def drop (guard : Guard α) (failing : Bool) : Mutex α :=
  { value := guard.value, poisoned := guard.poisoned || failing }

end Guard

namespace Mutex

variable {α : Type}

def new (value : α) : Mutex α := { value, poisoned := false }

/-- Take the lock. -/
def lock (m : Mutex α) : Except (Guard α) (Guard α) :=
  let guard : Guard α := { value := m.value, poisoned := m.poisoned }
  if m.poisoned then .error guard else .ok guard

/-- No mark keeps a caller who recovers from the value. -/
theorem recover_lock (m : Mutex α) : Guard.recover m.lock = { value := m.value, poisoned := m.poisoned } := by
  unfold lock
  split <;> rfl

end Mutex

end StreamConsumer
