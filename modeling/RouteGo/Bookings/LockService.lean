import RouteGo.Lib.Lease
import RouteGo.Utils.HttpErrors

/-!
# The Redis lock

`lock.service.ts`: `SET key value PX ttl NX` and the compare-and-delete script,
each one atomic in Redis. The script's error is caught: a failed release leaves
the lock and answers `false`.
-/

namespace RouteGo.Bookings

abbrev Locks := Leases String String

def redisError : AppError := .Error "Redis connection error"

/-- `acquireLock`; `lockValue` is the `crypto.randomUUID()` of the call. Redis
refuses an expiry that is not positive. -/
def acquireLock (locks : Locks) (key lockValue : String) (ttlMs now : Int) :
    Result (Option String × Locks) :=
  if ttlMs ≤ 0 then .error redisError
  else match locks.setNX key lockValue ttlMs now with
    | some locks' => .ok (some lockValue, locks')
    | none => .ok (none, locks)

/-- `releaseLock`; `fails` is a script that threw. -/
def releaseLock (locks : Locks) (key lockValue : String) (now : Int) (fails : Bool) :
    Bool × Locks :=
  if fails then (false, locks) else locks.delIf key lockValue now

theorem acquireLock_ok {locks locks' : Locks} {key v v' : String} {ttl now : Int}
    (h : acquireLock locks key v ttl now = .ok (some v', locks')) :
    v' = v ∧ 0 < ttl ∧ locks.setNX key v ttl now = some locks' := by
  unfold acquireLock at h
  split at h
  · cases h
  · next ht =>
    split at h
    · next L hL => cases h; exact ⟨rfl, by omega, hL⟩
    · cases h

end RouteGo.Bookings
