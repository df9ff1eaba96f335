import Mathlib.Algebra.Order.Field.Rat
import Mathlib.Data.Rat.Floor
import Mathlib.Tactic.Linarith

/-!
# Reconnect policy

`TsPhase` and `ReconnectPolicy` of `lib/models/reconnect_policy.dart`. Delays
count milliseconds. The random draw that spreads the delays is an argument, and
its product with the delay is exact here, where the source computes it in
doubles before it rounds.
-/

namespace Nek0.Source

inductive TsPhase where
  | idle
  | resolving
  | connecting
  | authenticating
  | connected
  | reconnecting
  | failed
  deriving DecidableEq, Repr

def TsPhase.fromNative : String → TsPhase
  | "resolving" => .resolving
  | "connecting" => .connecting
  | "authenticating" => .authenticating
  | "connected" => .connected
  | _ => .idle

/-- What `Random.nextDouble` can return. -/
structure Draw where
  value : ℚ
  nonneg : 0 ≤ value
  below_one : value < 1

namespace ReconnectPolicy

def nonRetryableKinds : List String :=
  ["password", "channel_password", "banned", "nickname_in_use", "identity_level",
    "server_identity_changed", "server_refused", "protocol", "cancelled"]

def maxAttempts : Nat := 6
def baseDelay : Nat := 2000
def maxDelay : Nat := 30000
def jitterFraction : ℚ := 1 / 5
def minDelay : Nat := 3000

def shouldRetry (kind : String) (retryable : Bool) (attempt : Nat) : Bool :=
  if !retryable then false
  else if nonRetryableKinds.contains kind then false
  else attempt < maxAttempts

/-- Exponential backoff before jitter, capped. -/
def capped (attempt : Nat) : Nat := min (baseDelay * 2 ^ min attempt 16) maxDelay

/-- Exponential backoff with jitter, but never below the minimum spacing. -/
def delayFor (attempt : Nat) (random : Draw) : Nat :=
  let factor : ℚ := 1 + (random.value * 2 - 1) * jitterFraction
  let jittered := ⌊(capped attempt : ℚ) * factor + 1 / 2⌋₊
  max jittered minDelay

theorem shouldRetry_attempt {kind : String} {retryable : Bool} {attempt : Nat}
    (retry : shouldRetry kind retryable attempt = true) : attempt < maxAttempts := by
  unfold shouldRetry at retry
  split at retry
  · cases retry
  · split at retry
    · cases retry
    · simpa using retry

end ReconnectPolicy

end Nek0.Source
