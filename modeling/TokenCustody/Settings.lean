/-
TokenCustody.Settings — the numbers that steer one invocation.
-/
import TokenCustody.Retry.Backoff
import TokenCustody.Token.State

namespace TokenCustody

open TokenCustody.Time

/-- The numbers that steer one invocation. -/
structure Settings where
  /-- A refresh is due when the access token has no more than this left. -/
  refreshThreshold : Span
  /-- How long a refresh token lives when its lifetime is not announced. -/
  refreshLifetime : Span
  /-- How store reads and refreshes are retried. -/
  retry : RetryPolicy
  /-- How long an invocation may take. -/
  budget : Duration
  /-- The time that must be left before the store is written to. -/
  writeGuard : Duration
  /-- How long a human has for an authorization. -/
  sessionLifetime : Span

/-- The settings used when none are configured. -/
def Settings.default : Settings :=
  { refreshThreshold := defaultThreshold
    refreshLifetime := .ofDays 90
    retry := .default
    budget := .ofSeconds 50
    writeGuard := .ofSeconds 2
    sessionLifetime := .ofSeconds 60 }

end TokenCustody
