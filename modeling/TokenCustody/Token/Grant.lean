/-
TokenCustody.Token.Grant — what the token endpoint grants, and the records
made of it.

A record starts with a grant from an authorization by a human
(`Grant.firstRecord`) and is replaced by a successor with every refresh
(`Record.successor`). Both give the access token no longer life than the
refresh token has.

Both end with `none` when a date would lie beyond the calendar, and so
does a successor when the number of refreshes would have more than 64
bits. Neither is an error of the provider.
-/
import TokenCustody.Text.Decimal
import TokenCustody.Token.Record

namespace TokenCustody

open TokenCustody.Time

/-- What the token endpoint grants. -/
structure Grant where
  accessToken : String
  /-- The refresh token, when one is issued or replaced. -/
  refreshToken : Option String
  tokenType : String
  scope : Option String
  lifetime : Span
  /-- The lifetime of the refresh token, when it is announced. -/
  refreshLifetime : Option Span
  receivedAt : Instant
  deriving DecidableEq

/-- The earlier of the instant after a lifetime and a limit. -/
def expiryWithin (issued : Instant) (lifetime : Span) (limit : Instant) : Option Instant :=
  (issued.add lifetime).map fun t => min t limit

/-- The first record of a credential. Without a refresh token there is none. -/
def Grant.firstRecord (g : Grant) (refreshLifetime : Span) : Option (Except Error Record) :=
  match g.refreshToken with
  | none => some (.error (.protocol (.missingField "refresh_token")))
  | some refreshToken => do
    let refreshExpiresAt ← g.receivedAt.add (g.refreshLifetime.getD refreshLifetime)
    let expiresAt ← expiryWithin g.receivedAt g.lifetime refreshExpiresAt
    let record : Record :=
      { accessToken := g.accessToken
        refreshToken
        tokenType := g.tokenType
        scope := g.scope
        issuedAt := g.receivedAt
        expiresAt
        refreshExpiresAt
        lastRefreshAt := none
        refreshCount := 0
        fault := none
        version := none }
    some record.checked

/-- The refresh token that counts after a refresh, and when it expires. One that was not
replaced keeps its expiry. -/
def Record.refreshTokenAfter (r : Record) (g : Grant) (refreshLifetime : Span) :
    Option (String × Instant) :=
  match g.refreshToken with
  | some token =>
    (g.receivedAt.add (g.refreshLifetime.getD refreshLifetime)).map fun t => (token, t)
  | none => some (r.refreshToken, r.refreshExpiresAt)

/-- The number of refreshes after one more, if it still has 64 bits. -/
def Record.countAfter (r : Record) : Option Nat :=
  if r.refreshCount + 1 < Text.wordCount then some (r.refreshCount + 1) else none

/-- The record that replaces this one after a refresh. -/
def Record.successor (r : Record) (g : Grant) (refreshLifetime : Span) :
    Option (Except Error Record) := do
  let (refreshToken, refreshExpiresAt) ← r.refreshTokenAfter g refreshLifetime
  let expiresAt ← expiryWithin g.receivedAt g.lifetime refreshExpiresAt
  let refreshCount ← r.countAfter
  let record : Record :=
    { accessToken := g.accessToken
      refreshToken
      tokenType := g.tokenType
      scope := g.scope.orElse fun _ => r.scope
      issuedAt := g.receivedAt
      expiresAt
      refreshExpiresAt
      lastRefreshAt := some g.receivedAt
      refreshCount
      fault := none
      version := none }
  some record.checked

end TokenCustody
