/-
TokenCustody.Provider.Client — the provider over HTTP.

A client has two legs. On the browser leg it builds the address that a
human opens. On the other it posts a form to the token endpoint and
reads the grant in the answer. It shows its secret either in a header or
in the form, never in both.
-/
import TokenCustody.Config.Basic
import TokenCustody.Http.Delivery
import TokenCustody.Provider.Refusal
import TokenCustody.Text.Base64
import TokenCustody.Token.Response
import TokenCustody.Url.Edit

namespace TokenCustody

open TokenCustody.Json
open TokenCustody.Text

/-! ## Grant types -/

/-- What is traded for a grant. -/
inductive GrantType where
  | authorizationCode
  | refreshToken
  deriving DecidableEq

namespace GrantType

/-- The name of a grant type. -/
def name : GrantType → String
  | .authorizationCode => "authorization_code"
  | .refreshToken => "refresh_token"

/-- Reads the name of a grant type. -/
def ofJson? : Value → Option GrantType :=
  Value.choice? [("authorization_code", .authorizationCode), ("refresh_token", .refreshToken)]

end GrantType

namespace ClientConfig

/-! ## The browser leg -/

/-- What the provider is told in an authorization. -/
def authorizationPairs (c : ClientConfig) (nonce : String) : List (String × String) :=
  [("response_type", "code"), ("client_id", c.credentials.clientId),
    ("redirect_uri", c.redirectUri), ("state", nonce)] ++
    (if c.scopes = [] then [] else [("scope", " ".intercalate c.scopes)])

/-- The address that a human opens. -/
def authorizationUrl (c : ClientConfig) (nonce : String) : Except Error String :=
  match Url.ofString c.endpoints.authorization with
  | .ok u => .ok (u.addPairs (c.authorizationPairs nonce)).render
  | .error _ => .error (.configuration (.endpoint c.endpoints.authorization))

/-! ## The token endpoint -/

/-- The secret as HTTP credentials. -/
def basicCredentials (c : ClientConfig) : Option String :=
  match c.credentials.auth, c.credentials.clientSecret with
  | .basic, some secret =>
    let pair := c.credentials.clientId ++ ":" ++ secret
    some ("Basic " ++ String.ofList (Base64.encode .standard (Utf8.encode pair.toList)))
  | _, _ => none

/-- The headers of a token request. -/
def tokenHeaders (c : ClientConfig) : Http.Headers :=
  [("content-type", "application/x-www-form-urlencoded"), ("accept", "application/json")] ++
    (match c.basicCredentials with
    | some text => [("authorization", text)]
    | none => [])

/-- The credentials in the form of a token request. -/
def postedCredentials (c : ClientConfig) : List (String × String) :=
  match c.credentials.auth with
  | .basic => []
  | .post =>
    ("client_id", c.credentials.clientId) ::
      (match c.credentials.clientSecret with
      | some secret => [("client_secret", secret)]
      | none => [])

/-- The form of a token request. -/
def tokenForm (c : ClientConfig) (g : GrantType) (params : List (String × String)) :
    List (String × String) :=
  ("grant_type", g.name) :: params ++ c.postedCredentials

/-- A token request. -/
def tokenRequest (c : ClientConfig) (g : GrantType) (params : List (String × String)) :
    Http.Request :=
  { method := .post
    url := c.endpoints.token
    headers := c.tokenHeaders
    body := some (String.ofList (Form.encode (c.tokenForm g params)))
    timeout := some c.timeout }

/-- Asks the token endpoint for a grant. -/
def requestGrant (c : ClientConfig) (g : GrantType) (params : List (String × String)) :
    Program Http.Network (Except Error Grant) := do
  match ← Http.send (c.tokenRequest g params) with
  | .error e => return .error e
  | .ok response =>
    if response.isSuccess then
      match TokenResponse.ofString? response.body with
      | some granted => return Grant.ofResponse granted (← Program.now)
      | none => return .error (.protocol (.invalidJson "the body is no token response"))
    else return .error response.refusal

/-- Trades a refresh token for a grant. -/
def refresh (c : ClientConfig) (refreshToken : String) :
    Program Http.Network (Except Error Grant) :=
  c.requestGrant .refreshToken [("refresh_token", refreshToken)]

/-- An error of the trade of a code. A refused grant means that the code is used up. -/
def codeError : Error → Error
  | .provider (.invalidGrant m) => .authorization (.expiredCode m)
  | e => e

/-- Trades a code for a grant. -/
def exchange (c : ClientConfig) (code redirectUri : String) :
    Program Http.Network (Except Error Grant) := do
  let result ← c.requestGrant .authorizationCode [("code", code), ("redirect_uri", redirectUri)]
  return result.mapError codeError

end ClientConfig

end TokenCustody
