/-
TokenCustody.Config.Basic — where the provider and the store are, and how
to show oneself to them.
-/
import TokenCustody.Json.Fields
import TokenCustody.Settings
import TokenCustody.Token.Shown

namespace TokenCustody

open TokenCustody.Json
open TokenCustody.Time

/-! ## The provider -/

/-- How a client shows its secret to the token endpoint. -/
inductive ClientAuth where
  /-- In the body of the request. -/
  | post
  /-- In the header of the request. -/
  | basic
  deriving DecidableEq

namespace ClientAuth

/-- The names of the ways. -/
def choices : List (String × ClientAuth) :=
  [("client_secret_post", .post), ("client_secret_basic", .basic)]

/-- The name of a way in settings. -/
def name : ClientAuth → String
  | .post => "client_secret_post"
  | .basic => "client_secret_basic"

/-- The name of a way in texts for people. -/
def shown : ClientAuth → String
  | .post => "ClientSecretPost"
  | .basic => "ClientSecretBasic"

/-- Reads the name of a way. -/
def ofJson? : Value → Option ClientAuth := Value.choice? choices

end ClientAuth

/-- Who the client is. -/
structure Credentials where
  clientId : String
  clientSecret : Option String
  auth : ClientAuth
  deriving DecidableEq

/-- The credentials of nobody. -/
def Credentials.default : Credentials := ⟨"", none, .basic⟩

/-- Credentials for people; whether there is a secret is not told. -/
def Credentials.shown (c : Credentials) : String :=
  showFields "ClientCredentials"
    [("client_id", Text.Quoted.render c.clientId), ("client_secret", redacted),
      ("auth_method", c.auth.shown)]

/-- The addresses of a provider. -/
structure Endpoints where
  authorization : String
  token : String
  deriving DecidableEq

namespace Endpoints

/-- The addresses of no provider. -/
def default : Endpoints := ⟨"", ""⟩

/-- The members of a provider's document. -/
def names : List String := ["authorization_endpoint", "token_endpoint"]

/-- The addresses as a value. -/
def toJson (e : Endpoints) : Value :=
  .record [("authorization_endpoint", .str e.authorization), ("token_endpoint", .str e.token)]

/-- Reads the addresses. -/
def ofJson? (v : Value) : Option Endpoints := do
  let f ← v.fields? names
  some
    { authorization := ← f.need "authorization_endpoint" Value.string?
      token := ← f.need "token_endpoint" Value.string? }

end Endpoints

/-- What a client needs to talk to a provider. -/
structure ClientConfig where
  endpoints : Endpoints
  credentials : Credentials
  /-- Where the provider sends the browser back to. -/
  redirectUri : String
  /-- What is asked for in an authorization. -/
  scopes : List String
  timeout : Duration
  deriving DecidableEq

/-! ## The store -/

/-- Where the record is kept. -/
structure StoreConfig where
  baseUrl : String
  secretName : String
  authToken : Option String
  timeout : Duration
  deriving DecidableEq

/-- The place of the record for people. -/
def StoreConfig.shown (c : StoreConfig) : String :=
  showFields "StoreConfig"
    [("base_url", Text.Quoted.render c.baseUrl), ("secret_name", Text.Quoted.render c.secretName),
      ("auth_token", showOption (c.authToken.map fun _ => redacted)),
      ("timeout", c.timeout.render)]

/-! ## Everything -/

/-- What a scheduled invocation needs. -/
structure JobConfig where
  client : ClientConfig
  settings : Settings
  store : StoreConfig

end TokenCustody
