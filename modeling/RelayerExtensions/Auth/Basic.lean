import RelayerExtensions.Lib.Effect

/-!
# The auth server's common types

Identifiers, headers and `AuthServerError` (`auth/auth-server/src/error.rs`), and the
conversion of an error into what the client sees of it. Messages of libraries are
carried along as the text they come with.
-/

namespace RelayerExtensions.Auth

abbrev Bytes := List UInt8

/-- `uuid::Uuid` -/
abbrev Uuid := BitVec 128

/-- Why a price could not be had (`price-reporter-client/src/error.rs`). -/
inductive PriceReporterClientError where
  | setup (msg : String)
  | parsing (msg : String)
  | conversion (msg : String)
  | http (msg : String)
  | webSocket (msg : String)
  /-- There is no price stream for the mint. -/
  | streamMissing (mint : String)
  | custom (msg : String)
deriving DecidableEq

inductive AuthServerError where
  | apiKeyInactive
  | badRequest (msg : String)
  | bundleStore (msg : String)
  | custom (msg : String)
  | darkpoolClient (msg : String)
  | databaseConnection (msg : String)
  | decryption (msg : String)
  | encryption (msg : String)
  | gasCostSampler (msg : String)
  | gasSponsorship (msg : String)
  | noContent (msg : String)
  | priceReporter (err : PriceReporterClientError)
  | rateLimit
  | redisConnection (msg : String)
  | serde (msg : String)
  | setup (msg : String)
  | signing (msg : String)
  | unauthorized (msg : String)
deriving DecidableEq

/-- The message indicating no match was found. -/
def errNoMatchFound : String := "No match found"

def AuthServerError.noMatchFound : AuthServerError := .noContent errNoMatchFound

/-- HTTP headers, by lower-case name; a value that is not visible text has no string. -/
abbrev HeaderMap := List (String × Option String)

/-- The text of the first header of that name, if it has one. -/
def HeaderMap.text (headers : HeaderMap) (name : String) : Option String :=
  (headers.lookup name).join

/-- What reaches an endpoint, before anything in it is trusted. -/
structure RawRequest where
  path : String
  queryStr : String
  headers : HeaderMap
  body : Bytes
deriving DecidableEq

end RelayerExtensions.Auth
