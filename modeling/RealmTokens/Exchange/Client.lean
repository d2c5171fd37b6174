/-
The policy of all requests: the headers they carry, how long they may take, and whether they must be
encrypted.
-/
import RealmTokens.Exchange.Message
import RealmTokens.Settings

namespace RealmTokens
namespace Exchange

structure Client where
  correlation : Option CorrelationId
  timeout : Time.Span
  requireHttps : Bool
  deriving DecidableEq, Repr

namespace Client

def ofSettings (s : Settings) (correlation : Option CorrelationId) : Client :=
  ⟨correlation, s.requestTimeout, s.requireHttps⟩

def request (c : Client) (url : Url) : Request :=
  ⟨url, headers c.correlation, c.timeout⟩

/-- Asks for what is at a URL. A URL that the policy refuses is not asked. -/
def get (c : Client) (transport : Transport) (url : Url) : Exchange Response := do
  if c.requireHttps then url.enforceHttps
  send transport (c.request url)

def fetch {α : Type} (c : Client) (transport : Transport) (kind : Document)
    (decode : Json.Decoder α) (url : Url) : Exchange α := do
  let response ← c.get transport url
  response.ensureOk
  decodeBody kind decode response.body

end Client
end Exchange
end RealmTokens
