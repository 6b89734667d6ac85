/-!
# Header names

The request headers that carry names of principals.
-/

namespace Delegation
namespace HeaderName

/-- The subject of the caller, set by a trusted proxy. -/
def trustedSubject : String := "X-SSL-clientcert-subject"

/-- The issuer of the caller, set by a trusted proxy. -/
def trustedIssuer : String := "X-SSL-clientcert-issuer"

/-- The principals that the caller acts for. -/
def proxiedEntities : String := "X-ProxiedEntitiesChain"

/-- The issuers of the principals that the caller acts for. -/
def proxiedIssuers : String := "X-ProxiedIssuersChain"

/-- The headers with names, those of the caller first. -/
def all : List String := [trustedSubject, trustedIssuer, proxiedEntities, proxiedIssuers]

end HeaderName
end Delegation
