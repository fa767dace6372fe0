/-!
# What can be wrong with a URL
-/

namespace AssetCache

/-- Why a text is no URL. -/
inductive UrlError where
  /-- There is no host where one must be. -/
  | emptyHost
  /-- The port is no number of sixteen bits. -/
  | invalidPort
  /-- A host that ends in a number is no address of four octets. -/
  | invalidIpv4
  /-- A host in brackets is no address of eight pieces. -/
  | invalidIpv6
  /-- A host is no domain name. -/
  | invalidDomain
  /-- A host that is kept as it is holds a character that ends hosts. -/
  | invalidHostCharacter
  /-- There is no scheme. -/
  | relative
  deriving DecidableEq, Repr

def UrlError.message : UrlError → String
  | .emptyHost => "empty host"
  | .invalidPort => "invalid port number"
  | .invalidIpv4 => "invalid IPv4 address"
  | .invalidIpv6 => "invalid IPv6 address"
  | .invalidDomain => "invalid international domain name"
  | .invalidHostCharacter => "invalid domain character"
  | .relative => "relative URL without a base"

end AssetCache
