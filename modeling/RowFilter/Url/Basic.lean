/-!
# URLs

The parts of a URL, each in its percent-encoded form, and why a text is no URL.
-/

namespace RowFilter

/-- A URL. -/
structure Url where
  /-- The scheme, in lower case. -/
  scheme : String
  /-- The user name; empty if there is none. -/
  user : String := ""
  /-- The password. -/
  password : Option String := none
  /-- The host. -/
  host : Option String := none
  /-- The port. -/
  port : Option Nat := none
  /-- The path. -/
  path : String := ""
  /-- What follows the question mark; empty if there is none. -/
  query : String := ""
  deriving DecidableEq, Repr

namespace Url

/-- Why a text is no URL. -/
inductive Fault where
  /-- It does not start with a scheme. -/
  | noScheme
  /-- There is a port or a user, or need of a host, but no host. -/
  | emptyHost
  /-- The host is a misspelt address between brackets. -/
  | badLongAddress
  /-- The host is a misspelt address of four numbers. -/
  | badShortAddress
  /-- The host has a character that no host may have. -/
  | badHostCharacter
  /-- The host is no domain name. -/
  | badDomainName
  /-- The port is no number, or too great. -/
  | badPort
  deriving DecidableEq, Repr

/-- The wording of a fault. -/
def Fault.message : Fault → String
  | .noScheme => "relative URL without a base"
  | .emptyHost => "empty host"
  | .badLongAddress => "invalid IPv6 address"
  | .badShortAddress => "invalid IPv4 address"
  | .badHostCharacter => "invalid domain character"
  | .badDomainName => "invalid international domain name"
  | .badPort => "invalid port number"

end Url

end RowFilter
