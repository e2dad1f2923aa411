/-!
# Faults of URLs
-/

namespace AnchorQueue.Url

inductive Fault
  | emptyHost
  | internationalDomain
  | port
  | ipv4
  | ipv6
  | domainChar
  | relative
  deriving DecidableEq, Repr

def Fault.message : Fault → String
  | emptyHost => "empty host"
  | internationalDomain => "invalid international domain name"
  | port => "invalid port number"
  | ipv4 => "invalid IPv4 address"
  | ipv6 => "invalid IPv6 address"
  | domainChar => "invalid domain character"
  | relative => "relative URL without a base"

end AnchorQueue.Url
