import AnchorQueue.Text.Percent
import AnchorQueue.Text.Utf8
import AnchorQueue.Url.Fault
import AnchorQueue.Url.InternetAddress

/-!
# Hosts of URLs

A host in brackets is an IPv6 address. Any other host is a domain where the scheme knows what that
is, and otherwise plain text. Of a domain the characters are checked, and whether it is an address
if it looks like one; the letters beyond ASCII are taken as they are.
-/

namespace AnchorQueue.Url

open AnchorQueue.Text (Percent.octets Utf8.decode Utf8.fault?)

/-- Separators of a URL and blanks. -/
def isForbiddenInHost (c : Char) : Bool :=
  "\x00\t\n\r #/:<>?@[\\]^|".toList.contains c

/-- Controls and the percent sign too. -/
def isForbiddenInDomain (c : Char) : Bool :=
  isForbiddenInHost c || c.toNat < 0x20 || c = '%' || c = '\x7f'

/-- What follows the bracket that opens a host. -/
def checkBracketed (cs : List Char) : Except Fault Unit :=
  if cs.getLast? = some ']' && InternetAddress.isIpv6 cs.dropLast then .ok () else .error .ipv6

def checkOpaqueHost : List Char → Except Fault Unit
  | '[' :: cs => checkBracketed cs
  | cs => if cs.any isForbiddenInHost then .error .domainChar else .ok ()

def checkDomain : List Char → Except Fault Unit
  | '[' :: cs => checkBracketed cs
  | cs =>
    let octets := Percent.octets cs
    let domain := Utf8.decode octets
    if (Utf8.fault? octets).isSome || domain.any isForbiddenInDomain then
      .error .internationalDomain
    else if domain.isEmpty then .error .emptyHost
    else if InternetAddress.endsInNumber domain && !InternetAddress.isLooseIpv4 domain then
      .error .ipv4
    else .ok ()

end AnchorQueue.Url
