import AnchorQueue.Error.Database
import AnchorQueue.Ledger.FormEncoding
import AnchorQueue.Url.Basic

/-!
# Database addresses

An address is a URL. The host is a server, or a socket if it starts with a slash; the path names the
database, and the query gives further options. The parts are checked in this order.
-/

namespace AnchorQueue.Sql

open AnchorQueue.Text

/-- Escapes stand for UTF-8. -/
def checkEscapes (cs : List Char) : Except DatabaseError Unit :=
  match Utf8.fault? (Percent.octets cs) with
  | some f => .error (.configuration f.message)
  | none => .ok ()

/-- The name of a server may hold any bytes. -/
def checkServer (host : List Char) : Except DatabaseError Unit :=
  if (Percent.octets host).head? = some 0x2F then checkEscapes host else .ok ()

def sslModes : List String :=
  ["disable", "allow", "prefer", "require", "verify-ca", "verify-full"]

def checkSslMode (value : String) : Except DatabaseError Unit :=
  if sslModes.contains (String.ofList (value.toList.map Char.toLower)) then .ok ()
  else .error (.sslMode value)

def checkNumber (bound : Nat) (value : String) : Except DatabaseError Unit :=
  match readNatural bound value.toList with
  | .ok _ => .ok ()
  | .error f => .error (.configuration f.message)

def checkIpAddress (value : String) : Except DatabaseError Unit :=
  if InternetAddress.isIpv4 value.toList || InternetAddress.isIpv6 value.toList then .ok ()
  else .error (.configuration "invalid IP address syntax")

/-- Options of any other name take every value. -/
def checkOption (name value : String) : Except DatabaseError Unit :=
  if name = "sslmode" || name = "ssl-mode" then checkSslMode value
  else if name = "statement-cache-capacity" then checkNumber UInt64.size value
  else if name = "port" then checkNumber UInt16.size value
  else if name = "hostaddr" then checkIpAddress value
  else .ok ()

def checkUrl (url : Url) : Except DatabaseError Unit := do
  checkServer url.authority.host
  checkEscapes url.authority.user
  checkEscapes url.authority.password
  checkEscapes (url.path.dropWhile (· = '/'))
  (Ledger.Form.pairs (String.ofList url.query)).forM fun p => checkOption p.1 p.2

def checkAddress (address : String) : Except DatabaseError Unit :=
  match Url.parse address with
  | .error f => .error (.configuration f.message)
  | .ok url => checkUrl url

end AnchorQueue.Sql
