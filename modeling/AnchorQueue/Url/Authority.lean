import AnchorQueue.Text.Decimal
import AnchorQueue.Url.Host
import AnchorQueue.Url.Scheme

/-!
# Authorities of URLs

An authority is `user:password@host:port`, of which only the host has to be there. The last at sign
ends the password, and a colon between brackets belongs to the host.
-/

namespace AnchorQueue.Url

structure Authority where
  user : List Char
  password : List Char
  host : List Char
  deriving DecidableEq, Repr

namespace Authority

/-- A URL without an authority has every part of it empty. -/
def absent : Authority :=
  ⟨[], [], []⟩

/-- The text before the last at sign, if there is one, and the text after it. -/
def splitUser (cs : List Char) : Option (List Char) × List Char :=
  let after := (cs.reverse.takeWhile (· ≠ '@')).reverse
  if after.length = cs.length then (none, cs)
  else (some (cs.take (cs.length - after.length - 1)), after)

/-- The host, and the text from the colon that ends it. -/
def splitHost : Bool → List Char → List Char × List Char
  | _, [] => ([], [])
  | bracketed, c :: cs =>
    if c = ':' && !bracketed then ([], c :: cs)
    else
      let (host, rest) := splitHost (c = '[' || bracketed && c ≠ ']') cs
      (c :: host, rest)

def checkHost (kind : SchemeKind) (host : List Char) : Except Fault Unit :=
  if kind = .other then checkOpaqueHost host
  else if host.isEmpty then .error .emptyHost
  else checkDomain host

/-- A port may be left empty. -/
def checkPort (cs : List Char) : Except Fault Unit :=
  if (Text.readDigits UInt16.size .tooLarge 0 cs).isOk then .ok () else .error .port

/-- The port after a host, and the text after the port. A backslash always ends it. -/
def readPort (host : List Char) : List Char → Except Fault (List Char)
  | ':' :: cs => do
    if host.isEmpty then .error .emptyHost
    checkPort (cs.takeWhile (· ≠ '\\'))
    return cs.dropWhile (· ≠ '\\')
  | cs => .ok cs

/-- Reads an authority, which a slash, a question mark or a hash ends. -/
def read (kind : SchemeKind) (cs : List Char) : Except Fault (Authority × List Char) := do
  let part := cs.takeWhile fun c => !kind.isSlash c && c ≠ '?' && c ≠ '#'
  let rest := cs.drop part.length
  if part = ['@'] && !rest.isEmpty then .error .emptyHost
  let (login?, server) := splitUser part
  let login := login?.getD []
  let (host, port) := splitHost false server
  checkHost kind host
  let after ← readPort host port
  let a : Authority := ⟨login.takeWhile (· ≠ ':'), (login.dropWhile (· ≠ ':')).drop 1, host⟩
  if host.isEmpty && !(a.user.isEmpty && a.password.isEmpty) then .error .emptyHost
  return (a, after ++ rest)

end Authority

end AnchorQueue.Url
