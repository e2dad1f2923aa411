import AnchorQueue.Error.Query
import AnchorQueue.Text.Blank

/-!
# Identifiers from a path

An identifier that came as a segment of a path is trimmed. It must not be empty, and it must not
lead to another place: no slash and no two dots in a row.
-/

namespace AnchorQueue.PathSegment

def climbs : List Char → Bool
  | [] => false
  | '/' :: _ => true
  | '.' :: '.' :: _ => true
  | _ :: cs => climbs cs

def check (field text : String) : Except QueryError String :=
  let segment := Text.trim text
  if segment = "" then .error (.invalidRequest ("missing " ++ field))
  else if climbs segment.toList then
    .error (.invalidRequest ("invalid " ++ field ++ ": path traversal characters not allowed"))
  else .ok segment

end AnchorQueue.PathSegment
