/-!
# Splitting
-/

namespace AnchorQueue.Text

/-- The parts between separators; there is one more part than there are separators. -/
def split (separator : Char) : List Char → List (List Char)
  | [] => [[]]
  | c :: cs =>
    if c = separator then [] :: split separator cs
    else
      match split separator cs with
      | p :: ps => (c :: p) :: ps
      | [] => [[c]]

end AnchorQueue.Text
