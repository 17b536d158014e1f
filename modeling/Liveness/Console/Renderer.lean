import Liveness.Failure

namespace Liveness.Console

/-- What draws the output of the program as lines. A text may be markup to it, which it may refuse.
-/
structure Renderer where
  table (title : String) (headings : List String) (rows : List (List String)) :
    Except Failure (List String)
  panel (title text : String) : Except Failure (List String)

def colored (color text : String) : String := s!"[{color}]{text}[/{color}]"

end Liveness.Console
