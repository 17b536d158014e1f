import Liveness.Console.Paragraph

namespace Liveness.Console

structure Panel where
  title : List Char
  text : List Char

namespace Panel

def edgeWithTitle (room : Nat) (title : List Char) : List Char :=
  let shown := ' ' :: title ++ [' ']
  let before := (room - width shown) / 2
  List.replicate before '─' ++ shown ++ List.replicate (room - width shown - before) '─'

def lines (panel : Panel) (screen : Nat) : List (List Char) :=
  let body := Paragraph.lines (screen - 4) .fold panel.text
  ['╭' :: '─' :: edgeWithTitle (screen - 4) panel.title ++ ['─', '╮']] ++
    body.map (fun line => '│' :: ' ' :: line ++ [' ', '│']) ++
    ['╰' :: List.replicate (screen - 2) '─' ++ ['╯']]

end Panel

end Liveness.Console
