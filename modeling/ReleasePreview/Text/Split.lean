/-!
Cutting a text: at every occurrence of a character, and in two ways into lines, as pieces that keep
their terminator and as bare lines.
-/
namespace ReleasePreview.Text

/-- The parts between the separators, one more than there are separators. -/
def split (separator : Char) : List Char → List (List Char)
  | [] => [[]]
  | c :: s =>
    if c = separator then [] :: split separator s
    else
      match split separator s with
      | [] => [[c]]
      | part :: parts => (c :: part) :: parts

/-- Cuts after every line feed, after every carriage return and line feed together, and after every
carriage return that stands alone. Nothing is dropped: the pieces joined are the text. -/
def pieces : List Char → List (List Char)
  | [] => []
  | '\r' :: '\n' :: s => ['\r', '\n'] :: pieces s
  | '\r' :: s => ['\r'] :: pieces s
  | '\n' :: s => ['\n'] :: pieces s
  | c :: s =>
    match pieces s with
    | [] => [[c]]
    | p :: ps => (c :: p) :: ps

/-- A piece without its final line feed, and without a carriage return before that line feed.
A carriage return with no line feed behind it stays. -/
def bare : List Char → List Char
  | [] => []
  | ['\r', '\n'] => []
  | ['\n'] => []
  | c :: s => c :: bare s

/-- Lines end at a line feed, with one carriage return before it dropped. A text that ends in a
line feed has no empty line after it. -/
def lines : List Char → List (List Char)
  | [] => []
  | '\r' :: '\n' :: s => [] :: lines s
  | '\n' :: s => [] :: lines s
  | c :: s =>
    match lines s with
    | [] => [[c]]
    | l :: ls => (c :: l) :: ls

end ReleasePreview.Text
