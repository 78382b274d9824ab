import ReleasePreview.Decimal.Natural
import ReleasePreview.Format.Conversion
import ReleasePreview.Format.Floating

/-! The words and signs that a program is written in. -/
namespace ReleasePreview.Awk

inductive TokenKind where
  | number (x : Float) (spelling : String)
  | text (s : String)
  | pattern (s : String)
  /-- A name, and whether a parenthesis follows at once. -/
  | name (s : String) (calls : Bool)
  /-- A word with a meaning, or a sign. -/
  | word (s : String)
  | lineEnd
  | programEnd
  /-- The program cannot be read from here on. -/
  | fault (message : String)
  /-- A character that stands for nothing. -/
  | stranger (c : Char)
deriving BEq

structure Token where
  kind : TokenKind
  line : Nat
  /-- The parentheses and braces that are open. -/
  parentheses : Nat
  braces : Nat

/-- What is known when a token is read: the line, what is open, the token before, and complaints of
what has been left out, backwards. -/
structure Lexing where
  line : Nat := 1
  parentheses : Nat := 0
  braces : Nat := 0
  last : Option TokenKind := none
  extras : List (Nat × String) := []

namespace Lexing

def keywords : List String :=
  ["BEGIN", "END", "function", "if", "else", "while", "do", "for", "break", "continue",
    "next", "nextfile", "exit", "return", "delete", "print", "printf", "getline", "in"]

def builtinWords : List String :=
  ["length", "index", "substr", "split", "match", "sub", "gsub", "sprintf", "sin", "cos", "atan2",
    "exp", "log", "sqrt", "int", "rand", "srand", "close", "system", "toupper", "tolower", "fflush"]

/-- Signs, longer ones first. -/
def signs : List String :=
  ["==", "!=", "<=", ">=", "!~", "&&", "||", "++", "--", "+=", "-=", "*=", "/=", "%=", "^=", ">>",
    "=", "!", "<", ">", "~", "+", "-", "*", "/", "%", "^", "|", "?", ":", "$", "(", ")", "[", "]",
    "\x7b", "\x7d", ",", ";"]

def isBlank (c : Char) : Bool := " \t\r\x0b\x0c".toList.contains c

def isNameStart (c : Char) : Bool := c.isAlpha || c = '_'

/-- A slash behind this divides. -/
def endsOperand : TokenKind → Bool
  | .number .. | .text _ | .pattern _ | .name .. => true
  | .word w => [")", "]", "++", "--", "getline", "length"].contains w
  | _ => false

/-- Leaves out blanks and comments, and line ends too. The fuel is the length of the text. -/
def skipLines : (fuel : Nat) → Nat → List Char → Nat × List Char
  | 0, line, s => (line, s)
  | fuel + 1, line, s =>
    match s with
    | '\n' :: s => skipLines fuel (line + 1) s
    | '\\' :: '\n' :: s => skipLines fuel (line + 1) s
    | '#' :: s => skipLines fuel line (s.dropWhile (· ≠ '\n'))
    | c :: rest => if isBlank c then skipLines fuel line rest else (line, s)
    | [] => (line, [])

/-- What stands for a backslash and the text behind it, and what follows. -/
def escape (s : List Char) : List Char × List Char :=
  match s with
  | '"' :: rest => (['"'], rest)
  | 'x' :: rest =>
    let ds := (rest.take 2).takeWhile fun c => (Decimal.digit? 16 c).isSome
    if ds.isEmpty then (['\\', 'x'], rest)
    else ([Char.ofNat ((Decimal.positional? 16 ds).getD 0)], rest.drop ds.length)
  | 'e' :: rest => (['\\', 'e'], rest)
  | s =>
    let (c, rest) := Format.escape s
    ([c], rest)

/-- A text with escapes. The fuel is its length. -/
def unescape : (fuel : Nat) → List Char → List Char
  | 0, s => s
  | _, [] => []
  | fuel + 1, '\\' :: s =>
    let (cs, rest) := escape s
    cs ++ unescape fuel rest
  | fuel + 1, c :: s => c :: unescape fuel s

def unescaped (s : List Char) : String := String.ofList (unescape s.length s)

/-- A text up to its quote, backwards, the lines in it, and the rest behind it; `none` if it has no
end. The fuel is the length of the text. -/
def quoted : (fuel : Nat) → List Char → Nat → List Char → Option (List Char × Nat × List Char)
  | 0, _, _, _ => none
  | _, _, _, [] => none
  | _, _, _, '\n' :: _ => none
  | _, found, lines, '"' :: s => some (found, lines, s)
  | fuel + 1, found, lines, '\\' :: '\n' :: s => quoted fuel found (lines + 1) s
  | fuel + 1, found, lines, '\\' :: c :: s => quoted fuel (c :: '\\' :: found) lines s
  | fuel + 1, found, lines, c :: s => quoted fuel (c :: found) lines s

/-- A regular expression up to its slash, backwards, and the rest behind it; `none` if it has no
end. A slash in a set does not end it. The fuel is the length of the text. -/
def slashed : (fuel : Nat) → (inSet : Bool) → List Char → List Char →
    Option (List Char × List Char)
  | 0, _, _, _ => none
  | _, _, _, [] => none
  | _, _, _, '\n' :: _ => none
  | fuel + 1, inSet, found, '\\' :: '/' :: s => slashed fuel inSet ('/' :: found) s
  | fuel + 1, inSet, found, '\\' :: c :: s =>
    if c = '\n' then none else slashed fuel inSet (c :: '\\' :: found) s
  | fuel + 1, true, found, ']' :: s => slashed fuel false (']' :: found) s
  | fuel + 1, false, found, '[' :: '^' :: ']' :: s =>
    slashed fuel true (']' :: '^' :: '[' :: found) s
  | fuel + 1, false, found, '[' :: ']' :: s => slashed fuel true (']' :: '[' :: found) s
  | fuel + 1, true, found, '[' :: ':' :: s =>
    let name := s.takeWhile Char.isAlpha
    match s.drop name.length with
    | ':' :: ']' :: rest =>
      slashed fuel true (']' :: ':' :: name.reverse ++ (':' :: '[' :: found)) rest
    | _ => slashed fuel true (':' :: '[' :: found) s
  | fuel + 1, false, found, '[' :: s => slashed fuel true ('[' :: found) s
  | _, false, found, '/' :: s => some (found, s)
  | fuel + 1, inSet, found, c :: s => slashed fuel inSet (c :: found) s

/-- The number in front of a text, how it is written, and what follows. -/
def numeral (s : List Char) : Float × List Char × List Char :=
  match Format.float? s with
  | some (x, rest) => (x, s.take (s.length - rest.length), rest)
  | none => (0, s.take 1, s.drop 1)

/-- A text that has no end, as far as a complaint shows it. -/
def shown (s : List Char) : String := String.ofList ((s.takeWhile (· ≠ '\n')).take 10)

/-- How a character that is not expected is shown. -/
def strange (c : Char) : String :=
  if ' ' ≤ c && c ≤ '~' then s!"'{c}'"
  else "0x" ++ String.ofList (Nat.toDigits 16 c.toNat)

/-- The token in front of a text without blanks before it, and what follows. -/
def tokenOf (x : Lexing) (s : List Char) : TokenKind × Nat × List Char :=
  match s with
  | [] => (.programEnd, 0, [])
  | '\n' :: rest => (.lineEnd, 0, rest)
  | '"' :: rest =>
    match quoted (rest.length + 1) [] 0 rest with
    | some (found, lines, rest) => (.text (unescaped found.reverse), lines, rest)
    | none => (.fault s!"runaway string constant \"{shown rest} ...", 0, [])
  | c :: rest =>
    if c = '/' && !x.last.any endsOperand then
      match slashed (rest.length + 1) false [] rest with
      | some (found, rest) => (.pattern (String.ofList found.reverse), 0, rest)
      | none => (.fault s!"runaway regular expression /{shown rest} ...", 0, [])
    else if isNameStart c then
      let name := s.takeWhile fun c => isNameStart c || Decimal.isDigit c
      let rest := s.drop name.length
      let name := String.ofList name
      if keywords.contains name || builtinWords.contains name then (.word name, 0, rest)
      else (.name name (rest.head? = some '('), 0, rest)
    else if Decimal.isDigit c || (c = '.' && rest.head?.any Decimal.isDigit) then
      let (value, spelling, rest) := numeral s
      (.number value (String.ofList spelling), 0, rest)
    else match signs.find? fun sign => sign.toList.isPrefixOf s with
      | some sign => (.word sign, 0, s.drop sign.length)
      | none => (.stranger c, 0, rest)

/-- Line ends behind this do not count. -/
def continues : TokenKind → Bool
  | .lineEnd => true
  | .word w => ["\x7b", "\x7d", "&&", "||", ",", ";"].contains w
  | _ => false

/-- The tokens of a text, and complaints. Brackets that close nothing are left out. The fuel is the
length of the text. -/
def tokens : (fuel : Nat) → Lexing → List Char → List Token × List (Nat × String)
  | 0, x, _ => ([⟨.programEnd, x.line, x.parentheses, x.braces⟩], x.extras.reverse)
  | fuel + 1, x, s =>
    match s with
    | '\\' :: '\n' :: s => tokens fuel { x with line := x.line + 1 } s
    | '#' :: s => tokens fuel x (s.dropWhile (· ≠ '\n'))
    | c :: rest =>
      if isBlank c then tokens fuel x rest
      else
        let (kind, lines, rest) := tokenOf x s
        let extra (sign : String) : List Token × List (Nat × String) :=
          tokens fuel { x with extras := (x.line, s!"extra '{sign}'") :: x.extras } rest
        if kind == .word "\x7d" && x.braces = 0 then extra "\x7d"
        else if kind == .word ")" && x.parentheses = 0 then extra ")"
        else
          let next := match kind with
            | .word "(" => { x with parentheses := x.parentheses + 1 }
            | .word ")" => { x with parentheses := x.parentheses - 1 }
            | .word "\x7b" => { x with braces := x.braces + 1 }
            | .word "\x7d" => { x with braces := x.braces - 1 }
            | _ => x
          let token : Token := ⟨kind, x.line, next.parentheses, next.braces⟩
          let rest :=
            if kind == .word "\x7d" && next.braces = 0 then
              match rest.dropWhile isBlank with
              | ';' :: rest => rest
              | _ => rest
            else rest
          let line := x.line + lines + (if kind == .lineEnd then 1 else 0)
          let (line, rest) := if continues kind then skipLines (rest.length + 1) line rest
            else (line, rest)
          match kind with
          | .fault _ => ([token], x.extras.reverse)
          | _ =>
            let (more, extras) := tokens fuel { next with line, last := some kind } rest
            (token :: more, extras)
    | [] => ([⟨.programEnd, x.line, x.parentheses, x.braces⟩], x.extras.reverse)

end Lexing

/-- The tokens of a program, and complaints with their lines. -/
def tokensOf (s : List Char) : List Token × List (Nat × String) :=
  let (line, s') := Lexing.skipLines (s.length + 1) 1 s
  Lexing.tokens (s.length + 1) { line } s'

def TokenKind.isFault : TokenKind → Bool
  | fault _ => true
  | _ => false

/-- How a token is shown in a complaint. -/
def TokenKind.shown : TokenKind → String
  | number _ spelling => spelling
  | text s => s
  | pattern s => s!"/{s}/"
  | name s _ => if s = "NF" then "$" else s
  | word w => if w = ">>" then ">" else w
  | lineEnd => "end of line"
  | programEnd => "end of file"
  | fault message => message
  | stranger c => Lexing.strange c

end ReleasePreview.Awk
