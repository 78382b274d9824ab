import ReleasePreview.Shell.Command

/-! Tokens of a shell script, and the state of reading one. -/
namespace ReleasePreview.Shell

inductive RedirectSign where
  | file (mode : World.Mode)
  | duplicate
  /-- The lines below; with `tabs` the tabs in front of them are dropped. -/
  | document (tabs : Bool)

inductive Token where
  | endOfFile
  | newline
  | semicolon
  | background
  | and
  | or
  | pipe
  | opened
  | closed
  | endArm
  | redirection (descriptor : Nat) (sign : RedirectSign)
  /-- A word, and whether there are quotes in it. -/
  | word (w : Word) (quoted : Bool)
  | keyword (name : String)

namespace Token

/-- A token as messages call it. -/
def name : Token → String
  | endOfFile => "end of file"
  | newline => "newline"
  | semicolon => "\";\""
  | background => "\"&\""
  | and => "\"&&\""
  | or => "\"||\""
  | pipe => "\"|\""
  | opened => "\"(\""
  | closed => "\")\""
  | endArm => "\";;\""
  | redirection _ _ => "redirection"
  | word _ _ => "word"
  | keyword name => "\"" ++ name ++ "\""

def keywords : List String :=
  ["!", "\x7b", "\x7d", "case", "do", "done", "elif", "else", "esac", "fi", "for", "if", "in",
    "then", "until", "while"]

def isKeyword (name : String) : Token → Bool
  | keyword n => n = name
  | _ => false

/-- Tokens that end a list of commands. -/
def endsList : Token → Bool
  | endOfFile => true
  | closed => true
  | endArm => true
  | keyword name => ["\x7d", "do", "done", "elif", "else", "esac", "fi", "then"].contains name
  | _ => false

/-- The token that a word is where keywords are looked for. -/
def resolved (t : Token) : Token :=
  match t with
  | word w false =>
    match plainText? w with
    | some s => if keywords.contains s then keyword s else t
    | none => t
  | t => t

end Token

/-- Lines that are still to be read for a redirection. -/
structure OwedDocument where
  index : Nat
  delimiter : String
  expands : Bool
  tabs : Bool

/-- The rest of a script, and what is known of it. -/
structure Reader where
  rest : List Char
  line : Nat := 1
  /-- A token that has been looked at only. -/
  pushed : Option Token := none
  last : Token := .newline
  documents : Array Word := #[]
  /-- Texts for words that stand for them. -/
  aliases : List (String × String) := []
  /-- Words that stand for texts which have not been read yet, and the length of what follows. -/
  underway : List (String × Nat) := []
  owed : List OwedDocument := []

/-- What is wrong with a script, and where. -/
structure ScriptFault where
  line : Nat
  message : String

abbrev Parser := StateT Reader (Except ScriptFault)

namespace Parser

def fail {α : Type} (message : String) : Parser α := do
  throw ⟨(← get).line, message⟩

/-- Messages are not longer than this. -/
def maxMessage : Nat := 63

/-- The last token is not the one that is needed here, if it is known which one that is. -/
def unexpected {α : Type} (wanted : Option String) : Parser α := do
  let behind := wanted.elim "" fun name => s!" (expecting {name})"
  let message := (← get).last.name ++ " unexpected" ++ behind
  fail (String.ofList (message.toList.take maxMessage))

/-- The characters in front that a condition holds for. -/
def takeWhile (p : Char → Bool) : Parser (List Char) := modifyGet fun s =>
  let taken := s.rest.takeWhile p
  (taken, { s with rest := s.rest.drop taken.length, line := s.line + taken.count '\n' })

def drop (count : Nat) : Parser Unit := modify fun s =>
  { s with rest := s.rest.drop count, line := s.line + (s.rest.take count).count '\n' }

/-- Puts the text in front that a word stands for, if it stands for one. -/
def replaceAlias (t : Token) : Parser Bool := do
  let s ← get
  let text? : Option (String × String) := match t with
    | .word w false => (plainText? w).bind fun name => (s.aliases.lookup name).map (name, ·)
    | _ => none
  match text? with
  | none => return false
  | some (name, text) =>
    let underway := s.underway.filter (·.2 ≤ s.rest.length)
    if underway.any (·.1 = name) then return false
    set { s with
      rest := text.toList ++ s.rest
      underway := (name, s.rest.length) :: underway }
    return true

def pushBack (t : Token) : Parser Unit := modify fun s => { s with pushed := some t, last := t }

end Parser

end ReleasePreview.Shell
