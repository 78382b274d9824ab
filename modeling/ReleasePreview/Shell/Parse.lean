import ReleasePreview.Shell.Token

/-!
Reading a shell script, one line of commands after the other: what stands before a fault is a
command already. The fuel bounds how deep constructs stand in constructs and how long they are.
-/
namespace ReleasePreview.Shell

/-- Where parts of a word are read. -/
inductive Setting where
  | word
  | double
  /-- Between braces, within double quotes or not. -/
  | brace (quoted : Bool)
  | document
  /-- Between double parentheses, with so many parentheses open. -/
  | arithmetic (depth : Nat)
deriving DecidableEq

namespace Setting

def isQuoted : Setting → Bool
  | word => false
  | brace quoted => quoted
  | _ => true

/-- Characters that end a word outside of quotes. -/
def endsWord (c : Char) : Bool := " \t\n;&|<>()".toList.contains c

/-- Characters that are always taken as they are. -/
def isPlain (c : Char) : Bool :=
  c.isAlphanum || ",./:=@%^+_-".toList.contains c || 0x80 ≤ c.toNat

/-- A backslash before a character of these is dropped. -/
def isEscaped (s : Setting) (c : Char) : Bool :=
  !s.isQuoted || c = '\\' || c = '\x60' || c = '$' ||
    match s with
    | double => c = '"'
    | brace _ => c = '"' || c = '\x7d'
    | _ => false

/-- What is wrong if a script ends here. -/
def endFault : Setting → Option String
  | word => none
  | document => none
  | double => some "Unterminated quoted string"
  | brace true => some "Unterminated quoted string"
  | brace false => some "Missing '\x7d'"
  | arithmetic _ => some "Missing '))'"

end Setting

/-- Puts characters in front of a word. -/
def consText (taken : List Char) (quoted : Bool) : Word → Word
  | .text s q :: parts =>
    if q = quoted && !s.isEmpty then .text (taken ++ s) q :: parts
    else .text taken quoted :: .text s q :: parts
  | parts => .text taken quoted :: parts

/-- The source of a command between backticks, and the rest behind them. -/
def backtickSource (quoted : Bool) : List Char → Option (List Char × List Char)
  | [] => none
  | '\x60' :: s => some ([], s)
  | '\\' :: c :: s =>
    (backtickSource quoted s).map fun (source, rest) =>
      if c = '\n' then (source, rest)
      else if c = '\\' || c = '\x60' || c = '$' || (quoted && c = '"') then (c :: source, rest)
      else ('\\' :: c :: source, rest)
  | c :: s => (backtickSource quoted s).map fun (source, rest) => (c :: source, rest)

/-- The form that stands behind the name of a parameter, and the characters that it takes. `none`
if there is no such form. -/
def formSign? : List Char → Option ((Word → Form) × Nat)
  | ':' :: '-' :: _ => some (.default true, 2)
  | '-' :: _ => some (.default false, 1)
  | ':' :: '=' :: _ => some (.assign true, 2)
  | '=' :: _ => some (.assign false, 1)
  | ':' :: '+' :: _ => some (.alternative true, 2)
  | '+' :: _ => some (.alternative false, 1)
  | ':' :: '?' :: _ => some (.required true, 2)
  | '?' :: _ => some (.required false, 1)
  | '#' :: '#' :: _ => some (.withoutFront true, 2)
  | '#' :: _ => some (.withoutFront false, 1)
  | '%' :: '%' :: _ => some (.withoutBack true, 2)
  | '%' :: _ => some (.withoutBack false, 1)
  | ':' :: '\x7d' :: _ => some (fun _ => .plain, 1)
  | '\x7d' :: _ => some (fun _ => .plain, 0)
  | _ => none

/-- Patterns are read as if they were not in quotes. -/
def isPatternSign : List Char → Bool
  | '#' :: _ => true
  | '%' :: _ => true
  | _ => false

/-- The name of a parameter behind an opening brace, whether its length is asked for, and what
follows. `none` if there is no name. -/
def braceName? (s : List Char) : Option (String × Bool) × List Char :=
  let named (isLength : Bool) (s : List Char) : Option (String × Bool) × List Char :=
    match s with
    | c :: _ =>
      if isNameStart c then
        (some (String.ofList (s.takeWhile isNameChar), isLength), s.dropWhile isNameChar)
      else
        let digits := if isLength then s.take 1 else s.takeWhile Char.isDigit
        (some (String.ofList digits, isLength), s.drop digits.length)
    | [] => (none, [])
  match s with
  | '#' :: c :: rest =>
    if isNameStart c || c.isDigit then named true (c :: rest)
    else if c ≠ '\x7d' && isSpecial c && rest.head? = some '\x7d' then
      (some (String.ofList [c], true), rest)
    else (some ("#", false), c :: rest)
  | c :: rest =>
    if isNameStart c || c.isDigit then named false s
    else if c = '\x7d' then (none, s)
    else if isSpecial c then (some (String.ofList [c], false), rest)
    else (none, rest)
  | [] => (none, [])

/-- Whether a line goes on behind a backslash at its end. -/
def isContinued (line : List Char) : Bool := (line.reverse.takeWhile (· = '\\')).length % 2 = 1

/-- The lines up to a delimiter, and what follows. The fuel is the length of the text. -/
def documentLines (d : OwedDocument) (joined : Bool) :
    (fuel : Nat) → List Char → List Char × List Char
  | 0, s => ([], s)
  | _, [] => ([], [])
  | fuel + 1, s =>
    let line := s.takeWhile (· ≠ '\n')
    let behind := s.drop line.length
    let line := if d.tabs then line.dropWhile (· = '\t') else line
    if !joined && String.ofList line = d.delimiter then ([], behind.drop 1)
    else
      let (lines, rest) := documentLines d (d.expands && isContinued line) fuel (behind.drop 1)
      (line ++ behind.take 1 ++ lines, rest)

def redirectSign? : List Char → Option (Nat × RedirectSign × Nat)
  | '>' :: '>' :: _ => some (1, .file .appending, 2)
  | '>' :: '|' :: _ => some (1, .file .overwriting, 2)
  | '>' :: '&' :: _ => some (1, .duplicate, 2)
  | '>' :: _ => some (1, .file .writing, 1)
  | '<' :: '<' :: '-' :: _ => some (0, .document true, 3)
  | '<' :: '<' :: _ => some (0, .document false, 2)
  | '<' :: '&' :: _ => some (0, .duplicate, 2)
  | '<' :: '>' :: _ => some (0, .file .updating, 2)
  | '<' :: _ => some (0, .file .reading, 1)
  | _ => none

/-- The operators that are tokens of their own, longer ones first. -/
def operators : List (String × Token) :=
  [("&&", .and), ("&", .background), ("||", .or), ("|", .pipe), (";;", .endArm), (";", .semicolon),
    ("(", .opened), (")", .closed)]

/-- Without blanks, joined lines and a comment in front. -/
def skipBlanks (line : Nat) : List Char → List Char × Nat
  | '\\' :: '\n' :: s => skipBlanks (line + 1) s
  | ' ' :: s => skipBlanks line s
  | '\t' :: s => skipBlanks line s
  | '#' :: s => (s.dropWhile (· ≠ '\n'), line)
  | s => (s, line)

/-- The assignment that a word is. -/
def assignment? (w : Word) : Option (String × Word) :=
  match w with
  | .text s false :: parts =>
    let name := s.takeWhile isNameChar
    match s.drop name.length with
    | '=' :: value =>
      if name.head?.any isNameStart then
        some (String.ofList name, if value.isEmpty then parts else .text value false :: parts)
      else none
    | _ => none
  | _ => none

/-- Builtins that functions may not be named for. -/
def reservedNames : List String :=
  [".", ":", "break", "continue", "eval", "exec", "exit", "export", "local", "readonly", "return",
    "set", "shift", "times", "trap", "unset"]

/-- How a list of commands ends. -/
inductive ListMode where
  /-- With its line. -/
  | line
  /-- With a word of its own, behind one command at least. -/
  | body
  /-- With a word of its own. -/
  | optional
deriving DecidableEq

/-- What stands in double quotes is a field even if it is empty, unless it is all arguments. -/
def quotedParts (inner : Word) : Word :=
  match inner with
  | [.parameter "@" .plain _] => inner
  | _ => .text [] true :: inner

mutual

/-- The parts of a word up to the end that a setting has, and whether there are quotes in it. -/
def parts : (fuel : Nat) → Setting → Parser (Word × Bool)
  | 0, _ => Parser.fail "script too long"
  | fuel + 1, setting => do
    let quoted := setting.isQuoted
    let more (setting : Setting) (isQuote : Bool) (front : Word → Word) :
        Parser (Word × Bool) := do
      let (w, hasQuotes) ← parts fuel setting
      return (front w, isQuote || hasQuotes)
    let plain ← Parser.takeWhile Setting.isPlain
    if !plain.isEmpty then more setting false (consText plain quoted)
    else
      match (← get).rest, setting with
      | [], _ =>
        match setting.endFault with
        | some message => Parser.fail message
        | none => return ([], false)
      | '"' :: _, .double => do
        Parser.drop 1
        return ([], false)
      | '\x7d' :: _, .brace _ => do
        Parser.drop 1
        return ([], false)
      | ')' :: ')' :: _, .arithmetic 0 => do
        Parser.drop 2
        return ([], false)
      | ['\\'], _ => do
        Parser.drop 1
        return ([.text ['\\'] true], true)
      | '\\' :: c :: _, _ => do
        Parser.drop 2
        if c = '\n' then more setting false id
        else if setting.isEscaped c then more setting true (.text [c] true :: ·)
        else more setting true (consText ['\\', c] true)
      | '$' :: _, _ => do
        Parser.drop 1
        let found ← substitution fuel quoted
        more setting false (found ++ ·)
      | '\x60' :: _, _ => do
        Parser.drop 1
        let body ← backtick fuel quoted
        more setting false (.command body quoted :: ·)
      | '(' :: _, .arithmetic depth => do
        Parser.drop 1
        more (.arithmetic (depth + 1)) false (consText ['('] quoted)
      | ')' :: _, .arithmetic depth => do
        Parser.drop 1
        more (.arithmetic (depth - 1)) false (consText [')'] quoted)
      | '"' :: _, .document | '"' :: _, .arithmetic _ => do
        Parser.drop 1
        more setting false (consText ['"'] quoted)
      | '"' :: _, _ => do
        Parser.drop 1
        let (inner, _) ← parts fuel .double
        more setting true (quotedParts inner ++ ·)
      | '\'' :: _, .word | '\'' :: _, .brace false => do
        Parser.drop 1
        let body ← Parser.takeWhile (· ≠ '\'')
        if (← get).rest.isEmpty then Parser.fail "Unterminated quoted string"
        Parser.drop 1
        more setting true (.text body true :: ·)
      | c :: _, _ =>
        if setting = .word && Setting.endsWord c then return ([], false)
        else
          Parser.drop 1
          more setting false (consText [c] quoted)

/-- What a dollar sign stands for. -/
def substitution : (fuel : Nat) → (quoted : Bool) → Parser Word
  | 0, _ => Parser.fail "script too long"
  | fuel + 1, quoted => do
    match (← get).rest with
    | '(' :: '(' :: _ => do
      Parser.drop 2
      let (body, _) ← parts fuel (.arithmetic 0)
      return [.arithmetic body quoted]
    | '(' :: _ => do
      Parser.drop 1
      let owed := (← get).owed
      modify fun s => { s with owed := [] }
      let body ← list fuel .optional []
      match ← readToken fuel false true with
      | .closed =>
        modify fun s => { s with owed }
        return [.command body quoted]
      | _ => Parser.unexpected (some Token.closed.name)
    | '\x7b' :: _ => do
      Parser.drop 1
      return [← braced fuel quoted]
    | c :: _ =>
      if isNameStart c then
        return [.parameter (String.ofList (← Parser.takeWhile isNameChar)) .plain quoted]
      else if isSpecial c then
        Parser.drop 1
        return [.parameter (String.ofList [c]) .plain quoted]
      else return [.text ['$'] quoted]
    | [] => return [.text ['$'] quoted]

/-- A parameter between braces. -/
def braced : (fuel : Nat) → (quoted : Bool) → Parser Part
  | 0, _ => Parser.fail "script too long"
  | fuel + 1, quoted => do
    let start := (← get).rest
    let (found, rest) := braceName? start
    Parser.drop (start.length - rest.length)
    let body (isPattern : Bool) : Parser Word := do
      return (← parts fuel (.brace (quoted && !isPattern))).1
    match found, rest, formSign? rest with
    | some (name, true), '\x7d' :: _, _ =>
      Parser.drop 1
      return .parameter name .length quoted
    | some (name, false), _, some (form, count) =>
      Parser.drop count
      let word ← body (isPatternSign rest)
      return .parameter name (form word) quoted
    | some (name, _), _, _ =>
      discard (body false)
      return .parameter name .malformed quoted
    | none, _, _ =>
      discard (body false)
      return .parameter "" .malformed quoted

/-- The command between backticks. -/
def backtick : (fuel : Nat) → (quoted : Bool) → Parser Command
  | 0, _ => Parser.fail "script too long"
  | fuel + 1, quoted => do
    let outer ← get
    match backtickSource quoted outer.rest with
    | none =>
      modify fun s => { s with line := s.line + s.rest.count '\n' }
      Parser.fail "EOF in backquote substitution"
    | some (source, rest) =>
      let taken := outer.rest.take (outer.rest.length - rest.length)
      set { outer with rest := source, line := 1, owed := [] }
      let body ← list fuel .optional []
      modify fun s =>
        { outer with
          rest
          line := outer.line + taken.count '\n'
          documents := s.documents }
      return body

/-- Reads the lines that are owed to redirections. -/
def payDocuments : (fuel : Nat) → Parser Unit
  | 0 => Parser.fail "script too long"
  | fuel + 1 => do
    match (← get).owed with
    | [] => return
    | d :: owed =>
      let outer ← get
      let (body, rest) := documentLines d false (outer.rest.length + 1) outer.rest
      let taken := outer.rest.take (outer.rest.length - rest.length)
      let line := outer.line + taken.count '\n'
      if d.expands then
        set { outer with rest := body, owed := [] }
        let (w, _) ← parts fuel .document
        modify fun s =>
          { outer with rest, line, owed, documents := s.documents.setIfInBounds d.index w }
      else
        set { outer with
          rest, line, owed, documents := outer.documents.setIfInBounds d.index [.text body true] }
      payDocuments fuel

/-- The next token, behind line ends with `newlines`, and with keywords if they are looked for. -/
def readToken : (fuel : Nat) → (newlines keywords : Bool) → Parser Token
  | 0, _, _ => Parser.fail "script too long"
  | fuel + 1, newlines, keywords => do
    let t ← match (← get).pushed with
      | some t =>
        modify fun s => { s with pushed := none }
        pure t
      | none => scan fuel
    match t, newlines with
    | .newline, true =>
      payDocuments fuel
      readToken fuel newlines keywords
    | _, _ =>
      let t := if keywords then t.resolved else t
      if keywords && (← Parser.replaceAlias t) then readToken fuel newlines keywords
      else
        modify fun s => { s with last := t }
        return t

/-- The next token of a simple command, which is its first word if there is none before it. -/
def commandToken : (fuel : Nat) → (isFirst : Bool) → Parser Token
  | 0, _ => Parser.fail "script too long"
  | fuel + 1, isFirst => do
    let t ← readToken fuel false false
    if isFirst && (← Parser.replaceAlias t) then commandToken fuel isFirst else return t

/-- The token in front of the rest. -/
def scan : (fuel : Nat) → Parser Token
  | 0 => Parser.fail "script too long"
  | fuel + 1 => do
    modify fun s =>
      let (rest, line) := skipBlanks s.line s.rest
      { s with rest, line }
    let rest := (← get).rest
    match rest with
    | [] => return .endOfFile
    | '\n' :: _ =>
      Parser.drop 1
      return .newline
    | c :: rest' =>
      match operators.find? fun o => o.1.toList.isPrefixOf rest with
      | some (text, t) =>
        Parser.drop text.length
        return t
      | none =>
        let (digit, behind) : Option Nat × List Char :=
          if c.isDigit then (some (c.toNat - '0'.toNat), rest') else (none, rest)
        match redirectSign? behind with
        | some (usual, sign, count) =>
          Parser.drop (count + (if c.isDigit then 1 else 0))
          return .redirection (digit.getD usual) sign
        | none =>
          let (w, quoted) ← parts fuel .word
          return .word w quoted

/-- Commands on lines of their own, or behind semicolons and ampersands. -/
def list : (fuel : Nat) → ListMode → List Command → Parser Command
  | 0, _, _ => Parser.fail "script too long"
  | fuel + 1, mode, done => do
    let result := match done with
      | [c] => c
      | done => .sequence done.reverse
    let t ← readToken fuel (mode ≠ .line) true
    match t with
    | .newline =>
      payDocuments fuel
      return result
    | .endOfFile =>
      payDocuments fuel
      Parser.pushBack .endOfFile
      return result
    | t =>
      Parser.pushBack t
      if t.endsList && (mode = .optional || (mode = .body && !done.isEmpty)) then return result
      else
        let c ← logical fuel
        let t ← readToken fuel false false
        let c := match t, c with
          | .background, .pipeline stages _ => .pipeline stages true
          | .background, c => .background c
          | _, c => c
        match t with
        | .newline | .endOfFile =>
          Parser.pushBack t
          list fuel mode (c :: done)
        | .background | .semicolon => list fuel mode (c :: done)
        | t =>
          if mode = .line then Parser.unexpected none
          else
            Parser.pushBack t
            return match done with
              | [] => c
              | done => .sequence (c :: done).reverse

/-- Pipelines with logical operators between them. -/
def logical : (fuel : Nat) → Parser Command
  | 0 => Parser.fail "script too long"
  | fuel + 1 => do
    let c ← pipeline fuel false
    logicalRest fuel c

def logicalRest : (fuel : Nat) → Command → Parser Command
  | 0, _ => Parser.fail "script too long"
  | fuel + 1, c => do
    match ← readToken fuel false false with
    | .and =>
      let d ← pipeline fuel true
      logicalRest fuel (.conjunction c d)
    | .or =>
      let d ← pipeline fuel true
      logicalRest fuel (.disjunction c d)
    | t =>
      Parser.pushBack t
      return c

def pipeline : (fuel : Nat) → (newlines : Bool) → Parser Command
  | 0, _ => Parser.fail "script too long"
  | fuel + 1, newlines => do
    let t ← readToken fuel newlines newlines
    let negated := t.isKeyword "!"
    if !negated then Parser.pushBack t
    let c ← command fuel false negated
    let stages ← stages fuel
    let c := if stages.isEmpty then c else .pipeline (c :: stages) false
    return if negated then .negation c else c

/-- The commands behind bars. -/
def stages : (fuel : Nat) → Parser (List Command)
  | 0 => Parser.fail "script too long"
  | fuel + 1 => do
    match ← readToken fuel false false with
    | .pipe =>
      let c ← command fuel true true
      return c :: (← stages fuel)
    | t =>
      Parser.pushBack t
      return []

def expect : (fuel : Nat) → (newlines : Bool) → (name : String) → Parser Unit
  | 0, _, _ => Parser.fail "script too long"
  | fuel + 1, newlines, name => do
    let t ← readToken fuel newlines true
    if !t.isKeyword name then Parser.unexpected (some (Token.keyword name).name)

def command : (fuel : Nat) → (newlines keywords : Bool) → Parser Command
  | 0, _, _ => Parser.fail "script too long"
  | fuel + 1, newlines, keywords => do
    let t ← readToken fuel newlines keywords
    let line := (← get).line
    match t with
    | .keyword "if" =>
      let c ← conditional fuel
      expect fuel false "fi"
      redirected fuel line c
    | .keyword "while" | .keyword "until" =>
      let test ← list fuel .body []
      expect fuel false "do"
      let body ← list fuel .body []
      expect fuel false "done"
      redirected fuel line (.loop (t.isKeyword "until") test body)
    | .keyword "for" =>
      let c ← each fuel line
      redirected fuel line c
    | .keyword "case" =>
      match ← readToken fuel false false with
      | .word subject _ =>
        expect fuel true "in"
        let arms ← arms fuel
        redirected fuel line (.select line subject arms)
      | _ => Parser.unexpected (some "word")
    | .opened =>
      let body ← list fuel .body []
      match ← readToken fuel false true with
      | .closed => redirected fuel line (.subshell body)
      | _ => Parser.unexpected (some Token.closed.name)
    | .keyword "\x7b" =>
      let body ← list fuel .body []
      expect fuel false "\x7d"
      redirected fuel line body
    | .word _ _ | .redirection _ _ =>
      Parser.pushBack t
      simple fuel line [] [] []
    | _ => Parser.unexpected none

/-- A condition and what depends on it, up to the word that ends it. -/
def conditional : (fuel : Nat) → Parser Command
  | 0 => Parser.fail "script too long"
  | fuel + 1 => do
    let test ← list fuel .body []
    expect fuel false "then"
    let yes ← list fuel .body []
    match ← readToken fuel false true with
    | .keyword "elif" => return .conditional test yes (← conditional fuel)
    | .keyword "else" => return .conditional test yes (← list fuel .body [])
    | t =>
      Parser.pushBack t
      return .conditional test yes (.sequence [])

/-- A loop over words, behind its first word. -/
def each : (fuel : Nat) → (line : Nat) → Parser Command
  | 0, _ => Parser.fail "script too long"
  | fuel + 1, line => do
    match ← readToken fuel false false with
    | .word w false =>
      let name := (plainText? w).getD ""
      if !isName name then Parser.fail "Bad for loop variable"
      let t ← readToken fuel true true
      let words ← if t.isKeyword "in" then (do return some (← words fuel)) else (do
        if !(t matches .semicolon) then Parser.pushBack t
        return none)
      expect fuel true "do"
      let body ← list fuel .body []
      expect fuel false "done"
      return .each line name words body
    | _ => Parser.fail "Bad for loop variable"

/-- The words up to the end of a line or a semicolon. -/
def words : (fuel : Nat) → Parser (List Word)
  | 0 => Parser.fail "script too long"
  | fuel + 1 => do
    match ← readToken fuel false false with
    | .word w _ => return w :: (← words fuel)
    | .newline =>
      payDocuments fuel
      return []
    | .semicolon => return []
    | _ => Parser.unexpected none

/-- The arms of a selection. -/
def arms : (fuel : Nat) → Parser (List (List Word × Command))
  | 0 => Parser.fail "script too long"
  | fuel + 1 => do
    let t ← readToken fuel true true
    if t.isKeyword "esac" then return []
    else
      let t ← if t matches .opened then readToken fuel false false else pure t
      let patterns ← patterns fuel t
      let body ← list fuel .optional []
      let arm := (patterns, body)
      match ← readToken fuel true true with
      | .keyword "esac" => return [arm]
      | .endArm => return arm :: (← arms fuel)
      | _ => Parser.unexpected (some Token.endArm.name)

/-- The patterns of an arm from a first token on, up to the parenthesis. -/
def patterns : (fuel : Nat) → Token → Parser (List Word)
  | 0, _ => Parser.fail "script too long"
  | fuel + 1, t => do
    let pattern := match t with
      | .word w _ => w
      | .keyword name => [.text name.toList false]
      | _ => []
    match ← readToken fuel false false with
    | .pipe => return pattern :: (← patterns fuel (← readToken fuel false false))
    | .closed => return [pattern]
    | _ => Parser.unexpected (some Token.closed.name)

/-- A compound command with what redirects it. -/
def redirected : (fuel : Nat) → (line : Nat) → Command → Parser Command
  | 0, _, _ => Parser.fail "script too long"
  | fuel + 1, line, c => do
    let rs ← redirections fuel
    return if rs.isEmpty then c else .redirected line c rs

def redirections : (fuel : Nat) → Parser (List Redirect)
  | 0 => Parser.fail "script too long"
  | fuel + 1 => do
    match ← readToken fuel false true with
    | .redirection descriptor sign =>
      let r ← redirect fuel descriptor sign
      return r :: (← redirections fuel)
    | t =>
      Parser.pushBack t
      return []

/-- What a redirection is to. -/
def redirect : (fuel : Nat) → (descriptor : Nat) → RedirectSign → Parser Redirect
  | 0, _, _ => Parser.fail "script too long"
  | fuel + 1, descriptor, sign => do
    match ← readToken fuel false false, sign with
    | .word w _, .file mode => return .file descriptor mode w
    | .word w _, .duplicate => return .duplicate descriptor w
    | .word w quoted, .document tabs =>
      let index := (← get).documents.size
      modify fun s =>
        { s with
          documents := s.documents.push []
          owed := s.owed ++ [⟨index, unquoted w, !quoted, tabs⟩] }
      return .document descriptor index
    | _, _ => Parser.unexpected none

/-- A simple command from what there is of it already, backwards. -/
def simple : (fuel : Nat) → (line : Nat) → List (String × Word) → List Word → List Redirect →
    Parser Command
  | 0, _, _, _, _ => Parser.fail "script too long"
  | fuel + 1, line, assignments, words, redirects => do
    let finish (t : Token) : Parser Command := do
      Parser.pushBack t
      return .simple line assignments.reverse words.reverse redirects.reverse
    match ← commandToken fuel words.isEmpty with
    | .word w _ =>
      match if words.isEmpty then assignment? w else none with
      | some a => simple fuel line (a :: assignments) words redirects
      | none => simple fuel line assignments (w :: words) redirects
    | .redirection descriptor sign =>
      let r ← redirect fuel descriptor sign
      simple fuel line assignments words (r :: redirects)
    | .opened =>
      match words with
      | [w] =>
        if assignments.isEmpty && redirects.isEmpty then
          match ← readToken fuel false false with
          | .closed =>
            let name := (plainText? w).getD ""
            if !isName name || reservedNames.contains name then Parser.fail "Bad function name"
            let body ← command fuel true true
            return .define line name body
          | _ => Parser.unexpected (some Token.closed.name)
        else finish .opened
      | _ => finish .opened
    | t => finish t

end

/-- The commands of the next line of a script, and what follows; `none` at its end. -/
def Reader.next? (s : Reader) : Except ScriptFault (Option (Command × Reader)) := do
  let fuel := 40 * s.rest.length + 1000
  let (c, after) ← (list fuel .line []).run { s with pushed := none }
  let isAtEnd := (after.pushed matches some .endOfFile) && (c matches .sequence [])
  return if isAtEnd then none else some (c, { after with pushed := none })

end ReleasePreview.Shell
