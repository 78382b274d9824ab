import ReleasePreview.Http.DomainName
import ReleasePreview.Text.Utf8

/-!
What a URL asks of its server: a path with dots resolved and special characters escaped, and the
query. Only the schemes `http` and `https` are known, and only hosts that can be named.
-/
namespace ReleasePreview.Http

/-- Control characters and everything beyond ASCII are escaped everywhere. -/
def isControl (b : UInt8) : Bool := b < 0x20 || 0x7E < b

/-- The bytes that are escaped in a path. -/
def isPathEscaped (b : UInt8) : Bool :=
  isControl b || (Text.Utf8.encode " \"<>`#?\x7b\x7d").contains b

/-- The bytes that are escaped in a query. -/
def isQueryEscaped (b : UInt8) : Bool := isControl b || (Text.Utf8.encode " \"<>#'").contains b

/-- The bytes that are escaped behind the hash sign, which no server is asked for. -/
def isFragmentEscaped (b : UInt8) : Bool := isControl b || (Text.Utf8.encode " \"<>`").contains b

def hexDigit (n : Nat) : Char := (Nat.digitChar n).toUpper

/-- The text with some bytes as a percent sign and two hexadecimal digits. -/
def escape (isEscaped : UInt8 → Bool) (s : List Char) : List Char :=
  (s.flatMap String.utf8EncodeChar).flatMap fun b =>
    if isEscaped b then ['%', hexDigit (b.toNat / 16), hexDigit (b.toNat % 16)]
    else [Char.ofNat b.toNat]

/-- A dot may be written as an escape. -/
def plainDots (segment : List Char) : List Char :=
  match segment with
  | '%' :: '2' :: 'e' :: s => '.' :: plainDots s
  | '%' :: '2' :: 'E' :: s => '.' :: plainDots s
  | c :: s => c :: plainDots s
  | [] => []

/-- The segments of a path with single and double dots resolved. A path that ends in dots ends in
an empty segment. -/
def resolveDots (done : List (List Char)) : List (List Char) → List (List Char)
  | [] => done
  | segment :: rest =>
    let last := if rest.isEmpty then [[]] else []
    if plainDots segment = ['.'] then resolveDots (done ++ last) rest
    else if plainDots segment = ['.', '.'] then resolveDots (done.dropLast ++ last) rest
    else resolveDots (done ++ [segment]) rest

def isSlash (c : Char) : Bool := c = '/' || c = '\\'

/-- A path behind its first slash, escaped. -/
def normalPath (s : List Char) : List Char :=
  let segments := Text.split '/' (s.map fun c => if isSlash c then '/' else c)
  (resolveDots [] segments).flatMap fun segment => '/' :: escape isPathEscaped segment

/-- The text behind a scheme and its colon. -/
def afterScheme? (s : List Char) : Option (List Char) :=
  let scheme := (s.takeWhile (· ≠ ':')).map Char.toLower
  if scheme = "http".toList ∨ scheme = "https".toList then
    match s.dropWhile (· ≠ ':') with
    | _ :: rest => some rest
    | [] => none
  else none

/-- The bytes of a text with escapes. -/
def unescape : List Char → List UInt8
  | '%' :: high :: low :: s =>
    match Decimal.positional? 16 [high, low] with
    | some n => UInt8.ofNat n :: unescape s
    | none => String.utf8EncodeChar '%' ++ unescape (high :: low :: s)
  | c :: s => String.utf8EncodeChar c ++ unescape s
  | [] => []

/-- A name, possibly with escapes, or an address in brackets. -/
def isHost (s : List Char) : Bool :=
  match s with
  | '[' :: s =>
    match s.reverse with
    | ']' :: address => Address.isGroups address.reverse
    | _ => false
  | s =>
    match Text.Utf8.decode? (unescape s) with
    | some name => DomainName.isName name.toList
    | none => false

/-- Splits a host from what follows at a colon. Colons in brackets are part of the host. -/
def splitPort (inBrackets : Bool) : List Char → List Char × List Char
  | [] => ([], [])
  | c :: s =>
    if c = ':' && !inBrackets then ([], c :: s)
    else
      let (host, port) := splitPort (c = '[' || (inBrackets && c ≠ ']')) s
      (c :: host, port)

/-- A host with an optional number behind a colon, and optional credentials before it. -/
def isAuthority (s : List Char) : Bool :=
  let (host, port) := splitPort false (s.reverse.takeWhile (· ≠ '@')).reverse
  let number := port.drop 1
  isHost host && (number.isEmpty || (Decimal.natural? number).any (· < 65536))

/-- A URL has this many characters at most. -/
def maxUrlLength : Nat := 65534

/-- A part of a URL behind its mark, if there is one. -/
def markedPart (isEscaped : UInt8 → Bool) (s : List Char) : List Char :=
  s.take 1 ++ escape isEscaped (s.drop 1)

/-- What is sent to the server of a URL, if it is one. -/
def target? (url : String) : Option String := do
  let isEdge := fun (c : Char) => c.toNat ≤ 0x20
  let s := ((url.toList.dropWhile isEdge).reverse.dropWhile isEdge).reverse
  let s := s.filter fun c => c ≠ '\t' && c ≠ '\n' && c ≠ '\r'
  let scheme := s.takeWhile (· ≠ ':')
  let s := (← afterScheme? s).dropWhile isSlash
  let isEnd := fun (c : Char) => isSlash c || c = '?' || c = '#'
  let authority := s.takeWhile (!isEnd ·)
  guard (isAuthority authority)
  let s := s.dropWhile (!isEnd ·)
  let fragment := markedPart isFragmentEscaped (s.dropWhile (· ≠ '#'))
  let s := s.takeWhile (· ≠ '#')
  let path := normalPath ((s.takeWhile (· ≠ '?')).drop 1)
  let query := markedPart isQueryEscaped (s.dropWhile (· ≠ '?'))
  guard (scheme.length + "://".length + authority.length + path.length + query.length
    + fragment.length ≤ maxUrlLength)
  return String.ofList (path ++ query)

end ReleasePreview.Http
