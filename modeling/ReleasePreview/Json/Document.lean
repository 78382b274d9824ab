import ReleasePreview.Json.Token

/-!
A JSON text as a tree, as far as it can be read. What is wrong with the text stands in the tree
where a reader that goes through it in order comes upon it, so the first problem is always the one
that is reported.
-/
namespace ReleasePreview.Json

/-- How the elements of a list or the members of an object end. -/
inductive Closing where
  | closed
  /-- The text ends where a comma or the closing bracket is due. -/
  | missing
  /-- Something else stands there. -/
  | stray
  /-- The closing bracket follows a comma. -/
  | trailingComma
  /-- The text ends after a comma. -/
  | openComma
  /-- Something else stands where a name is due. -/
  | badName
  /-- A name that is no complete string. -/
  | brokenName (fault : Fault)
  /-- The last element is not complete. -/
  | broken (fault : Fault)

inductive Node where
  | null
  | bool (b : Bool)
  | number (value : Except SyntaxError Number)
  | string (value : Except SyntaxError String)
  | list (items : List Node) (closing : Closing)
  | object (members : List (Except SyntaxError String × Node)) (closing : Closing)
  | fault (fault : Fault)

/-- The fault that keeps a node from being complete, if any. -/
def Node.incomplete : Node → Option Fault
  | .fault f => some f
  | .list _ .closed => none
  | .object _ .closed => none
  | .list _ closing => some (listFault closing)
  | .object _ closing => some (listFault closing)
  | _ => none
where
  /-- Only that the text cannot go on matters here, not how it is reported. -/
  listFault : Closing → Fault
    | .brokenName f => f
    | .broken f => f
    | _ => .plain .trailingCharacters

mutual

/-- Reads a value, and gives the tokens behind it. -/
def value : Nat → List Token → Node × List Token
  | 0, _ => (.fault (.plain .tooDeep), [])
  | fuel + 1, ts =>
    match ts with
    | [] => (.fault (.plain .endOfValue), [])
    | .null :: rest => (.null, rest)
    | .bool b :: rest => (.bool b, rest)
    | .number v :: rest => (.number v, rest)
    | .string v :: rest => (.string v, rest)
    | .openList :: rest =>
      let (items, closing, rest) := firstItem fuel rest
      (.list items closing, rest)
    | .openObject :: rest =>
      let (members, closing, rest) := firstMember fuel rest
      (.object members closing, rest)
    | .brokenScalar f :: _ => (.fault f, [])
    | .brokenString f :: _ => (.fault f, [])
    | _ => (.fault (.plain .expectedValue), [])

/-- Reads behind an opening bracket. -/
def firstItem : Nat → List Token → List Node × Closing × List Token
  | 0, _ => ([], .missing, [])
  | fuel + 1, ts =>
    match ts with
    | [] => ([], .missing, [])
    | .closeList :: rest => ([], .closed, rest)
    | ts => item fuel ts

/-- Reads an element and what follows it. -/
def item : Nat → List Token → List Node × Closing × List Token
  | 0, _ => ([], .missing, [])
  | fuel + 1, ts =>
    let (node, rest) := value fuel ts
    match node.incomplete with
    | some f => ([node], .broken f, [])
    | none =>
      match rest with
      | .closeList :: rest => ([node], .closed, rest)
      | .comma :: .closeList :: _ => ([node], .trailingComma, [])
      | [.comma] => ([node], .openComma, [])
      | .comma :: rest =>
        let (nodes, closing, rest) := item fuel rest
        (node :: nodes, closing, rest)
      | [] => ([node], .missing, [])
      | _ => ([node], .stray, [])

/-- Reads behind an opening brace. -/
def firstMember :
    Nat → List Token → List (Except SyntaxError String × Node) × Closing × List Token
  | 0, _ => ([], .missing, [])
  | fuel + 1, ts =>
    match ts with
    | [] => ([], .missing, [])
    | .closeObject :: rest => ([], .closed, rest)
    | ts => member fuel ts

/-- Reads a member and what follows it. -/
def member : Nat → List Token → List (Except SyntaxError String × Node) × Closing × List Token
  | 0, _ => ([], .missing, [])
  | fuel + 1, ts =>
    match ts with
    | .string name :: .colon :: rest =>
      let (node, rest) := value fuel rest
      match node.incomplete with
      | some f => ([(name, node)], .broken f, [])
      | none =>
        match rest with
        | .closeObject :: rest => ([(name, node)], .closed, rest)
        | .comma :: .closeObject :: _ => ([(name, node)], .trailingComma, [])
        | [.comma] => ([(name, node)], .openComma, [])
        | .comma :: rest =>
          let (members, closing, rest) := member fuel rest
          ((name, node) :: members, closing, rest)
        | [] => ([(name, node)], .missing, [])
        | _ => ([(name, node)], .stray, [])
    | [.string name] =>
      ([(name, .fault (.plain .endOfObject))], .broken (.plain .endOfObject), [])
    | .string name :: _ =>
      ([(name, .fault (.plain .expectedColon))], .broken (.plain .expectedColon), [])
    | .brokenString f :: _ => ([], .brokenName f, [])
    | _ => ([], .badName, [])

end

/-- A text as it was read: its first value, and whether anything follows it. -/
structure Document where
  root : Node
  trailing : Bool

/-- Reads a text. No more than three steps of the reader go by before it takes a token, so three
times the number of tokens and some more is fuel enough. -/
def document (s : List Char) : Document :=
  let ts := tokens s
  let (root, rest) := value (3 * ts.length + 3) ts
  ⟨root, !rest.isEmpty⟩

end ReleasePreview.Json
