import ReleasePreview.Tools.Nodes
import ReleasePreview.Tools.Pieces

/-! Programs that list files. -/
namespace ReleasePreview.Tools

def sortedTexts (names : List String) : List String := names.mergeSort fun a b => a ≤ b

/-- What a node is, as a letter and the bits of its mode. -/
def modeText : FileNode → String
  | .directory => "drwxr-xr-x"
  | .file _ mode =>
    let read := if mode.readable then "r" else "-"
    let run := if mode.executable then "x" else "-"
    s!"-{read}w{run}{read}-{run}{read}-{run}"
  | .link _ => "lrwxrwxrwx"

/-- The mode of a file in octal digits. -/
def modeDigits (mode : FileMode) : String :=
  match mode.executable, mode.readable with
  | true, true => "755"
  | false, true => "644"
  | true, false => "311"
  | false, false => "200"

def nodeSize : FileNode → Nat
  | .directory => 4096
  | .file content _ => content.length
  | .link target => target.utf8ByteSize

/-- A name with a mark for what it is. -/
def markedName (o : Options) (name : String) (node : FileNode) : String :=
  match node with
  | .directory => if o.has 'F' || o.has 'p' then name ++ "/" else name
  | .file _ mode => if mode.executable && o.has 'F' then name ++ "*" else name
  | .link _ => if o.has 'F' && !o.has 'l' then name ++ "@" else name

/-- The lines for some nodes by their names. -/
def listed (o : Options) (nodes : List (String × FileNode)) : List String :=
  let quoted (name : String) : String := if o.has 'Q' then s!"\"{name}\"" else name
  if o.has 'l' then
    let widest := (nodes.map fun n => (toString (nodeSize n.2)).length).foldl max 0
    nodes.map fun (name, node) =>
      let target := match node with
        | .link target => s!" -> {Text.Octets.ofText target}"
        | _ => ""
      let size := String.ofList (column widest (nodeSize node))
      let shown := markedName o (quoted name) node
      s!"{modeText node} 1 root root {size} Jan  1 00:00 {shown}{target}\n"
  else if o.has 'm' then
    if nodes.isEmpty then []
    else [", ".intercalate (nodes.map fun (name, node) => markedName o (quoted name) node) ++ "\n"]
  else nodes.map fun (name, node) => markedName o (quoted name) node ++ "\n"

/-- The names in a directory that are shown, with their nodes, in order. -/
def entries (o : Options) (t : FileTree) (p : Place) : List (String × FileNode) :=
  let all := (t.children p).filterMap fun name =>
    (t.node? (p ++ [name])).map (Text.Octets.ofText name, ·)
  let own : List (String × FileNode) :=
    if o.has 'a' then [(".", .directory), ("..", .directory)] else []
  let shown := all.filter fun e => o.has 'a' || o.has 'A' || !e.1.startsWith "."
  let sorted := (own ++ shown).mergeSort fun a b =>
    if o.has 'S' then nodeSize b.2 < nodeSize a.2 || (nodeSize a.2 = nodeSize b.2 && a.1 ≤ b.1)
    else a.1 ≤ b.1
  if o.has 'r' then sorted.reverse else sorted

/-- The lines of a directory, and with `R` of those below it. The fuel is how deep. -/
def listDirectory (o : Options) (t : FileTree) (titles : Bool) : (fuel : Nat) → String → Place →
    List (List String)
  | 0, _, _ => []
  | fuel + 1, path, p =>
    let found := entries o t p
    let title := if titles then [path ++ ":\n"] else []
    let total := if o.has 'l' then
        [s!"total {4 * (found.filter fun e => e.2 ≠ .file [] false).length}\n"] else []
    let below := if !o.has 'R' then []
      else found.flatMap fun (name, node) =>
        if node = .directory && name ≠ "." && name ≠ ".." then
          listDirectory o t titles fuel (Path.join path name) (p ++ [Text.Octets.readable name])
        else []
    (title ++ total ++ listed o found) :: below

def ls : Tool := fun _ => withOptions
  { letters := "1aABCdfFghHiklLmnopqQrRsStTuUvwxX", names := [("all", 'a'), ("almost-all", 'A'),
      ("directory", 'd'), ("recursive", 'R'), ("reverse", 'r'), ("classify", 'F')] } 2
  fun c o => do
  let paths := if o.args.isEmpty then ["."] else o.args
  let follows := !(o.has 'd' || o.has 'l' || o.has 'F')
  let found ← Program.files fun files directory =>
    let v : View := ⟨files, directory⟩
    paths.map fun path =>
      match v.find path follows with
      | .ok r => (path, Except.ok (ε := FileError) r)
      | .error e => (path, if follows then v.find path false else .error e)
  let missing := found.filterMap fun (path, r) => match r with
    | .error e => some (path, e)
    | .ok _ => none
  missing.forM fun (path, e) => complain c s!"cannot access '{path}': {e.reason}"
  let there := found.filterMap fun (path, r) => (r.toOption).map (path, ·)
  let order (l : List (String × Place × FileNode)) : List (String × Place × FileNode) :=
    let sorted := l.mergeSort fun a b => a.1 ≤ b.1
    if o.has 'r' then sorted.reverse else sorted
  let isListed (n : String × Place × FileNode) : Bool := n.2.2 = .directory && !o.has 'd'
  let files := order (there.filter fun n => !isListed n)
  let directories := order (there.filter isListed)
  let t ← Program.files fun files _ => files
  let titles := o.has 'R' || 1 < paths.length
  let first := listed o (files.map fun (path, _, node) => (path, node))
  let rest := directories.flatMap fun (path, p, _) => listDirectory o t titles maxDepth path p
  let blocks := (if first.isEmpty then [] else [first]) ++ rest
  Program.out (String.join (["\n"].intercalate blocks))
  return if missing.isEmpty then 0 else 2

/-- What a format for the state of a node asks for. -/
def statText (path : String) (node : FileNode) : List Char → String
  | '%' :: 's' :: s => toString (nodeSize node) ++ statText path node s
  | '%' :: 'n' :: s => path ++ statText path node s
  | '%' :: 'N' :: s => s!"'{path}'" ++ statText path node s
  | '%' :: 'a' :: s =>
    (match node with
      | .directory => "755"
      | .file _ mode => modeDigits mode
      | .link _ => "777") ++ statText path node s
  | '%' :: 'A' :: s => modeText node ++ statText path node s
  | '%' :: 'F' :: s =>
    (match node with
      | .directory => "directory"
      | .file [] _ => "regular empty file"
      | .file _ _ => "regular file"
      | .link _ => "symbolic link") ++ statText path node s
  | '%' :: 'u' :: s => "0" ++ statText path node s
  | '%' :: 'g' :: s => "0" ++ statText path node s
  | '%' :: 'U' :: s => "root" ++ statText path node s
  | '%' :: 'G' :: s => "root" ++ statText path node s
  | '%' :: 'h' :: s => "1" ++ statText path node s
  | '%' :: '%' :: s => "%" ++ statText path node s
  | '%' :: _ :: s => "0" ++ statText path node s
  | c :: s => c.toString ++ statText path node s
  | [] => ""

def stat : Tool := fun _ => withOptions
  { letters := "c:fLtp:", names := [("format", 'c'), ("printf", 'p'), ("dereference", 'L')] } 1
  fun c o => do
  if o.args.isEmpty then misuse c "missing operand" 1
  else
    eachOperand c
      (fun path v =>
        match v.find path (o.has 'L') with
        | .error e => v.fails s!"cannot statx '{path}': {e.reason}"
        | .ok (_, node) =>
          let line := match o.value? 'c', o.value? 'p' with
            | some format, _ => statText path node format.toList ++ "\n"
            | none, some format =>
              String.ofList (Format.unescaped (statText path node format.toList)).1
            | none, none => s!"  File: {path}\n  Size: {nodeSize node}\n"
          { files := v.files, output := [line] })
      0 o.args

end ReleasePreview.Tools
