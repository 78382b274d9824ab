import ReleasePreview.Shell.Expand

/-! Redirections: what descriptors stand for while a command runs. -/
namespace ReleasePreview.Shell

/-- What a redirection comes to. -/
inductive Connection where
  | file (descriptor : Nat) (mode : World.Mode) (path : String)
  | duplicate (descriptor source : Nat)
  | closed (descriptor : Nat)
  | text (descriptor : Nat) (document : Word)

def Connection.descriptor : Connection → Nat
  | file d _ _ => d
  | duplicate d _ => d
  | closed d => d
  | text d _ => d

/-- A descriptor that is redirected, and where what it stood for is kept. -/
structure Saved where
  descriptor : Nat
  copy : Option Nat

namespace Script

def connection (run : Substitution) : Redirect → Script Connection
  | .file d mode w => do return .file d mode (← expandText run .start w)
  | .duplicate d w => do
    match (← expandText run .start w).toList with
    | [c] =>
      if c.isDigit then return .duplicate d (c.toNat - '0'.toNat)
      else if c = '-' then return .closed d
      else fail "Syntax error: Bad fd number"
    | _ => fail "Syntax error: Bad fd number"
  | .document d i => do
    return .text d ((← get).documents[i]?.getD [])

/-- Opens a file, unless it would be overwritten and should not be. -/
def openFile (keeps : Bool) (d : Nat) (mode : World.Mode) (path : String) :
    Program (Option FileError) := do
  let isThere ← Program.files fun t directory => t.isFile directory (Text.Octets.readable path)
  if keeps && mode = .writing && isThere then return some .alreadyExists
  else Program.openAt d path mode

/-- Connects a descriptor. Documents are expanded only here. -/
def connect (run : Substitution) (c : Connection) : Script Unit := do
  match c with
  | .closed d => perform (Program.close d)
  | .text d document =>
    let s ← expandDocument run document
    perform (Program.openText d (Text.Octets.toBytes s))
  | .duplicate d source =>
    if !(← perform (Program.duplicate source d)) then fail s!"{source}: Bad file descriptor"
  | .file d mode path =>
    match ← perform (openFile (← hasOption 'C') d mode path) with
    | none => return
    | some e =>
      let isLost := e = .notFound || e = .notDirectory
      if mode = .reading then
        fail (s!"cannot open {path}: " ++ (if isLost then "No such file" else e.reason))
      else
        fail (s!"cannot create {path}: " ++ (if isLost then "Directory nonexistent" else e.reason))

/-- Connects descriptors one after the other. Gives where what they stood for is kept, and whether
all went well. -/
def connectAll (run : Substitution) (saved : List Saved) :
    List Connection → Script (List Saved × Bool)
  | [] => return (saved, true)
  | c :: cs => do
    let saved ←
      if saved.any (·.descriptor = c.descriptor) then pure saved
      else do
        let copy ← perform (Program.keepCopy c.descriptor)
        pure (⟨c.descriptor, copy⟩ :: saved)
    let ok ← tryCatch (do connect run c; return true) fun e => do
      if e = .ended then throw e else return false
    if ok then connectAll run saved cs else return (saved, false)

/-- Puts descriptors back. -/
def disconnectAll (saved : List Saved) : Script Unit :=
  saved.forM fun s => perform (Program.putBack s.descriptor s.copy)

/-- Lets descriptors stay what they are now. -/
def forget (saved : List Saved) : Script Unit :=
  saved.forM fun s => match s.copy with
    | some copy => perform (Program.close copy)
    | none => return

end Script

end ReleasePreview.Shell
