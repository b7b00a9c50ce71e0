import ArtifactTrust.Files.Basic
import ArtifactTrust.Text.Cut

/-!
# File trees

A file system as a value. A path is followed from the working directory name by name, and a
walk may go up again as far as it went down.
-/

namespace ArtifactTrust

set_option autoImplicit false

inductive FileTree where
  | file (content : ByteArray)
  | directory (entries : List (String × FileTree))

namespace FileTree

def empty : FileTree := directory []

def maxNameSize : Nat := 255

def maxPathSize : Nat := 4095

/-- Follows names from a directory whose parents are `above`, the nearest first. -/
def walk (above : List FileTree) (here : FileTree) : List String → Except FileFault FileTree
  | [] => .ok here
  | name :: rest =>
    match here with
    | file _ => .error .notDirectory
    | directory entries =>
      if name = "" ∨ name = "." then walk above here rest
      else if name = ".." then
        match above with
        | [] => .error .missing
        | parent :: above => walk above parent rest
      else if maxNameSize < name.utf8ByteSize then .error .nameTooLong
      else
        match entries.lookup name with
        | none => .error .missing
        | some next => walk (here :: above) next rest

def names (path : String) : List String := (Text.pieces '/' path.toList).map String.ofList

def find (tree : FileTree) (path : String) : Except FileFault FileTree :=
  if Text.holds '\x00' path then .error .zeroInPath
  else if maxPathSize < path.utf8ByteSize then .error .nameTooLong
  else if path.isEmpty || FilePath.isAbsolute path then .error .missing
  else walk [] tree (names path)

def read (tree : FileTree) (path : String) : Except FileFault ByteArray :=
  match tree.find path with
  | .ok (file content) => .ok content
  | .ok (directory _) => .error .isDirectory
  | .error fault => .error fault

def list (tree : FileTree) (path : String) : Except FileFault (List String) :=
  match tree.find path with
  | .ok (file _) => .error .notDirectory
  | .ok (directory entries) => .ok (entries.map Prod.fst)
  | .error fault => .error fault

def entries : FileTree → List (String × FileTree)
  | file _ => []
  | directory entries => entries

def replaceEntry (name : String) (next : Option FileTree) (entries : List (String × FileTree)) :
    List (String × FileTree) :=
  match next with
  | none => entries.filter (·.1 ≠ name)
  | some t => (name, t) :: entries.filter (·.1 ≠ name)

/-- Puts a tree at the end of a path, for which directories on the way are made, or removes
what is there. -/
def put (next : Option FileTree) : List String → FileTree → FileTree
  | [], here => next.getD here
  | [name], here => directory (replaceEntry name next here.entries)
  | name :: rest, here =>
    match here.entries.lookup name, next with
    | none, none => here
    | below, _ =>
      directory (replaceEntry name (some (put next rest (below.getD empty))) here.entries)

/-- The names in a path that lead somewhere else. -/
def steps (path : String) : List String := (names path).filter fun name => name ≠ "" ∧ name ≠ "."

/-- The tree with a directory at a path, which stays as it is if there is one. -/
def makeDirectory (tree : FileTree) (path : String) : FileTree :=
  match tree.find path with
  | .ok (directory _) => tree
  | _ => put (some empty) (steps path) tree

/-- The tree with a file at a path. A path that ends in a slash makes a directory. -/
def write (tree : FileTree) (path : String) (content : ByteArray) : FileTree :=
  if path.toList.getLast? = some '/' then tree.makeDirectory path
  else put (some (file content)) (steps path) tree

def remove (tree : FileTree) (path : String) : FileTree := put none (steps path) tree

def provider {m : Type → Type} [Monad m] [MonadStateOf FileTree m] : Files m where
  read path := do return ← ExceptT.mk (return (← getThe FileTree).read path)
  list path := do return ← ExceptT.mk (return (← getThe FileTree).list path)

end FileTree

end ArtifactTrust
