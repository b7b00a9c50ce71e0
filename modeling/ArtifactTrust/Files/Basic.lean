/-!
# Files

What the program needs of a file system: the content of a file and the names in a directory.
`Files m` is any provider of the two with effects in `m`, so that what is said of a reader
holds whatever is stored and however it changes in between.
-/

namespace ArtifactTrust

set_option autoImplicit false

inductive FileFault where
  | missing
  | notDirectory
  | isDirectory
  | nameTooLong
  /-- The path holds a zero character. -/
  | zeroInPath
  /-- The content of a text file is not UTF-8. -/
  | notText
  | other (text : String)
deriving DecidableEq, Repr

def FileFault.message : FileFault → String
  | missing => "No such file or directory (os error 2)"
  | notDirectory => "Not a directory (os error 20)"
  | isDirectory => "Is a directory (os error 21)"
  | nameTooLong => "File name too long (os error 36)"
  | zeroInPath => "file name contained an unexpected NUL byte"
  | notText => "stream did not contain valid UTF-8"
  | other text => text

/-- A provider of files. -/
structure Files (m : Type → Type) where
  /-- The content of the file at a path. -/
  read : String → ExceptT FileFault m ByteArray
  /-- The names in the directory at a path, in any order. -/
  list : String → ExceptT FileFault m (List String)

def Files.readText {m : Type → Type} [Monad m] (files : Files m) (path : String) :
    ExceptT FileFault m String := do
  match String.fromUTF8? (← files.read path) with
  | some text => return text
  | none => throw .notText

namespace FilePath

def isAbsolute (path : String) : Bool := path.toList.head? == some '/'

/-- The path of a name in a directory; an absolute name stands for itself. -/
def join (directory name : String) : String :=
  if isAbsolute name || directory.isEmpty then name
  else if directory.toList.getLast? == some '/' then directory ++ name
  else directory ++ "/" ++ name

/-- The part of a file name behind its last period. A name that is all extension has none. -/
def extension? (name : String) : Option String :=
  let ending := name.toList.reverse.takeWhile (· != '.')
  match name.toList.reverse.drop ending.length with
  | [] => none
  | [_] => none
  | _ => if name = ".." then none else some (String.ofList ending.reverse)

end FilePath

end ArtifactTrust
