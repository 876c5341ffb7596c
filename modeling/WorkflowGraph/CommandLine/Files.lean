import WorkflowGraph.Fault
import WorkflowGraph.Table
import WorkflowGraph.Text.Quoted

/-!
# Files

Commands read a file and may write one; `FileAccess` is what they need for it. `Files` holds the
files of a working folder and of the folders around it as a value, so that commands can be run
without a disk. A file is written together with the folders that it lies in.
-/

namespace WorkflowGraph.CommandLine

/-- Reading and writing files by their names. -/
structure FileAccess (m : Type → Type) where
  /-- The text of a file. -/
  read : String → m (Except Fault String)
  /-- Makes a text the text of a file. -/
  write : String → String → m (Except Fault Unit)

/-! ## Paths -/

/-- A path, as the names along it. -/
structure Path where
  /-- What the path begins with: nothing at the working folder, one or two slashes at the root of
  all folders. -/
  root : String
  /-- The names; `..` leads one folder up. -/
  names : List String
  deriving DecidableEq

namespace Path

/-- The path that a text denotes. Empty names and `.` lead nowhere, and of the slashes at the
beginning two are kept but more count as one. -/
def ofText (s : String) : Path where
  root :=
    match (s.toList.takeWhile (· == '/')).length with
    | 0 => ""
    | 2 => "//"
    | _ => "/"
  names := (s.splitOn "/").filter fun name => name != "" && name != "."

/-- The path as messages show it. -/
def text (p : Path) : String :=
  if p.root.isEmpty && p.names.isEmpty then "." else p.root ++ "/".intercalate p.names

/-- The path of the folder that holds what the path leads to. -/
def parent (p : Path) : Path :=
  { p with names := p.names.dropLast }

/-- A name along the path holds U+0000, which no name of a file can. -/
def hasNull (p : Path) : Bool :=
  p.names.any fun name => name.toList.contains '\x00'

end Path

/-- Why a file cannot be read or written. -/
inductive FileProblem where
  /-- There is no such file or folder. -/
  | missing
  /-- There is such a file already. -/
  | taken
  /-- A file stands where a folder is needed. -/
  | notAFolder
  /-- A folder stands where a file is needed. -/
  | isAFolder
  /-- A path or a name along it is too long. -/
  | tooLong
  deriving DecidableEq

namespace FileProblem

/-- The number of a problem. -/
def number : FileProblem → Nat
  | missing => 2
  | taken => 17
  | notAFolder => 20
  | isAFolder => 21
  | tooLong => 36

/-- What is wrong. -/
def reason : FileProblem → String
  | missing => "No such file or directory"
  | taken => "File exists"
  | notAFolder => "Not a directory"
  | isAFolder => "Is a directory"
  | tooLong => "File name too long"

end FileProblem

/-- The fault of a numbered problem with a file. -/
def fileFault (number : Nat) (reason path : String) : Fault :=
  .file s!"[Errno {number}] {reason}: {Text.quoted path}"

/-- The fault of a problem with a path. -/
def FileProblem.fault (p : FileProblem) (path : Path) : Fault :=
  fileFault p.number p.reason path.text

/-! ## Files as a value -/

/-- The working folder, as the names that lead to it from the root. It lies among temporary files,
under a name that no path can give. -/
def workingFolder : List String := ["tmp", ""]

/-- The folders in the root of every system. -/
def systemFolders : List String :=
  ["bin", "boot", "dev", "etc", "home", "lib", "lib64", "media", "mnt", "opt", "proc", "root",
    "run", "sbin", "srv", "sys", "tmp", "usr", "var"]

/-- The file that is always empty. -/
def emptyDevice : List String := ["dev", "null"]

/-- The greatest number of bytes of a name. -/
def maxNameSize : Nat := 255

/-- The greatest number of bytes of a path. -/
def maxPathSize : Nat := 4095

/-- The greatest number of folders that are made one inside the other at a time. -/
def maxNewFolders : Nat := 980

/-- The files of a working folder and around it. -/
structure Files where
  /-- The texts of the files under their keys. -/
  texts : Table String := .empty
  /-- The keys of folders that have been made. -/
  folders : List String := []

namespace Files

/-- The names that lead from the root to a file or folder, as one text. -/
def key (names : List String) : String :=
  "/".intercalate names

/-- Files with the given texts, under paths from the working folder. -/
def ofTexts (texts : List (String × String)) : Files :=
  { texts := .ofList (texts.map fun f => (key (workingFolder ++ (Path.ofText f.1).names), f.2)) }

/-- The files in the working folder, under paths from there. -/
def inWorkingFolder (files : Files) : List (String × String) :=
  let beginning := (key workingFolder ++ "/").toList
  files.texts.entries.filterMap fun f =>
    if beginning.isPrefixOf f.1.toList then
      some (String.ofList (f.1.toList.drop beginning.length), f.2)
    else none

/-- The names lead to a folder: one around the working folder, one that was made, or one in which a
file lies. -/
def isFolder (files : Files) (names : List String) : Bool :=
  names.isPrefixOf workingFolder || systemFolders.any (fun name => names == [name]) ||
    files.folders.contains (key names) ||
    files.texts.names.any fun name => (key names ++ "/").toList.isPrefixOf name.toList

/-- The names lead to a file. -/
def isFile (files : Files) (names : List String) : Bool :=
  names == emptyDevice || files.texts.has (key names)

/-- Where names lead to from a folder. All but the last have to lead to folders. -/
def locate (files : Files) (folder : List String) : List String → Except FileProblem (List String)
  | [] => .ok folder
  | name :: rest =>
    if files.isFolder folder then
      if maxNameSize < name.utf8ByteSize then .error .tooLong
      else files.locate (if name = ".." then folder.dropLast else folder ++ [name]) rest
    else if files.isFile folder then .error .notAFolder
    else .error .missing

/-- Where a path leads to. -/
def find (files : Files) (path : Path) : Except FileProblem (List String) :=
  if maxPathSize < path.text.utf8ByteSize then .error .tooLong
  else files.locate (if path.root.isEmpty then workingFolder else []) path.names

/-- The text of the file that a path leads to. -/
def read (files : Files) (path : Path) : Except FileProblem String := do
  let names ← files.find path
  if files.isFolder names then .error .isAFolder
  else if names == emptyDevice then .ok ""
  else
    match files.texts.find? (key names) with
    | some text => .ok text
    | none => .error .missing

/-- The files with a new folder. -/
def makeFolder (files : Files) (path : Path) : Except FileProblem Files := do
  let names ← files.find path
  if files.isFolder names || files.isFile names then .error .taken
  else .ok { files with folders := key names :: files.folders }

/-- The files with a folder, which may have been there before. -/
def provideFolder (files : Files) (path : Path) : Except FileProblem Files :=
  match files.makeFolder path, files.find path with
  | .ok files, _ => .ok files
  | .error .missing, _ => .error .missing
  | .error problem, found =>
    if (found.toOption.map files.isFolder).getD false then .ok files else .error problem

/-- The files after an attempt, which keeps what was made before it failed, and the fault. -/
abbrev Action := ExceptT Fault (StateM Files)

/-- Makes the files those after an attempt that either succeeds as a whole or makes nothing. -/
def become (files : Except Fault Files) : Action Unit :=
  match files with
  | .ok files => set files
  | .error fault => throw fault

/-- Makes the folders along a path, given as what it begins with and its names in reverse; at most
`room` of them may be missing. The fault names the folder that could not be made. -/
def provideFolders (root : String) : (room : Nat) → (reversed : List String) → Action Unit
  | _, [] => pure ()
  | 0, _ :: _ => throw .tooNested
  | room + 1, name :: before => do
    let path : Path := ⟨root, (name :: before).reverse⟩
    let provided := (← get).provideFolder path
    if provided matches .error .missing then provideFolders root room before
    become (((← get).provideFolder path).mapError fun problem => problem.fault path)

/-- The fault of a path that no file can have. -/
def requireName (path : Path) : Action Unit :=
  if path.hasNull then throw .nullInName else pure ()

/-- Makes a text the text of the file that a path leads to. -/
def write (path : Path) (text : String) : Action Unit := do
  requireName path.parent
  provideFolders path.root maxNewFolders path.parent.names.reverse
  requireName path
  match (← get).find path with
  | .error problem => throw (problem.fault path)
  | .ok names =>
    let files ← get
    if files.isFolder names then throw (FileProblem.isAFolder.fault path)
    if names != emptyDevice then
      set { files with texts := files.texts.insert (key names) text }

/-- Reading and writing of files that are held as a value. -/
def access : FileAccess (StateM Files) where
  read name := do
    let path := Path.ofText name
    if path.hasNull then pure (.error .nullInName)
    else pure (((← get).read path).mapError fun problem => problem.fault path)
  write name text := (write (.ofText name) text).run

end Files

end WorkflowGraph.CommandLine
