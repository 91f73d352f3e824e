import Whix.Framework.FileTree
import Whix.Framework.Paths

/-!
# The disk cache

What the app uses of `Disk`: `save`, `retrieve` and `exists` for raw data, over a tree of files.
A path is first made valid (`getValidFilePath`), then it becomes a URL below one of the
directories of the app.  The system follows a URL component by component, `.` and `..` included,
so what a path leads to depends on the folders on the way.

Errors are kept as their codes; those of the file manager are one.
-/

namespace Whix

open FileTrees

/-- The name of a file or a folder. -/
abbrev FileName := List Char

namespace Disk

/-- `Disk.Directory` -/
inductive Directory where
  | documents
  | caches
  | applicationSupport
  | temporary
  | sharedContainer (appGroupName : String)
  deriving DecidableEq

/-- An error of `Disk`, by its code, or one of the file manager. -/
inductive DiskError where
  | noFileFound
  | invalidFileName
  | couldNotAccessTemporaryDirectory
  | couldNotAccessUserDomainMask
  | couldNotAccessSharedContainer
  | fileManager
  deriving DecidableEq

/-- What the system tells: where the directories are, as far as the app has access to them, and
which characters are illegal or control characters. -/
structure FileSystem where
  location : Directory → Option (List FileName)
  illegalCharacters : Char → Bool
  controlCharacters : Char → Bool

/-- `CharacterSet.newlines`: U+000A to U+000D, U+0085, U+2028 and U+2029. -/
def newlines (c : Char) : Bool :=
  let n := c.toNat
  (0xA ≤ n && n ≤ 0xD) || n == 0x85 || n == 0x2028 || n == 0x2029

/-- `removeSlashesAtBeginning(of:)` -/
def removeSlashesAtBeginning : List Char → List Char
  | [] => []
  | c :: string => if c = '/' then removeSlashesAtBeginning string else c :: string

section Operations

variable {Data : Type} (S : FileSystem)

/-- The characters that `getValidFilePath` leaves out. -/
def invalidCharacters (c : Char) : Bool :=
  c = ':' || newlines c || S.illegalCharacters c || S.controlCharacters c

/-- `getValidFilePath(from:)` -/
def getValidFilePath (originalString : String) : Except DiskError String :=
  let pathWithoutIllegalCharacters :=
    originalString.toList.filter fun c => !invalidCharacters S c
  let validFileName := String.ofList (removeSlashesAtBeginning pathWithoutIllegalCharacters)
  if validFileName ≠ "" ∧ validFileName ≠ "." then .ok validFileName
  else .error .invalidFileName

/-- How the system takes a component of a path. -/
def move (component : FileName) : Move FileName :=
  if component = ['.'] then .stay
  else if component = ['.', '.'] then .up
  else .into component

/-- The components of a path. -/
def moves (path : String) : List (Move FileName) := (Paths.components '/' path.toList).map move

/-- A file URL: a directory of the app, and a path from there. -/
structure URL where
  directory : List FileName
  path : List (Move FileName)

/-- The position a URL leads to. -/
def URL.position (url : URL) : List FileName := destination url.directory url.path

/-- `createURL(for:in:)` -/
def createURL (path : Option String) (directory : Directory) : Except DiskError URL := do
  let validPath ← path.mapM (getValidFilePath S)
  match S.location directory with
  | some location => return ⟨location, (validPath.map moves).getD []⟩
  | none =>
      throw <| match directory with
        | .temporary => .couldNotAccessTemporaryDirectory
        | .sharedContainer _ => .couldNotAccessSharedContainer
        | _ => .couldNotAccessUserDomainMask

variable (t : FileTree FileName Data)

/-- `FileManager.default.fileExists(atPath: url.path)` -/
def fileExists (url : URL) : Bool := t.Open url.directory url.path ∧ t.Exists url.position

/-- The same, if it is a directory that exists. -/
def directoryExists (url : URL) : Bool := t.Open url.directory url.path ∧ t.IsDirectory url.position

/-- `getExistingFileURL(for:in:)` -/
def getExistingFileURL (path : Option String) (directory : Directory) : Except DiskError URL := do
  let url ← createURL S path directory
  if fileExists t url then return url
  throw .noFileFound

/-- `createSubfoldersBeforeCreatingFile(at:)`, with whether it succeeds. -/
def createSubfoldersBeforeCreatingFile (url : URL) : Bool × FileTree FileName Data :=
  let subfolderUrl : URL := { url with path := url.path.dropLast }
  if directoryExists t subfolderUrl then (true, t)
  else t.makeFolders subfolderUrl.directory subfolderUrl.path

/-- `value.write(to: url, options: .atomic)`; what is a directory already cannot be written. -/
def write (value : Data) (url : URL) : Option (FileTree FileName Data) :=
  match url.path.getLast? with
  | some (.into name) => t.write (destination url.directory url.path.dropLast) name value
  | _ => none

/-- `save(_:to:as:)`.  When it throws, folders may have been made. -/
def save (value : Data) (directory : Directory) (path : String) :
    Except DiskError Unit × FileTree FileName Data :=
  match createURL S (some path) directory with
  | .error error => (.error error, t)
  | .ok url =>
      match createSubfoldersBeforeCreatingFile t url with
      | (false, t) => (.error .fileManager, t)
      | (true, t) =>
          match write t value url with
          | some t => (.ok (), t)
          | none => (.error .fileManager, t)

/-- `retrieve(_:from:as:)` for raw data -/
def retrieve (path : String) (directory : Directory) : Except DiskError Data := do
  let url ← getExistingFileURL S t (some path) directory
  match t.read url.position with
  | some data => return data
  | none => throw .fileManager

/-- `exists(_:in:)` -/
def «exists» (path : String) (directory : Directory) : Bool :=
  match getExistingFileURL S t (some path) directory with
  | .ok _ => true
  | .error _ => false

end Operations

end Disk

end Whix
