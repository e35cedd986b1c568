import PageScript.Text.Utf8
/-!
Files and folders, by their paths.  A path goes from the folder that the program
works in, unless it begins with a slash.  It is walked name by name, and every name
but the last one has to lead to a folder that is there, even if the next one leads
back.
-/

namespace PageScript.CommandLine

inductive FileError where
  | missing
  | exists
  | isFolder
  | isNoFolder
  /-- A path, or a name on it, is longer than it may be. -/
  | tooLong
  /-- A path holds the character that ends it for the system. -/
  | holdsNull
  | unencodable (found : Text.Unencodable)
  /-- More folders have to be made at once than can be. -/
  | tooDeep
  deriving DecidableEq, Repr

/-- A place: whether it is told from the root, and the names that lead to it.  Names
that lead back stand only in front, where they leave the folder that is worked in. -/
structure Path where
  isAbsolute : Bool
  names : List Text
  deriving DecidableEq, Repr

namespace Path

def start (text : Text) : Path := ⟨text.head? == some (.char '/'), []⟩

/-- The names on a path, without those that say nothing. -/
def namesOf (text : Text) : List Text :=
  (Text.splitAt '/' text).filter fun name => !name.isEmpty

/-- The place around another one; the root is around itself. -/
def outer (path : Path) : Path :=
  if path.names.getLast?.any (· != (".." : Text)) then { path with names := path.names.dropLast }
  else if path.isAbsolute then path
  else { path with names := path.names ++ [(".." : Text)] }

def enter (path : Path) (name : Text) : Path :=
  if name == "." then path
  else if name == ".." then path.outer
  else { path with names := path.names ++ [name] }

/-- The place that a text leads to when all folders on the way are there. -/
def ofText (text : Text) : Path := (namesOf text).foldl enter (start text)

def text (path : Path) : Text :=
  let names := ("/" : Text).intercalate path.names
  if path.isAbsolute then "/" ++ names else names

/-- Whether a place is there in any case: the root and the folder for passing files, the
folder that is worked in, and those around it. -/
def isGiven (path : Path) : Bool :=
  path.names.all (· == "..") || path == ⟨true, ["tmp"]⟩

def isInside (path : Path) : Bool :=
  !path.isAbsolute && path.names.head?.all (· != (".." : Text))

end Path

/-- The most bytes of a name. -/
def maxNameLength : Nat := 255

/-- The most bytes of a path. -/
def maxPathLength : Nat := 4095

/-- The most folders that are made for each other at once. -/
def maxNewFolders : Nat := 970

/-- Whether a code point stands for a byte that is no text: the names of files are bytes,
and such ones are shown as surrogates of the second half. -/
def isLooseByte (c : CodePoint) : Bool := 0xDC80 ≤ c.toNat && c.toNat ≤ 0xDCFF

def byteCount (s : Text) : Nat :=
  s.foldl (fun n c => n + if isLooseByte c then 1 else (Text.bytesOf c).length) 0

/-- What keeps a text from being a path: the first surrogate that is no byte, and those
behind it, where the first code point has the place `i`. -/
def unencodablePath? (i : Nat) : Text → Option Text.Unencodable
  | [] => none
  | c :: s =>
      if c.isSurrogate && !isLooseByte c then Text.unencodableFrom? i (c :: s)
      else unencodablePath? (i + 1) s

def joinPath (folder name : Text) : Text :=
  if name.head? == some (.char '/') then name
  else if folder.isEmpty || folder.getLast? == some (.char '/') then folder ++ name
  else folder ++ "/" ++ name

/-- A path cut behind its last slash; the slashes in front of the cut are left out, unless
there is nothing else. -/
def cutPath (s : Text) : Text × Text :=
  let behind := s.reverse.takeWhile (· != .char '/')
  let front := s.reverse.drop behind.length
  let head := front.dropWhile (· == .char '/')
  ((if head.isEmpty then front else head).reverse, behind.reverse)

/-- All files, with their texts, and the folders that were made. -/
structure Folder where
  files : List (Path × Text)
  folders : List Path
  deriving DecidableEq, Repr

namespace Folder

/-- Some files; the folders on their paths are there. -/
def ofFiles (files : List (Text × Text)) : Folder :=
  ⟨files.map fun (path, text) => (.ofText path, text), []⟩

def hasFolder (folder : Folder) (path : Path) : Bool :=
  path.isGiven || folder.folders.contains path ||
    folder.files.any fun (file, _) =>
      file.isAbsolute == path.isAbsolute && path.names.isPrefixOf file.names.dropLast

def hasFile (folder : Folder) (path : Path) : Bool :=
  folder.files.any fun (file, _) => file == path

/-- The place that names lead to; there may be nothing yet. -/
def walk (folder : Folder) (path : Path) : List Text → Except FileError Path
  | [] => .ok path
  | name :: rest =>
      if !folder.hasFolder path then
        .error (if folder.hasFile path then .isNoFolder else .missing)
      else if maxNameLength < byteCount name then .error .tooLong
      else folder.walk (path.enter name) rest

def find (folder : Folder) (text : Text) : Except FileError Path :=
  match unencodablePath? 0 text with
  | some found => .error (.unencodable found)
  | none =>
      if text.contains (.char '\x00') then .error .holdsNull
      else if text.isEmpty then .error .missing
      else if maxPathLength < byteCount text then .error .tooLong
      else folder.walk (Path.start text) (Path.namesOf text)

def endsInSlash (text : Text) : Bool := text.getLast? == some (.char '/')

def isFolder (folder : Folder) (text : Text) : Bool :=
  match folder.find text with
  | .ok path => folder.hasFolder path
  | .error _ => false

def isThere (folder : Folder) (text : Text) : Bool :=
  match folder.find text with
  | .ok path => folder.hasFolder path || (folder.hasFile path && !endsInSlash text)
  | .error _ => false

def read (folder : Folder) (text : Text) : Except FileError Text := do
  let path ← folder.find text
  match folder.files.lookup path with
  | some content => if endsInSlash text then .error .isNoFolder else .ok content
  | none => .error (if folder.hasFolder path then .isFolder else .missing)

def makeOne (folder : Folder) (text : Text) : Except FileError Folder := do
  let path ← folder.find text
  if folder.hasFolder path || folder.hasFile path then .error .exists
  else .ok { folder with folders := folder.folders ++ [path] }

/-- Makes a folder, unless it is there. -/
def makeLast (folder : Folder) (text : Text) : Folder × Option FileError :=
  match folder.makeOne text with
  | .ok made => (made, none)
  | .error error => (folder, if folder.isFolder text then none else some error)

/-- Makes a folder and those on the way to it, unless they are there, but at most
`fuel` ones.  The way is made before its end; that there is a file at the end of the way
is not found before the next name is entered. -/
def makeAll (folder : Folder) (text : Text) : Nat → Folder × Option FileError
  | 0 => (folder, some .tooDeep)
  | fuel + 1 =>
      let (head, tail) :=
        match cutPath text with
        | (head, []) => cutPath head
        | cut => cut
      if head.isEmpty || tail.isEmpty || folder.isThere head then folder.makeLast text
      else
        match folder.makeAll head fuel with
        | (made, none) | (made, some .exists) =>
            if tail == "." then (made, none) else made.makeLast text
        | failed => failed

def make (folder : Folder) (text : Text) : Except FileError Folder :=
  match folder.makeAll text maxNewFolders with
  | (made, none) => .ok made
  | (_, some error) => .error error

def put (path : Path) (text : Text) : List (Path × Text) → List (Path × Text)
  | [] => [(path, text)]
  | (other, old) :: rest =>
      if other = path then (path, text) :: rest else (other, old) :: put path text rest

/-- Writes a file into a folder that is there. -/
def write (folder : Folder) (text content : Text) : Except FileError Folder := do
  let path ← folder.find text
  if folder.hasFolder path || endsInSlash text then .error .isFolder
  else .ok { folder with files := put path content folder.files }

end Folder

end PageScript.CommandLine
