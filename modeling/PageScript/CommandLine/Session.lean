import PageScript.Browser
import PageScript.CommandLine.Folder
import PageScript.CommandLine.Usage
import PageScript.Suite.Artifact

namespace PageScript.CommandLine

structure Session (σ ρ : Type) where
  folder : Folder
  printed : List Text
  browser : Browser σ ρ

namespace Session

variable {σ ρ α : Type}

def start (folder : Folder) (engine : σ) : Session σ ρ := ⟨folder, [], .idle engine⟩

def putBrowser (browser : Browser σ ρ) (session : Session σ ρ) : Session σ ρ :=
  { session with browser }

def onBrowser (routine : Routine (Browser σ ρ) α) : Routine (Session σ ρ) α :=
  routine.within Session.browser putBrowser

def print (line : Text) : Routine (Session σ ρ) Unit :=
  Routine.change fun session => { session with printed := session.printed ++ [line] }

def encodingFailure (found : Text.Unencodable) : Failure :=
  ⟨"UnicodeEncodeError", found.message⟩

def fileFailure : FileError → Failure
  | .missing => ⟨"FileNotFoundError", ""⟩
  | .exists => ⟨"FileExistsError", ""⟩
  | .isFolder => ⟨"IsADirectoryError", ""⟩
  | .isNoFolder => ⟨"NotADirectoryError", ""⟩
  | .tooLong => ⟨"OSError", ""⟩
  | .holdsNull => ⟨"ValueError", "embedded null byte"⟩
  | .unencodable found => encodingFailure found
  | .tooDeep => ⟨"RecursionError", ""⟩

def readFile (path : Text) : Routine (Session σ ρ) Text := do
  match (← Routine.read Session.folder).read path with
  | .ok content => return content
  | .error error => Routine.fail (fileFailure error)

/-- Changes the files, unless that fails. -/
def changeFolder (change : Folder → Except FileError Folder) : Routine (Session σ ρ) Unit := do
  match change (← Routine.read Session.folder) with
  | .ok folder => Routine.change fun session => { session with folder }
  | .error error => Routine.fail (fileFailure error)

/-- Makes the folder that is named, and gives its path. -/
def makeFolder (named : Setting) : Routine (Session σ ρ) Text := do
  match named with
  | .value path =>
      changeFolder fun folder => folder.make path
      return path
  | _ => Routine.fail ⟨"TypeError", "expected str, bytes or os.PathLike object, not list"⟩

/-- Writes a file piece by piece, up to the first one that holds surrogates. -/
def writeFile (path : Text) (pieces : List Text) : Routine (Session σ ρ) Unit := do
  let written := pieces.takeWhile fun piece => (Text.unencodable? piece).isNone
  changeFolder fun folder => folder.write path written.flatten
  match pieces.findSome? Text.unencodable? with
  | some found => Routine.fail (encodingFailure found)
  | none => return

/-- Writes the files of a suite into a folder, and then tells where they are. -/
def saveSuite (folder : Setting) (artifact : Suite.Artifact) : Routine (Session σ ρ) Unit := do
  let path ← makeFolder folder
  artifact.files.forM fun (name, content) => writeFile (joinPath path name) [content]
  artifact.files.forM fun (name, _) => print ("Saved to " ++ joinPath path name)

end Session

end PageScript.CommandLine
