import ArtifactResolution.UnixPath

namespace ArtifactResolution
set_option autoImplicit false

inductive FileEntry where
  | file (text : String)
  | directory
  /-- A file that is there, but whose path from the root is too long to open it by. -/
  | unopenable
deriving DecidableEq

structure FileSystem where
  entry? : UnixPath → Option FileEntry

def FileSystem.contains (fs : FileSystem) (p : UnixPath) : Bool := (fs.entry? p).isSome

/-- The text of a file; a directory has none, nor has a file whose full path is too long. Files that
are there and may not be read are not represented. -/
def FileSystem.text? (fs : FileSystem) (p : UnixPath) : Option String :=
  match fs.entry? p with
  | some (.file text) => some text
  | _ => none

/-- The names that lead from the working directory to a place inside it. -/
abbrev Place := List (List Char)

/-- Files and directories in the working directory, whose own path leads to it from the root. Each
comes with all directories that it lies in. -/
structure FileTree where
  workingDirectory : UnixPath := ⟨"/"⟩
  files : List (Place × String) := []
  directories : List Place := []

namespace FileTree

/-- Goes one stretch of a path further. Outside of the working directory, for which `none` stands,
nothing is known but that directories have parents. -/
def next (place : Option Place) (piece : List Char) : Option Place :=
  match UnixPath.partOf? piece, place with
  | some (.name name), some place => some (place ++ [name])
  | some .parent, some place => if place.isEmpty then none else some place.dropLast
  | _, place => place

def place (p : UnixPath) : Option Place := (UnixPath.pieces p.text.toList).foldl next (some [])

/-- The places inside the working directory that the stretches of a path lead through. -/
def placesFrom (place : Option Place) : List (List Char) → List Place
  | [] => []
  | piece :: pieces => (next place piece).toList ++ placesFrom (next place piece) pieces

/-- Adds a directory and every directory that its path leads through. -/
def addDirectory (t : FileTree) (p : UnixPath) : FileTree :=
  { t with directories := placesFrom (some []) (UnixPath.pieces p.text.toList) ++ t.directories }

/-- Adds a file and every directory that its path leads through. -/
def addFile (t : FileTree) (p : UnixPath) (text : String) : FileTree :=
  { t with
    files := ((place p).map (·, text)).toList ++ t.files
    directories :=
      placesFrom (some []) (UnixPath.pieces p.text.toList).dropLast ++ t.directories }

def isDirectory (t : FileTree) (place : Place) : Bool :=
  place.isEmpty || t.directories.contains place

def entryAt? (t : FileTree) (place : Place) : Option FileEntry :=
  match t.files.lookup place with
  | some text => some (.file text)
  | none => if t.isDirectory place then some .directory else none

/-- Follows the stretches of a path, each of which but the last must lead to a directory. -/
def follow (t : FileTree) : Option Place → List (List Char) → Option FileEntry
  | none, pieces => if pieces.all fun p => UnixPath.partOf? p ∈ [none, some .parent]
    then some .directory else none
  | some place, [] => t.entryAt? place
  | some place, piece :: pieces =>
    if t.entryAt? place = some .directory then t.follow (next (some place) piece) pieces else none

def maxPathSize : Nat := 4095

def isTooLong (p : UnixPath) : Bool := p.text.utf8ByteSize > maxPathSize

/-- A file is opened by its path from the root, which must not be too long either. -/
def opened (t : FileTree) (p : UnixPath) : FileEntry → FileEntry
  | .file text => if isTooLong (t.workingDirectory.join p.text) then .unopenable else .file text
  | entry => entry

/-- Nothing lies at the empty path or at one that is too long. A leading separator leads out of the
working directory, to the root, which is its own parent. -/
def toFileSystem (t : FileTree) : FileSystem where
  entry? p :=
    if p.text.isEmpty ∨ isTooLong p then none
    else
      match UnixPath.pieces p.text.toList with
      | [] :: pieces => t.follow none pieces
      | pieces => (t.follow (some []) pieces).map (t.opened p)

end FileTree

end ArtifactResolution
