import Calculator.Files.Path
import Calculator.Text.Quoted

/-!
# File stores

The files and directories that a run of the calculator can see, as a value.

## Main definitions

* `FileStore`: the nodes below the working directory
* `FileStore.read`, `FileStore.write`, `FileStore.makeDirectories`
* `FileError`: why a path cannot be used
-/

namespace Calculator

/-- Why a path cannot be used. -/
inductive FileProblem where
  /-- Nothing has the name. -/
  | notFound
  /-- The name is taken. -/
  | taken
  /-- A file stands where a directory is needed. -/
  | notDirectory
  /-- A directory stands where a file is needed. -/
  | isDirectory
  /-- The path or a name in it is longer than the system allows. -/
  | nameTooLong
  /-- The path holds the null character, which no name can have. -/
  | nullCharacter
deriving DecidableEq, Repr

namespace FileProblem

/-- The number of a problem among the errors of the system, to which a path with the null character
is never given. -/
def code? : FileProblem → Option Nat
  | notFound => some 2
  | taken => some 17
  | notDirectory => some 20
  | isDirectory => some 21
  | nameTooLong => some 36
  | nullCharacter => none

/-- The wording of a problem. -/
def message : FileProblem → String
  | notFound => "No such file or directory"
  | taken => "File exists"
  | notDirectory => "Not a directory"
  | isDirectory => "Is a directory"
  | nameTooLong => "File name too long"
  | nullCharacter => "embedded null byte"

end FileProblem

/-- A problem with a path. -/
structure FileError where
  /-- What is wrong. -/
  problem : FileProblem
  /-- The path as it is shown. -/
  path : String
deriving DecidableEq, Repr

/-- The text of the error: an error of the system is shown with its number and the path. -/
def FileError.message (e : FileError) : String :=
  match e.problem.code? with
  | some code => "[Errno " ++ toString code ++ "] " ++ e.problem.message ++ ": " ++ quoted e.path
  | none => e.problem.message

/-- What a name can stand for. -/
inductive Node where
  /-- A directory. -/
  | directory
  /-- A file and its bytes. -/
  | file (bytes : List UInt8)
deriving DecidableEq, Repr

/-- A place of a node: the names from the working directory down, with `..` for each directory above
it, or the names below `/`. -/
abbrev Location := List String

/-- The nodes that a run can see.  The working directory and those above it need no entry. -/
structure FileStore where
  /-- The nodes by their places. -/
  nodes : List (Location × Node)
deriving Repr

namespace FileStore

/-- The store with an empty working directory. -/
def empty : FileStore := ⟨[]⟩

/-- The node at a place. -/
def node? (store : FileStore) (place : Location) : Option Node :=
  if place = ["/"] ∨ place.all (· = "..") then some .directory else store.nodes.lookup place

/-- The store with a node set at a place. -/
def setNode (store : FileStore) (place : Location) (node : Node) : FileStore :=
  ⟨(place, node) :: store.nodes.filter (·.1 ≠ place)⟩

/-- The place one name further on. -/
def enter (place : Location) (name : String) : Location :=
  if name = "" ∨ name = "." then place
  else if name = ".." then
    if place = ["/"] then place
    else if place.all (· = "..") then place ++ [".."]
    else place.dropLast
  else place ++ [name]

/-- The most bytes that a name can have. -/
def maxNameBytes : Nat := 255

/-- The most bytes that the text of a path can have. -/
def maxPathBytes : Nat := 4095

/-- The place one name further on, if the one before is a directory. -/
def step (store : FileStore) (place : Location) (name : String) : Except FileProblem Location :=
  match store.node? place with
  | none => .error .notFound
  | some (.file _) => .error .notDirectory
  | some .directory =>
    if maxNameBytes < name.utf8ByteSize then .error .nameTooLong else .ok (enter place name)

/-- The place that names lead to from a root; all names but the last must be those of directories.
`text` is the path as it is given to the system. -/
def follow (store : FileStore) (text root : String) (names : List String) :
    Except FileProblem Location :=
  if text.toList.contains '\x00' then .error .nullCharacter
  else if maxPathBytes < text.utf8ByteSize then .error .nameTooLong
  else names.foldlM store.step (if root = "" then [] else ["/"])

/-- The place of a path. -/
def locate (store : FileStore) (p : Path) : Except FileProblem Location :=
  store.follow p.text p.root p.names

/-- The places that some names lead through, one after the other. -/
def placesFrom (place : Location) : List String → List Location
  | [] => []
  | name :: names => enter place name :: placesFrom (enter place name) names

/-- The places that a path leads through, its own last. -/
def placesOf (p : Path) : List Location :=
  placesFrom (if p.root = "" then [] else ["/"]) p.names

/-- The node of a path, if there is one. -/
def nodeAt? (store : FileStore) (p : Path) : Option Node :=
  match store.locate p with
  | .ok place => store.node? place
  | .error _ => none

/-- The node of a path as it was given: dots and slashes at its end ask for a directory. -/
def nodeAsGiven? (store : FileStore) (given : String) : Option Node :=
  if given = "" then none
  else
    match store.follow given (Path.rootOf given.toList) (Path.namesIn given) with
    | .ok place => store.node? place
    | .error _ => none

/-- The nodes of a store that are new or differ from those before, the oldest first. -/
def changesSince (before after : FileStore) : List (Location × Node) :=
  (after.nodes.filter fun (place, node) => before.node? place ≠ some node).reverse

/-- Whether a path is one of a directory. -/
def isDirectory (store : FileStore) (p : Path) : Bool :=
  store.nodeAt? p = some .directory

/-- The bytes of a file. -/
def read (store : FileStore) (p : Path) : Except FileError (List UInt8) :=
  match store.locate p with
  | .error problem => .error ⟨problem, p.text⟩
  | .ok place =>
    match store.node? place with
    | none => .error ⟨.notFound, p.text⟩
    | some .directory => .error ⟨.isDirectory, p.text⟩
    | some (.file bytes) => .ok bytes

/-- The store with a file written in a directory that exists. -/
def write (store : FileStore) (p : Path) (bytes : List UInt8) : Except FileError FileStore :=
  match store.locate p with
  | .error problem => .error ⟨problem, p.text⟩
  | .ok place =>
    match store.node? place with
    | some .directory => .error ⟨.isDirectory, p.text⟩
    | _ => .ok (store.setNode place (.file bytes))

/-- The store with a directory made in one that exists. -/
def makeDirectory (store : FileStore) (p : Path) : Except FileError FileStore :=
  match store.locate p with
  | .error problem => .error ⟨problem, p.text⟩
  | .ok place =>
    match store.node? place with
    | some _ => .error ⟨.taken, p.text⟩
    | none => .ok (store.setNode place .directory)

/-- A failure is no failure if the path is one of a directory all the same. -/
def accept (store : FileStore) (p : Path) (made : Except FileError FileStore) :
    FileStore × Except FileError Unit :=
  match made with
  | .ok store => (store, .ok ())
  | .error e => if store.isDirectory p then (store, .ok ()) else (store, .error e)

/-- Makes a directory and those above it that are missing; `upward` holds its names, the last one
first.  What was made before a failure stays. -/
def makeUpward (root : String) :
    List String → FileStore → FileStore × Except FileError Unit
  | [], store => store.accept ⟨root, []⟩ (store.makeDirectory ⟨root, []⟩)
  | name :: upward, store =>
    let p : Path := ⟨root, (name :: upward).reverse⟩
    match store.makeDirectory p with
    | .error ⟨.notFound, _⟩ =>
      match makeUpward root upward store with
      | (store, .error e) => (store, .error e)
      | (store, .ok ()) => store.accept p (store.makeDirectory p)
    | made => store.accept p made

/-- Makes a directory and those above it that are missing. -/
def makeDirectories (store : FileStore) (p : Path) : FileStore × Except FileError Unit :=
  makeUpward p.root p.names.reverse store

/-- Writes a file and makes the directories that it needs. -/
def writeDeep (store : FileStore) (p : Path) (bytes : List UInt8) :
    FileStore × Except FileError Unit :=
  match store.makeDirectories p.parent with
  | (store, .error e) => (store, .error e)
  | (store, .ok ()) =>
    match store.write p bytes with
    | .ok store => (store, .ok ())
    | .error e => (store, .error e)

end FileStore

end Calculator
