import Tracing.Failure
import Tracing.Text.Blank
import Tracing.Text.Bytes

/-!
# Tracing.Files

A tree of files, the file system around it and the paths into both.

* `FilePath`          — a path: where it starts, and its components without `.` and empty ones.
* `FileName`          — a component as the file system holds it, in bytes.
* `treeRoot`          — where the tree stands. Paths that leave it by `..` lead on from there.
* `FileTree.locate`   — what a path leads to from a directory, component by component: `..` needs
  the directory that it leaves, and nothing lies below a file.
* `FileTree.makeDirectory`, `write` — the making of a tree.
* `FileTree.read?`    — the bytes of a file.
-/

namespace Tracing

/-- Where a path starts. -/
inductive PathBase where
  /-- The current directory. -/
  | current
  /-- The root of the tree. -/
  | root
  /-- The root of the whole file system; two slashes in front of a path are kept as two. -/
  | system (doubled : Bool)
  deriving DecidableEq, Repr

structure FilePath where
  base : PathBase
  parts : List Text
  deriving DecidableEq, Repr

namespace FilePath

def rootMark : Text := "<root>"

/-- The components of a path's text. -/
def components (t : Text) : List Text :=
  ((Text.fields '/' t.points).map Text.mk).filter fun part => !part.isEmpty && part != "."

/-- The number of slashes in front of a path. -/
def leadingSlashes (t : Text) : Nat := (t.points.takeWhile fun c : CodePoint => c = '/').length

def ofText (t : Text) : FilePath :=
  let parts := components t
  match leadingSlashes t with
  | 0 => ⟨.current, parts⟩
  | slashes => ⟨.system (slashes = 2), parts⟩

/-- A path read from the root of the tree, unless it starts elsewhere. -/
def ofTextAtRoot (t : Text) : FilePath :=
  let p := ofText t
  match p.base with
  | .current => { p with base := .root }
  | _ => p

/-- The text of a path; the empty one is the current directory. -/
def render (p : FilePath) : Text :=
  match p.base, p.parts with
  | .root, parts => Text.intercalate "/" (rootMark :: parts)
  | .system doubled, parts => (if doubled then "//" else "/") ++ Text.intercalate "/" parts
  | .current, [] => "."
  | .current, parts => Text.intercalate "/" parts

end FilePath

/-- A name as bytes. -/
abbrev FileName := List UInt8

namespace FileName

def ofString (s : String) : FileName := s.toUTF8.toList

def parent : FileName := ofString ".."

/-- The name of a component. One with a NUL names nothing. -/
def ofText? (t : Text) : Option FileName := t.toBytes?.filter (!·.contains 0)

end FileName

/-- What stands at a place, given by its path from the root of the file system. -/
inductive Place where
  | directory (path : List FileName)
  | file (path : List FileName)
  deriving DecidableEq, Repr

inductive NotLocated where
  | missing
  | belowFile
  /-- A component is longer than a name may be, or the whole than a path. -/
  | nameTooLong
  deriving DecidableEq, Repr

/-! ## The file system -/

/-- The directory of the tree. Its name is one that no path gives. -/
def treeRoot : List FileName := [FileName.ofString "tmp", [0]]

/-- Directories that every system has. -/
def systemDirectories : List (List FileName) :=
  [["bin"], ["boot"], ["dev"], ["dev", "pts"], ["dev", "shm"], ["etc"], ["home"], ["lib"],
    ["media"], ["mnt"], ["opt"], ["proc"], ["proc", "self"], ["root"], ["run"], ["sbin"], ["srv"],
    ["sys"], ["tmp"], ["usr"], ["usr", "bin"], ["usr", "include"], ["usr", "lib"],
    ["usr", "local"], ["usr", "local", "bin"], ["usr", "local", "lib"], ["usr", "sbin"],
    ["usr", "share"], ["usr", "src"], ["var"], ["var", "cache"], ["var", "lib"], ["var", "log"],
    ["var", "spool"], ["var", "tmp"]].map
    (·.map FileName.ofString)

/-- Files that every system has. None of them holds options. -/
def systemFiles : List (List FileName) :=
  [["bin", "sh"], ["dev", "null"], ["etc", "group"], ["etc", "hostname"], ["etc", "hosts"],
    ["etc", "os-release"], ["etc", "passwd"], ["etc", "resolv.conf"], ["etc", "shadow"],
    ["proc", "version"], ["usr", "bin", "env"]].map (·.map FileName.ofString)

/-- The tree in its file system. -/
structure FileTree where
  directories : List (List FileName) := treeRoot :: systemDirectories
  files : List (List FileName × ByteArray) := systemFiles.map (·, .empty)

namespace FileTree

/-- The most bytes that a component may have. -/
def maxName : Nat := 255

/-- The most bytes that a path may have. -/
def maxPath : Nat := 4095

/-- The bytes of a text as a file holds it, in UTF-8. Half of a pair has none. -/
def bytesOf (t : Text) : Except Failure ByteArray :=
  match t.toString? with
  | some s => .ok s.toUTF8
  | none => .error (.foreign (.unwritable t (t.firstRun? CodePoint.isHalf)))

/-! ## Finding -/

def step (t : FileTree) (place : Place) (part : FileName) : Except NotLocated Place :=
  match place with
  | .file _ => .error .belowFile
  | .directory path =>
    if part = .parent then .ok (.directory path.dropLast)
    else if maxName < part.length then .error .nameTooLong
    else
      let path := path ++ [part]
      if t.directories.contains path then .ok (.directory path)
      else if (t.files.lookup path).isSome then .ok (.file path)
      else .error .missing

def walk (t : FileTree) : Place → List FileName → Except NotLocated Place
  | place, [] => .ok place
  | place, part :: rest =>
    match t.step place part with
    | .ok place => walk t place rest
    | .error e => .error e

/-- Where a path starts. -/
def start (current : Place) : PathBase → Place
  | .root => .directory treeRoot
  | .system _ => .directory []
  | .current => current

/-- What a path leads to from the place `current`. -/
def locate (t : FileTree) (current : Place) (p : FilePath) : Except NotLocated Place :=
  match p.parts.mapM FileName.ofText?, p.render.toBytes? with
  | some names, some bytes =>
    if maxPath < bytes.length then .error .nameTooLong else t.walk (start current p.base) names
  | _, _ => .error .missing

/-! ## Making -/

/-- The directory that the tree is made in. Only its length counts. -/
def workPlace : Text := "/tmp/tmp00000000"

/-- Refuses a path with a component that names nothing. -/
def checkNames (p : FilePath) : Except Failure Unit :=
  let whole :=
    match p.base with
    | .root => Text.intercalate "/" (workPlace :: p.parts)
    | _ => p.render
  match whole.toBytes? with
  | none => .error (.foreign (.unwritable whole whole.unwritable?))
  | some bytes =>
    if bytes.contains 0 then .error (.foreign (.valueError "embedded null byte")) else .ok ()

/-- What a path of the making of a tree leads to. -/
def find (t : FileTree) (p : FilePath) : Except NotLocated Place :=
  t.locate (.directory treeRoot) p

/-- Whether a directory stands at a path, if one may stand there. -/
def isMade (t : FileTree) (p : FilePath) : Except Failure Bool :=
  match t.find p with
  | .ok (.directory _) => .ok true
  | .ok (.file _) => .error (.file .alreadyThere p.render)
  | .error .missing => .ok false
  | .error .belowFile => .error (.file .belowFile p.render)
  | .error .nameTooLong => .error (.file .nameTooLong p.render)

/-- Where a new name stands below a path. -/
def newPlace? (t : FileTree) (above : FilePath) (part : Text) : Option (List FileName) :=
  match t.find above, FileName.ofText? part with
  | .ok (.directory path), some name => some (path ++ [name])
  | _, _ => none

/-- Make a directory whose components are given from the last one on, after those above it. -/
def makeUpwards (t : FileTree) (base : PathBase) : List Text → Except Failure FileTree
  | [] => .ok t
  | part :: above => do
    let p : FilePath := ⟨base, (part :: above).reverse⟩
    if ← t.isMade p then return t
    let t ← makeUpwards t base above
    if ← t.isMade p then return t
    let path := t.newPlace? ⟨base, above.reverse⟩ part
    return { t with directories := path.toList ++ t.directories }

/-- Make the directory of a path, and those above it that are missing. -/
def makeDirectory (t : FileTree) (p : FilePath) : Except Failure FileTree := do
  checkNames p
  t.makeUpwards p.base p.parts.reverse

/-- Write a file, in place of one that has its path. The directories above it are made. -/
def write (t : FileTree) (p : FilePath) (bytes : ByteArray) : Except Failure FileTree := do
  let above := { p with parts := p.parts.dropLast }
  let t ← t.makeDirectory above
  checkNames p
  match t.find p with
  | .ok (.file path) => return { t with files := (path, bytes) :: t.files }
  | .ok (.directory _) => throw (.file .isDirectory p.render)
  | .error .belowFile => throw (.file .belowFile p.render)
  | .error .nameTooLong => throw (.file .nameTooLong p.render)
  | .error .missing =>
    let path := p.parts.getLast?.bind (t.newPlace? above)
    return { t with files := path.toList.map (·, bytes) ++ t.files }

/-- The place of a directory that was made. -/
def placeOf (t : FileTree) (p : FilePath) : Place := (t.find p).toOption.getD (.directory treeRoot)

/-! ## Reading -/

/-- The bytes at a place; only a file has any. -/
def read? (t : FileTree) : Place → Option ByteArray
  | .file path => t.files.lookup path
  | .directory _ => none

/-- The path of a place: from the root of the tree if it lies there. -/
def resolved : Place → FilePath
  | .directory path | .file path =>
    if treeRoot.isPrefixOf path then ⟨.root, (path.drop treeRoot.length).map Text.ofBytes⟩
    else ⟨.system false, path.map Text.ofBytes⟩

end FileTree

end Tracing
