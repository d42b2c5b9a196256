import CTokens.Failure
import CTokens.Text.Split

/-! # A tree of files

A `FileTree` is a tree of directories and files with a working directory in it.  A path is
a text of names between slashes.  It is walked name by name, from the root if it begins
with a slash and from the working directory if not; `.` stays in a directory and `..` goes
to the one above it, or stays at the root.  Only a directory can be walked through, so the
first name that cannot be followed decides what goes wrong.

`read` gives the content of a file.  `locate` finds the place of a file that is to be
written, which need not exist as long as its directory does.

Left out are links, permissions, devices and other special files, and whatever else a system may
refuse for: of a tree, `read` and `locate` never give `FileError.other`.  A run is over any content
or error, so that what is said of runs does not rest on this.
-/

namespace CTokens

inductive Node
  | file (content : List UInt8)
  | directory (entries : List (String × Node))

namespace Node

def child? (name : String) : Node → Option Node
  | .file _ => none
  | .directory entries => entries.lookup name

def get? : Node → List String → Option Node
  | node, [] => some node
  | node, name :: names => (node.child? name).bind fun child => child.get? names

/-- The entries, with `node` under `name`: in the place of the entry that has the name, or
    behind the others. -/
def setEntry (name : String) (node : Node) : List (String × Node) → List (String × Node)
  | [] => [(name, node)]
  | entry :: entries =>
    if entry.1 = name then (name, node) :: entries else entry :: setEntry name node entries

/-- Puts `new` at the end of the names, in place of what is there.  Directories on the way that
    do not exist are made. -/
def put (new : Node) : Node → List String → Node
  | _, [] => new
  | node, name :: names =>
    let child := (node.child? name).getD (.directory [])
    match node with
    | .file _ => .directory [(name, put new child names)]
    | .directory entries => .directory (setEntry name (put new child names) entries)

theorem lookup_setEntry_self (name : String) (node : Node) (entries : List (String × Node)) :
    (setEntry name node entries).lookup name = some node := by
  induction entries with
  | nil => simp [setEntry]
  | cons entry entries ih =>
    unfold setEntry
    split
    · exact List.lookup_cons_self
    · next h =>
      have hne : (name == entry.1) = false := by simpa using fun e => h e.symm
      rw [List.lookup_cons, hne, ih]

theorem get?_put_self (new node : Node) (names : List String) :
    (put new node names).get? names = some new := by
  induction names generalizing node with
  | nil => simp [put, get?]
  | cons name names ih =>
    cases node with
    | file _ => simp [put, get?, child?, ih]
    | directory entries => simp [put, get?, child?, lookup_setEntry_self, ih]

end Node

/-! ## Paths -/

structure Path where
  absolute : Bool
  names : List String
  ofDirectory : Bool  -- it ends in a slash, so that only a directory can have it
  deriving DecidableEq, Repr

/-- Takes a path apart.  A path holds no NUL, has at least one byte, and at most 4095. -/
def Path.parse (text : String) : Except FileError Path :=
  let chars := text.toList
  if '\x00' ∈ chars then .error .nulInName
  else if chars.isEmpty then .error .notFound
  else if 4096 ≤ text.utf8ByteSize then .error .nameTooLong
  else
    .ok { absolute := chars.head? = some '/'
          names := (Text.splitNonempty '/' chars).map String.ofList
          ofDirectory := chars.getLast? = some '/' }

/-! ## Walking -/

/-- Directories and files, with no links between them, each of them open to be read and written. -/
structure FileTree where
  root : Node
  working : List String  -- where paths start that are not absolute

namespace FileTree

def follow (tree : FileTree) (place : List String) (name : String) :
    Except FileError (List String) :=
  match tree.root.get? place with
  | none => .error .notFound
  | some (.file _) => .error .notDirectory
  | some (.directory entries) =>
    if name = "." then .ok place
    else if name = ".." then .ok place.dropLast
    else if 255 < name.utf8ByteSize then .error .nameTooLong
    else if (entries.lookup name).isSome then .ok (place ++ [name])
    else .error .notFound

def start (tree : FileTree) (path : Path) : List String :=
  if path.absolute then [] else tree.working

def walk (tree : FileTree) (place : List String) (names : List String) :
    Except FileError (List String) :=
  names.foldlM tree.follow place

def read (tree : FileTree) (path : String) : Except FileError (List UInt8) := do
  let path ← Path.parse path
  let place ← tree.walk (tree.start path) path.names
  match tree.root.get? place with
  | none => .error .notFound
  | some (.directory _) => .error .isDirectory
  | some (.file content) => if path.ofDirectory then .error .notDirectory else .ok content

/-- The place of a file that is to be written. -/
def locate (tree : FileTree) (path : String) : Except FileError (List String) := do
  let path ← Path.parse path
  match path.names.getLast? with
  | none => .error .isDirectory
  | some name =>
    let place ← tree.walk (tree.start path) path.names.dropLast
    match tree.root.get? place with
    | none => .error .notFound
    | some (.file _) => .error .notDirectory
    | some (.directory entries) =>
      -- What these name is a directory, or has to be one.
      if name = "." || name = ".." || path.ofDirectory then .error .isDirectory
      else if 255 < name.utf8ByteSize then .error .nameTooLong
      else match entries.lookup name with
        | some (.directory _) => .error .isDirectory
        | _ => .ok (place ++ [name])

def put (tree : FileTree) (place : List String) (content : List UInt8) : FileTree :=
  { tree with root := Node.put (.file content) tree.root place }

/-! ## Building -/

def empty : FileTree :=
  { root := .directory [("work", .directory [])], working := ["work"] }

/-- Follows a name from a place, to a directory that is made if it does not exist. -/
def enter (tree : FileTree) (place : List String) (name : String) : FileTree × List String :=
  if name = "." then (tree, place)
  else if name = ".." then (tree, place.dropLast)
  else
    let place := place ++ [name]
    if (tree.root.get? place).isSome then (tree, place)
    else ({ tree with root := Node.put (.directory []) tree.root place }, place)

/-- Adds a file below the working directory, with the directories that its name needs. -/
def addFile (tree : FileTree) (name : String) (content : List UInt8) : FileTree :=
  let names := (Text.splitNonempty '/' name.toList).map String.ofList
  let (tree, place) :=
    names.dropLast.foldl (fun (tree, place) name => tree.enter place name) (tree, tree.working)
  tree.put (place ++ names.getLast?.toList) content

end FileTree

end CTokens
