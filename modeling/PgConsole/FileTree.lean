import PgConsole.Path
import PgConsole.SystemError
import PgConsole.Text.Utf8

namespace PgConsole

/-!
# File trees

The part of a file system that the console and its jobs touch: regular files, directories,
symbolic links and three devices. Paths are resolved component by component; a path that ends
in a separator must name a directory. Permissions are not modelled: everything can be read
and written, and nothing is executable. Only in a directory that the system keeps for itself
nothing can be created.
-/

/-- Something that a file tree holds. -/
inductive FileNode where
  | file (content : List UInt8)
  | directory
  /-- A directory of the system, in which nothing can be created. -/
  | reserved
  | link (target : String)
  /-- A device that gives zeros without end and swallows every write. -/
  | zero
  /-- A device that gives zeros without end and has no room for any write. -/
  | full
  /-- A device that swallows every write. -/
  | null
  deriving DecidableEq, Repr

/-- Whether this is a directory. -/
def FileNode.isDirectory : FileNode → Bool
  | .directory => true
  | .reserved => true
  | _ => false

/-- What exists, by the names on the way from the root. The root itself is not listed. -/
structure FileTree where
  nodes : List (List String × FileNode)
  deriving Repr

namespace FileTree

/-- The place of something in a tree: the names on the way from the root. -/
abbrev Place := List String

/-- What stands at a place, without following links. -/
def at? (tree : FileTree) (place : Place) : Option FileNode :=
  if place.isEmpty then some .directory else tree.nodes.lookup place

/-- Put something at a place, replacing what was there. -/
def put (tree : FileTree) (place : Place) (node : FileNode) : FileTree :=
  ⟨(place, node) :: tree.nodes.filter fun entry => entry.1 != place⟩

/-- Remove what stands at a place. -/
def remove (tree : FileTree) (place : Place) : FileTree :=
  ⟨tree.nodes.filter fun entry => entry.1 != place⟩

/-- What lies directly in a directory, by name. -/
def children (tree : FileTree) (place : Place) : List (String × FileNode) :=
  tree.nodes.filterMap fun entry =>
    match entry.1.getLast? with
    | some name => if entry.1.dropLast = place then some (name, entry.2) else none
    | none => none

/-- How often links are followed before they count as circular. -/
def linkLimit : Nat := 40

/-- The longest name of a directory entry, in bytes. -/
def nameLimit : Nat := 255

/-- The names along a path; a trailing separator asks for a directory, as a dot does. -/
def route (path : String) : List String :=
  let names := Path.pieces path
  if path.toList.getLast? = some '/' && !names.isEmpty then names ++ ["."] else names

/-- Where a path leads. -/
structure Target where
  place : Place
  node : Option FileNode
  deriving DecidableEq, Repr

/-- Follow names from a place. `links` counts the links that may still be followed and
`fuel` the names that may still be walked; `followLast` says whether a link at the very end
is followed. -/
def walk (tree : FileTree) (followLast : Bool) :
    Nat → Nat → Place → List String → Except SystemError Target
  | _, 0, _, _ => .error .tooManyLinks
  | _, _, place, [] => .ok ⟨place, tree.at? place⟩
  | links, fuel + 1, place, name :: rest =>
    match tree.at? place with
    | none => .error .notFound
    | some node =>
      if !node.isDirectory then .error .notDirectory
      else if name = "." then walk tree followLast links fuel place rest
      else if name = ".." then walk tree followLast links fuel place.dropLast rest
      else if nameLimit < name.utf8ByteSize then .error .nameTooLong
      else
        let next := place ++ [name]
        match tree.at? next with
        | some (.link target) =>
          if rest.isEmpty && !followLast then .ok ⟨next, tree.at? next⟩
          else
            match links with
            | 0 => .error .tooManyLinks
            | links + 1 =>
              let start := if Path.isAbsolute target then [] else place
              walk tree followLast links fuel start (route target ++ rest)
        | node =>
          if rest.isEmpty then .ok ⟨next, node⟩
          else walk tree followLast links fuel next rest

/-- Resolve a path, following a link at its end only on request. The last name may be
missing; everything before it must exist. -/
def resolveWith (followLast : Bool) (tree : FileTree) (path : String) :
    Except SystemError Target :=
  if path.isEmpty then .error .notFound
  else if path.toList.contains (Char.ofNat 0) then .error .nulInName
  else walk tree followLast linkLimit 100000 [] (route path)

/-- Resolve a path, following every link. -/
def resolve (tree : FileTree) (path : String) : Except SystemError Target :=
  resolveWith true tree path

/-- Whether a path leads to something. -/
def pathExists (tree : FileTree) (path : String) : Bool :=
  match tree.resolve path with
  | .ok ⟨_, some _⟩ => true
  | _ => false

/-- Whether a path leads to a directory. -/
def isDirectory (tree : FileTree) (path : String) : Bool :=
  match tree.resolve path with
  | .ok ⟨_, some node⟩ => node.isDirectory
  | _ => false

/-- Whether a path leads to a regular file. -/
def isFile (tree : FileTree) (path : String) : Bool :=
  match tree.resolve path with
  | .ok ⟨_, some (.file _)⟩ => true
  | _ => false

/-- Whether something can be created at a place. -/
def hasRoomAt (tree : FileTree) (place : Place) : Bool :=
  tree.at? place.dropLast != some .reserved

/-- The bytes of a file. -/
def read (tree : FileTree) (path : String) : Except SystemError (List UInt8) :=
  match tree.resolve path with
  | .error error => .error error
  | .ok ⟨_, none⟩ => .error .notFound
  | .ok ⟨_, some (.file content)⟩ => .ok content
  | .ok ⟨_, some node⟩ => if node.isDirectory then .error .isDirectory else .ok []

/-- Offsets in a file lie below this bound. -/
def offsetLimit : Nat := Nat.pow 2 63

/-- The bytes of a file after an offset. Devices take every offset. -/
def readFrom (tree : FileTree) (path : String) (offset : Nat) :
    Except SystemError (List UInt8) :=
  match tree.resolve path with
  | .error error => .error error
  | .ok ⟨_, none⟩ => .error .notFound
  | .ok ⟨_, some (.file content)⟩ =>
    if offset < offsetLimit then .ok (content.drop offset) else .error .invalidArgument
  | .ok ⟨_, some node⟩ =>
    if node.isDirectory then
      .error (if offset < offsetLimit then .isDirectory else .invalidArgument)
    else .ok []

/-- At most `limit` bytes from the start of a file. -/
def readUpTo (tree : FileTree) (path : String) (limit : Nat) :
    Except SystemError (List UInt8) :=
  match tree.resolve path with
  | .ok ⟨_, some .zero⟩ => .ok (List.replicate limit 0)
  | .ok ⟨_, some .full⟩ => .ok (List.replicate limit 0)
  | _ => (tree.read path).map (List.take limit)

/-- The text of a file. -/
def readText (tree : FileTree) (path : String) : Except SystemError String :=
  match tree.read path with
  | .error error => .error error
  | .ok bytes =>
    match Text.Utf8.decode? bytes with
    | none => .error .notText
    | some text => .ok text

/-- Open a file for writing: create it when it is missing, and empty it when `truncate`. The
result tells where to write. -/
def openForWriting (tree : FileTree) (truncate : Bool) (path : String) :
    Except SystemError (Place × FileTree) :=
  match tree.resolve path with
  | .error error => .error error
  | .ok ⟨place, none⟩ =>
    if tree.hasRoomAt place then .ok (place, tree.put place (.file [])) else .error .notFound
  | .ok ⟨place, some (.file _)⟩ =>
    .ok (place, if truncate then tree.put place (.file []) else tree)
  | .ok ⟨place, some node⟩ => if node.isDirectory then .error .isDirectory else .ok (place, tree)

/-- Append bytes to an open file. -/
def append (tree : FileTree) (place : Place) (bytes : List UInt8) :
    Except SystemError FileTree :=
  match tree.at? place with
  | some (.file content) => .ok (tree.put place (.file (content ++ bytes)))
  | some .full => if bytes.isEmpty then .ok tree else .error .noSpace
  | _ => .ok tree

/-- Make sure that what was written to an open file is stored. Devices store nothing. -/
def sync (tree : FileTree) (place : Place) : Except SystemError Unit :=
  match tree.at? place with
  | some (.file _) => .ok ()
  | some node => if node.isDirectory then .ok () else .error .invalidArgument
  | none => .ok ()

/-- Replace one name by another: what stands at the first path moves to the second. -/
def rename (tree : FileTree) (source destination : String) : Except SystemError FileTree :=
  match resolveWith false tree source with
  | .error error => .error error
  | .ok ⟨_, none⟩ => .error .notFound
  | .ok ⟨start, some node⟩ =>
    match resolveWith false tree destination with
    | .error error => .error error
    | .ok ⟨finish, other⟩ =>
      match node, other with
      | .directory, some .directory =>
        if (tree.children finish).isEmpty then .ok ((tree.remove start).put finish node)
        else .error .notEmpty
      | .directory, some _ => .error .notDirectory
      | _, some .directory => .error .isDirectory
      | _, _ => .ok ((tree.remove start).put finish node)

/-- Create one directory. -/
def createDirectory (tree : FileTree) (path : String) : Except SystemError FileTree :=
  match resolveWith false tree path with
  | .error error => .error error
  | .ok ⟨place, none⟩ =>
    if tree.hasRoomAt place then .ok (tree.put place .directory) else .error .notFound
  | .ok ⟨_, some _⟩ => .error .alreadyExists

/-- The path without its last component. -/
def parentPath (path : String) : String :=
  let names := (Path.pieces path).dropLast
  let start := if Path.isAbsolute path then "/" else ""
  start ++ "/".intercalate names

/-- Create a directory and whatever is missing on the way to it. The first argument bounds
the number of levels. -/
def createDirectories : Nat → FileTree → String → Except SystemError FileTree
  | 0, _, _ => .error .notFound
  | levels + 1, tree, path =>
    if path.isEmpty then .ok tree
    else
      match tree.createDirectory path with
      | .ok made => .ok made
      | .error error =>
        if error = .notFound then
          match createDirectories levels tree (parentPath path) with
          | .error error => .error error
          | .ok tree =>
            match tree.createDirectory path with
            | .ok made => .ok made
            | .error error => if tree.isDirectory path then .ok tree else .error error
        else if tree.isDirectory path then .ok tree
        else .error error

/-- Create a directory and whatever is missing on the way to it. -/
def createAll (tree : FileTree) (path : String) : Except SystemError FileTree :=
  createDirectories ((Path.pieces path).length + 1) tree path

/-- Put a directory at a place and at every place on the way to it. -/
def addDirectories (tree : FileTree) (place : Place) : FileTree :=
  (List.range (place.length + 1)).foldl
    (fun tree depth =>
      let above := place.take depth
      if above.isEmpty then tree else tree.put above .directory)
    tree

/-- A tree with the devices, the directory that the system keeps for itself, a working
directory and what lies below that. -/
def populate (workingDirectory : String) (contents : List (String × FileNode)) : FileTree :=
  let base := Path.pieces workingDirectory
  let bare : FileTree := ⟨[(["dev", "full"], .full), (["dev", "null"], .null),
    (["dev", "zero"], .zero), (["dev"], .directory), (["proc"], .reserved)]⟩
  contents.foldl
    (fun tree entry =>
      let place := base ++ Path.pieces entry.1
      (tree.addDirectories place.dropLast).put place entry.2)
    (bare.addDirectories base)

end FileTree

end PgConsole
