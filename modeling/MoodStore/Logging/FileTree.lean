import MoodStore.Text.Path

/-!
A tree of directories and files, as far as creating directories and opening files can tell it
apart.

A path is walked step by step from the root. A single dot stays where it is and a double dot goes
back, but either can only be taken in a directory.
-/

namespace MoodStore

inductive Node where
  | directory
  | file
  deriving DecidableEq, Repr

inductive PathError where
  | notFound
  | notADirectory
  | isADirectory
  | alreadyExists
  | nameTooLong
  | zeroCharacter
  deriving DecidableEq, Repr

def PathError.message : PathError → String
  | notFound => "No such file or directory (os error 2)"
  | notADirectory => "Not a directory (os error 20)"
  | isADirectory => "Is a directory (os error 21)"
  | alreadyExists => "File exists (os error 17)"
  | nameTooLong => "File name too long (os error 36)"
  | zeroCharacter => "file name contained an unexpected NUL byte"

/-- An entry of a directory, which is numbered `parent`. -/
structure FileTree.Entry where
  parent : Nat
  name : String
  node : Node
  deriving DecidableEq, Repr

/-- What lies below the root, in the order in which it was made. The root has the number 0, and the
entry at position `i` the number `i + 1`. -/
structure FileTree where
  entries : Array FileTree.Entry
  deriving DecidableEq, Repr

namespace FileTree

def root : Nat := 0

/-- What has that number. The root is a directory. -/
def node (tree : FileTree) : Nat → Node
  | 0 => .directory
  | i + 1 => tree.entries[i]?.elim .directory Entry.node

/-- The directory that something lies in. The root lies in itself. -/
def parent (tree : FileTree) : Nat → Nat
  | 0 => root
  | i + 1 => tree.entries[i]?.elim root Entry.parent

/-- What lies in a directory under a name. -/
def child? (tree : FileTree) (dir : Nat) (name : String) : Option Nat :=
  (tree.entries.findIdx? fun entry => entry.parent == dir && entry.name == name).map (· + 1)

/-- Puts something into a directory, under a free name. Its number is that of the entries then. -/
def insert (tree : FileTree) (dir : Nat) (name : String) (node : Node) : FileTree :=
  ⟨tree.entries.push ⟨dir, name, node⟩⟩

/-! ### Walking -/

/-- The longest name of one component, in bytes. -/
def maxNameBytes : Nat := 255

/-- The longest path, in bytes. -/
def maxPathBytes : Nat := 4095

/-- The path can be handed to the system at all. -/
def checkPath (path : String) : Except PathError Unit :=
  if path.toList.contains '\x00' then .error .zeroCharacter
  else if maxPathBytes < path.utf8ByteSize then .error .nameTooLong
  else .ok ()

/-- Where a walk leads: to what has a number, or to a free name in a directory. -/
inductive Place where
  | taken (number : Nat)
  | free (dir : Nat) (name : String)
  deriving DecidableEq, Repr

/-- The place that a step from a directory leads to. -/
def advance (tree : FileTree) (dir : Nat) (step : String) : Place :=
  if step = "." then .taken dir
  else if step = ".." then .taken (tree.parent dir)
  else (tree.child? dir step).elim (.free dir step) .taken

/-- Walks steps from a place. Every place walked from must be a directory; what lies at the end is
not looked at. -/
def walk (tree : FileTree) : Place → List String → Except PathError Place
  | place, [] => .ok place
  | .free _ _, _ :: _ => .error .notFound
  | .taken number, step :: steps =>
    match tree.node number with
    | .file => .error .notADirectory
    | .directory =>
      if maxNameBytes < step.utf8ByteSize then .error .nameTooLong
      else tree.walk (tree.advance number step) steps

/-! ### Creating directories -/

/-- Creates one directory, at the end of the steps from another. -/
def createDirectory (tree : FileTree) (dir : Nat) (steps : List String) :
    Except PathError FileTree :=
  match tree.walk (.taken dir) steps with
  | .error error => .error error
  | .ok (.taken _) => .error .alreadyExists
  | .ok (.free dir name) => .ok (tree.insert dir name .directory)

/-- A directory lies at the end of the steps from another. -/
def isDirectory (tree : FileTree) (dir : Nat) (steps : List String) : Bool :=
  match tree.walk (.taken dir) steps with
  | .ok (.taken number) => tree.node number == .directory
  | _ => false

/-- Creates one directory, or finds that it exists. -/
def ensureDirectory (tree : FileTree) (dir : Nat) (steps : List String) :
    Except PathError Unit × FileTree :=
  match tree.createDirectory dir steps with
  | .ok grown => (.ok (), grown)
  | .error error => (if tree.isDirectory dir steps then .ok () else .error error, tree)

/-- Walks steps from a directory and creates every missing one on the way. Answers the directory
at the end. What was created stays even if the rest cannot be. -/
def descend (tree : FileTree) (dir : Nat) : List String → Except PathError Nat × FileTree
  | [] => (.ok dir, tree)
  | step :: steps =>
    if maxNameBytes < step.utf8ByteSize then (.error .nameTooLong, tree)
    else
      match tree.advance dir step with
      | .free dir name =>
        let grown := tree.insert dir name .directory
        grown.descend grown.entries.size steps
      | .taken number =>
        match tree.node number with
        | .file => (.error .alreadyExists, tree)
        | .directory => tree.descend number steps

/-- The steps above the last name, and that name with the single dots after it. -/
def splitLast (steps : List String) : List String × List String :=
  let named := (steps.reverse.dropWhile (· == ".")).reverse
  (named.dropLast, steps.drop (named.length - 1))

/-- Creates a directory and every missing one above it; one that exists is kept. The directories
above are looked at only if one of them is missing. -/
def createAll (tree : FileTree) (path : String) : Except PathError Unit × FileTree :=
  match checkPath path with
  | .error error => (.error error, tree)
  | .ok () =>
    let steps := Text.Path.steps path
    match tree.createDirectory root steps with
    | .error .notFound =>
      let (above, last) := splitLast steps
      match tree.descend root above with
      | (.error error, grown) => (.error error, grown)
      | (.ok dir, grown) => grown.ensureDirectory dir last
    | _ => tree.ensureDirectory root steps

/-- Puts something at the end of a list of names, below directories that are created. -/
def add (tree : FileTree) (names : List String) (node : Node) : FileTree :=
  match names.getLast?, tree.descend root names.dropLast with
  | some name, (.ok dir, grown) =>
    if (grown.child? dir name).isSome then grown else grown.insert dir name node
  | _, (_, grown) => grown

/-- A tree with these directories and files. -/
def ofList (nodes : List (List String × Node)) : FileTree :=
  nodes.foldl (fun tree (names, node) => tree.add names node) ⟨#[]⟩

/-! ### Opening files -/

/-- Opens a file to append to, and creates it if nothing lies there. -/
def openFile (tree : FileTree) (path : String) : Except PathError FileTree := do
  checkPath path
  match ← tree.walk (.taken root) (Text.Path.steps path) with
  | .taken number =>
    match tree.node number with
    | .directory => throw .isADirectory
    | .file => if Text.Path.endsOpen path then throw .notADirectory else return tree
  | .free dir name =>
    if Text.Path.endsOpen path then throw .isADirectory else return tree.insert dir name .file

end FileTree

end MoodStore
