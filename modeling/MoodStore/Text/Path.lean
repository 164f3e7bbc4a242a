/-!
File paths as texts. Two paths are the same when their components are: repeated slashes, a slash
at the end and single dots do not count, while a double dot is a component like any other.
-/

namespace MoodStore.Text.Path

/-- The pieces between the separators, empty ones included. -/
def pieces (sep : Char) : List Char → List (List Char)
  | [] => [[]]
  | c :: cs =>
    if c = sep then [] :: pieces sep cs
    else match pieces sep cs with
      | [] => [[c]]
      | p :: ps => (c :: p) :: ps

def isAbsolute (path : String) : Bool := path.toList.head? == some '/'

/-- The steps that a walk along the path takes, single dots included. -/
def steps (path : String) : List String :=
  ((pieces '/' path.toList).filter fun p => p != []).map String.ofList

/-- The components below the root, or below the current directory. -/
def components (path : String) : List String := (steps path).filter (· ≠ ".")

/-- The path ends with a separator, as only paths of directories do. -/
def endsOpen (path : String) : Bool := path.toList.getLast? == some '/'

/-- The path of a name in a directory. -/
def join (dir name : String) : String := dir ++ (if endsOpen dir then "" else "/") ++ name

/-- The path starts with a dot for the current directory. -/
def isDotted (path : String) : Bool := (pieces '/' path.toList).head? == some ['.']

/-- The two paths have the same components. -/
def same (p q : String) : Bool :=
  isAbsolute p == isAbsolute q && isDotted p == isDotted q && components p == components q

end MoodStore.Text.Path
