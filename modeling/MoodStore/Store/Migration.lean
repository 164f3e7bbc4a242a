import MoodStore.Fault

/-!
The migration that creates the tables of the store: its script, and how the engine refuses one of
its statements.

The engine compiles and runs the script statement by statement, so that each finds what those before
it have created. A statement whose object has the name of something that exists is refused when it
is compiled; where a table has the name of a table or view, the failure shows the rest of the script
and where in it the name stands. Names of tables, views and indexes share one space and are compared
without regard to the case of ASCII letters.
-/

namespace MoodStore

namespace Migration

inductive Kind where
  | table
  | index
  deriving DecidableEq, Repr

/-- The words that a statement begins with. -/
def Kind.words : Kind → String
  | table => "CREATE TABLE "
  | index => "CREATE INDEX "

/-- A statement of the script: what it creates, the line breaks before it, and the lines after the
name. -/
structure Statement where
  kind : Kind
  name : String
  gap : String
  body : List String
  deriving DecidableEq, Repr

/-- What stands before the name. -/
def Statement.head (statement : Statement) : String := statement.gap ++ statement.kind.words

def Statement.text (statement : Statement) : String :=
  statement.head ++ statement.name ++ "\n".intercalate statement.body

def script : List Statement :=
  [⟨.table, "moods", "",
      [" (",
       "    id INTEGER PRIMARY KEY AUTOINCREMENT,",
       "    user_id TEXT NOT NULL,",
       "    name TEXT NOT NULL,",
       "    name_key TEXT NOT NULL,",
       "    eyes TEXT NOT NULL,",
       "    tongue TEXT NOT NULL,",
       "    write_outcome TEXT NOT NULL DEFAULT 'created'",
       "        CHECK (write_outcome IN ('created', 'updated', 'unchanged')),",
       "    UNIQUE (user_id, name_key)",
       ");"]⟩,
   ⟨.table, "conversations", "\n\n",
      [" (",
       "    id INTEGER PRIMARY KEY AUTOINCREMENT,",
       "    public_id TEXT NOT NULL UNIQUE,",
       "    user_id TEXT NOT NULL,",
       "    heading TEXT NOT NULL",
       ");"]⟩,
   ⟨.index, "idx_conversations_user_id", "\n\n", [" ON conversations (user_id, id);"]⟩,
   ⟨.table, "lines", "\n\n",
      [" (",
       "    id INTEGER PRIMARY KEY AUTOINCREMENT,",
       "    public_id TEXT NOT NULL UNIQUE,",
       "    conversation_id INTEGER NOT NULL",
       "        REFERENCES conversations (id) ON DELETE CASCADE,",
       "    mood_id INTEGER",
       "        REFERENCES moods (id),",
       "    mood_name TEXT NOT NULL,",
       "    animal TEXT NOT NULL,",
       "    think INTEGER NOT NULL CHECK (think IN (0, 1)),",
       "    text TEXT NOT NULL",
       ");"]⟩,
   ⟨.index, "idx_lines_conversation_id", "\n\n", [" ON lines (conversation_id, id);"]⟩,
   ⟨.index, "idx_lines_mood_id", "\n", [" ON lines (mood_id);"]⟩]

/-- The text of the statements that are left, which ends a line. -/
def textOf (statements : List Statement) : String :=
  String.join (statements.map Statement.text) ++ "\n"

/-- What of this kind the script creates. -/
def names (kind : Kind) : List String :=
  (script.filter fun statement => statement.kind = kind).map Statement.name

/-- The tables that the script creates. -/
def tables : List String := names .table

/-- The indexes that the script creates. -/
def indexes : List String := names .index

/-! ### Objects -/

inductive Holder where
  | table
  | view
  | index
  deriving DecidableEq, Repr

def Holder.name : Holder → String
  | table => "table"
  | view => "view"
  | index => "index"

structure Object where
  holder : Holder
  name : String
  deriving DecidableEq, Repr

/-- The two names name the same object. -/
def sameName (a b : String) : Bool := a.toList.map Char.toLower == b.toList.map Char.toLower

/-- What has the name already. -/
def holder? (objects : List Object) (name : String) : Option Holder :=
  (objects.find? fun object => sameName name object.name).map Object.holder

def Statement.object (statement : Statement) : Object :=
  ⟨match statement.kind with
    | .table => .table
    | .index => .index, statement.name⟩

/-- The table in which the engine keeps the counters of row ids. -/
def counters : Object := ⟨.table, "sqlite_sequence"⟩

/-- The objects once the statement has run. The first table with a counter brings the table of the
counters along. -/
def Statement.create (statement : Statement) (objects : List Object) : List Object :=
  objects ++ statement.object ::
    if statement.kind = .table ∧ counters ∉ objects then [counters] else []

/-! ### Running the script -/

/-- The failure of a statement whose name is held, the first of those that are left. -/
def refusal (holder : Holder) (statement : Statement) (left : List Statement) : Failure :=
  match statement.kind, holder with
  | .table, .index => .result 1 s!"there is already an index named {statement.name}"
  | .table, holder =>
    .uncompiled s!"{holder.name} {statement.name} already exists" (textOf (statement :: left))
      statement.head.utf8ByteSize
  | .index, .index => .result 1 s!"index {statement.name} already exists"
  | .index, _ => .result 1 s!"there is already a table named {statement.name}"

/-- Runs statements one after the other, up to the first whose name is held. Answers how that ended
and the objects by then. -/
def run (objects : List Object) : List Statement → Except Failure Unit × List Object
  | [] => (.ok (), objects)
  | statement :: left =>
    match holder? objects statement.name with
    | some holder => (.error (refusal holder statement left), objects)
    | none => run (statement.create objects) left

end Migration

end MoodStore
