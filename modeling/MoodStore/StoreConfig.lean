import MoodStore.Json.Decode

/-!
Settings of a file store: where the file lies and how its pool of connections is sized.
-/

namespace MoodStore

open Json (Value)

/-- The settings of a store that is a file. Without `minIdle`, as many connections are kept open
while unused as may be open at all; statements wait for a lock for `busyTimeoutMs`, and callers for
a connection for `connectionTimeoutMs`. -/
structure StoreConfig where
  path : String
  maxConnections : Nat
  minIdle : Option Nat
  busyTimeoutMs : Nat
  connectionTimeoutMs : Nat
  deriving DecidableEq, Repr

namespace StoreConfig

/-- The settings that a path leaves open take these values. -/
def ofPath (path : String) : StoreConfig := ⟨path, 8, none, 5000, 30000⟩

def default : StoreConfig := ofPath "saypi.db"

/-- The size of the pool: at least one. -/
def poolSize (config : StoreConfig) : Nat := max config.maxConnections 1

def fields : List String :=
  ["path", "max_connections", "min_idle", "busy_timeout_ms", "connection_timeout_ms"]

def word32? : Value → Option Nat := Value.asNat? UInt32.size

def word64? : Value → Option Nat := Value.asNat? UInt64.size

/-- Reads a configuration; missing fields take their defaults. -/
def ofJson? (value : Value) : Option StoreConfig := do
  match ← value.slots? fields with
  | [path, maxConnections, minIdle, busyTimeout, connectionTimeout] =>
    return {
      path := ← Value.optional? Value.asString? default.path path
      maxConnections := ← Value.optional? word32? default.maxConnections maxConnections
      minIdle := ← Value.optional? (Value.asNullable? word32?) default.minIdle minIdle
      busyTimeoutMs := ← Value.optional? word64? default.busyTimeoutMs busyTimeout
      connectionTimeoutMs :=
        ← Value.optional? word64? default.connectionTimeoutMs connectionTimeout }
  | _ => none

end StoreConfig

end MoodStore
