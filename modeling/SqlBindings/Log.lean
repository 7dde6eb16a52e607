import SqlBindings.Failure

/-!
Log entries, and runs that keep their state and their log even when they fail.
-/

namespace SqlBindings

inductive LogLevel where
  | info | warning | error
deriving DecidableEq, Repr

def LogLevel.label : LogLevel → String
  | info => "INFO"
  | warning => "WARNING"
  | error => "ERROR"

inductive LogSource where
  | settings | catalog | introspection | commandLine | connection
deriving DecidableEq, Repr

def LogSource.label : LogSource → String
  | settings => "schemagen.config.connection"
  | catalog => "schemagen.catalog.sqlserver"
  | introspection => "schemagen.core.introspect"
  | commandLine => "schemagen.cli.main"
  | connection => "schemagen.runtime.connection"

structure LogEntry where
  level : LogLevel
  source : LogSource
  message : String
deriving DecidableEq, Repr

structure Traced (σ : Type) where
  state : σ
  log : List LogEntry := []
deriving Repr

/-- A computation on a state that logs and may fail. -/
abbrev Run (σ : Type) := ExceptT Failure (StateM (Traced σ))

namespace Run

variable {σ α : Type}

def log (level : LogLevel) (source : LogSource) (message : String) : Run σ Unit :=
  modify fun t => { t with log := t.log ++ [⟨level, source, message⟩] }

def ofExcept (result : Except Failure α) : Run σ α := ExceptT.mk (pure result)

/-- Runs a computation and hands its outcome on as a value. -/
def outcome (run : Run σ α) : Run σ (Except Failure α) := ExceptT.mk do
  return .ok (← ExceptT.run run)

def start (run : Run σ α) (state : σ) : Except Failure α × Traced σ :=
  (ExceptT.run run).run ⟨state, []⟩

def onPart {τ : Type} (part : τ → σ) (replace : σ → τ → τ) (run : Run σ α) : Run τ α :=
  ExceptT.mk fun t =>
    let (result, u) := (ExceptT.run run).run ⟨part t.state, t.log⟩
    (result, ⟨replace u.state t.state, u.log⟩)

/-- Runs `cleanup` after `body` in any case. If the cleanup fails, its failure is the outcome. -/
def followedAlwaysBy (body : Run σ α) (cleanup : Run σ Unit) : Run σ α := do
  let result ← outcome body
  cleanup
  ofExcept result

end Run

end SqlBindings
