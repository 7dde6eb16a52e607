import SqlBindings.Catalog.Session
import SqlBindings.Introspection

/-! The catalogs that can be read, by name, and a whole run of introspection. -/

namespace SqlBindings.Catalog

inductive CatalogKind where
  | sqlServer
deriving DecidableEq, Repr

namespace CatalogKind

def all : List CatalogKind := [sqlServer]

def key : CatalogKind → String
  | sqlServer => "sqlserver"

/-- The name of the reader of a catalog. -/
def label : CatalogKind → String
  | sqlServer => "SqlServerCatalog"

def supported : List String := all.map key

/-- The catalog a name stands for, in any case. -/
def ofName (name : String) : Except Failure CatalogKind :=
  match all.find? fun kind => kind.key == Text.lower name with
  | some kind => .ok kind
  | none => .error (.unsupportedCatalog name (", ".intercalate supported))

end CatalogKind

/-- Connects, introspects and disconnects. Once there is a connection it is closed in any case. -/
def introspectDatabase (driver : Driver) (settings : List (String × Datum)) (catalogName : String) :
    Run Session (List Bundle) := do
  match ← Run.ofExcept (CatalogKind.ofName catalogName) with
  | .sqlServer =>
    Session.connect driver settings
    (Introspection.introspect (Session.source driver)).followedAlwaysBy (Session.close driver)

end SqlBindings.Catalog
