import SqlBindings.Bundle
import SqlBindings.Render.TableType
import SqlBindings.Render.Command

namespace SqlBindings

namespace Bundle

def banner : String := "# This code is auto-generated"

def imports : List String :=
  ["from __future__ import annotations",
    "",
    "import datetime",
    "import decimal",
    "import uuid",
    "from dataclasses import dataclass",
    "from typing import List, Optional, Tuple",
    "",
    "import pyodbc",
    "",
    "from schemagen.runtime import NoRowReturnedError, SqlConn"]

/-- The imports of the modules that hold foreign table types. -/
def schemaImports (b : Bundle) : List String :=
  match b.foreignSchemas with
  | [] => []
  | schemas => "" :: schemas.map fun s => "from . import " ++ s ++ " as " ++ Name.schemaAlias s

/-- A heading and the blocks under it; nothing if there are no blocks. -/
def titled (heading : String) (blocks : List (List String)) : List String :=
  if blocks.isEmpty then []
  else ["", ""] ++ Render.title heading ++ blocks.flatMap fun block => ["", ""] ++ block

/-- The getters, which are nested in a class of their own. -/
def getterSection (blocks : List (List String)) : List String :=
  if blocks.isEmpty then []
  else ["", ""] ++ Render.title "Table Getters" ++
    ["", "", "class TableGetters:",
      "    \"\"\"Getters returning every row of a base table.\"\"\""] ++
    blocks.flatMap fun block => "" :: Render.indentBy 1 block

/-- The module of a schema: table types, stored procedures, functions, then table getters. -/
def render (b : Bundle) : Except Failure (List String) := do
  let storedProcedures ← b.storedProcedures.mapM Command.render
  let functions ← b.functions.mapM Command.render
  let tableGetters ← b.tableGetters.mapM Command.render
  return [banner, "\"\"\"Bindings for the " ++ b.schema ++ " schema.\"\"\""] ++ imports ++
    b.schemaImports ++
    titled "User-Defined Table Types" (b.tableTypes.map TableType.render) ++
    titled "Stored Procedures" storedProcedures ++
    titled "User Defined Functions" functions ++
    getterSection tableGetters

end Bundle

namespace Package

abbrev File := String × String

def fileText (lines : List String) : String := "\n".intercalate lines ++ "\n"

def initFile : File := ("__init__.py", fileText [Bundle.banner])

/-- Adds a file; one of the same name is replaced in its place. -/
def insert (file : File) : List File → List File
  | [] => [file]
  | other :: rest => if other.1 = file.1 then file :: rest else other :: insert file rest

def ofBundles (bundles : List Bundle) : Except Failure (List File) := do
  let modules ← (Bundle.sortOn Bundle.schema bundles).mapM fun b => do
    return (b.schema ++ ".py", fileText (← b.render))
  return modules.foldl (fun files file => insert file files) [initFile]

end Package

end SqlBindings
