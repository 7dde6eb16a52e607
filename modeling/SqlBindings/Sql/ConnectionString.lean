import SqlBindings.Failure
import SqlBindings.Text.Case

/-!
Connection strings: parts separated by semicolons, each a key, an equals sign and a value.
-/

namespace SqlBindings.Sql

def splitAtChar (separator : Char) : List Char → List (List Char)
  | [] => [[]]
  | c :: rest =>
    if c = separator then [] :: splitAtChar separator rest
    else match splitAtChar separator rest with
      | [] => [[c]]
      | part :: parts => (c :: part) :: parts

theorem splitAtChar_ne_nil (separator : Char) (cs : List Char) : splitAtChar separator cs ≠ [] := by
  induction cs with
  | nil => simp [splitAtChar]
  | cons c rest ih =>
    simp only [splitAtChar]
    split
    · simp
    · split <;> simp

theorem not_mem_of_mem_splitAtChar {separator : Char} {cs part : List Char}
    (h : part ∈ splitAtChar separator cs) : separator ∉ part := by
  induction cs generalizing part with
  | nil => simp [splitAtChar] at h; simp [h]
  | cons c rest ih =>
    by_cases hc : c = separator
    · simp only [splitAtChar, hc, ↓reduceIte, List.mem_cons] at h
      rcases h with rfl | h
      · simp
      · exact ih h
    · obtain ⟨first, parts, hs⟩ := List.exists_cons_of_ne_nil (splitAtChar_ne_nil separator rest)
      simp only [splitAtChar, hc, ↓reduceIte, hs, List.mem_cons] at h
      rcases h with rfl | h
      · have hf : separator ∉ first := ih (by simp [hs])
        simp [hf, Ne.symm hc]
      · exact ih (by simp [hs, h])

/-- The keys that name the server. -/
def serverKeys : List (List Char) :=
  ["server".toList, "address".toList, "addr".toList, "data source".toList]

/-- What stands before the first equals sign, trimmed and in lower case. -/
def partKey (part : List Char) : List Char :=
  Text.lowerChars (Text.trimBlanks (part.takeWhile (· != '=')))

def keepsPart (part : List Char) : Bool :=
  !(Text.trimBlanks part).isEmpty && !serverKeys.contains (partKey part)

def serverPart (server : String) : List Char := "SERVER=".toList ++ server.toList

def partsWithServer (parts : List (List Char)) (server : String) : List (List Char) :=
  parts.filter keepsPart ++ [serverPart server]

/-- A connection string with its server replaced; without a server it stays as it is. -/
def withServer (connectionString : String) (server : Option String) : String :=
  match server.filter (· != "") with
  | none => connectionString
  | some server =>
    String.ofList <| [';'].intercalate <|
      partsWithServer (splitAtChar ';' connectionString.toList) server

def overrideServer (connectionString server : Datum) : Except Failure Datum :=
  if server.isSet then
    match connectionString with
    | .text s => do
      let shown ← server.displayed.mapError fun fault => .settingValue (.number fault)
      return .text (withServer s (some shown))
    | .bytes _ => .error (.data .bytesForText)
    | other => .error (.data (.noOperation other.kind "split"))
  else .ok connectionString

end SqlBindings.Sql
