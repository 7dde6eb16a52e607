import Mathlib.Data.List.TakeWhile
import SqlBindings.Sql.ConnectionString

namespace SqlBindings

theorem Text.trimBlanks_eq_nil_iff {cs : List Char} :
    trimBlanks cs = [] ↔ ∀ c ∈ cs, isBlank c = true := by
  rw [trimBlanks, List.reverse_eq_nil_iff, List.dropWhile_eq_nil_iff]
  constructor
  · intro rest c mem
    rw [← List.takeWhile_append_dropWhile (p := isBlank) (l := cs), List.mem_append] at mem
    rcases mem with front | behind
    · exact List.mem_takeWhile_imp front
    · exact rest c (List.mem_reverse.mpr behind)
  · exact fun all c mem => all c ((List.dropWhile_sublist _).subset (List.mem_reverse.mp mem))

namespace Sql

theorem splitAtChar_eq_splitOn (separator : Char) (cs : List Char) :
    splitAtChar separator cs = cs.splitOn separator := by
  induction cs with
  | nil => rfl
  | cons c rest ih =>
    obtain ⟨part, parts, split⟩ := List.exists_cons_of_ne_nil (splitAtChar_ne_nil separator rest)
    rw [List.splitOn, List.splitOnP_cons_eq_if_modifyHead, ← List.splitOn, ← ih]
    by_cases here : c = separator
    · simp [splitAtChar, here]
    · simp [splitAtChar, here, split]

/-- The key of a part names the server. -/
def NamesServer (part : List Char) : Prop := partKey part ∈ serverKeys

instance (part : List Char) : Decidable (NamesServer part) :=
  inferInstanceAs (Decidable (_ ∈ serverKeys))

/-- What a part needs to stay when the server is replaced. -/
structure Stays (part : List Char) : Prop where
  notBlank : ∃ c ∈ part, Text.isBlank c = false
  otherKey : ¬ NamesServer part

theorem keepsPart_iff {part : List Char} : keepsPart part = true ↔ Stays part := by
  have notBlank : (Text.trimBlanks part).isEmpty = false ↔ ∃ c ∈ part, Text.isBlank c = false := by
    rw [← Bool.not_eq_true, List.isEmpty_iff, Text.trimBlanks_eq_nil_iff]
    simp
  have otherKey : serverKeys.contains (partKey part) = false ↔ ¬ NamesServer part := by
    rw [← Bool.not_eq_true, List.contains_iff_mem, NamesServer]
  rw [keepsPart, Bool.and_eq_true, Bool.not_eq_true', Bool.not_eq_true', notBlank, otherKey]
  exact ⟨fun ⟨notBlank, other⟩ => ⟨notBlank, other⟩, fun stays => ⟨stays.notBlank, stays.otherKey⟩⟩

instance (part : List Char) : Decidable (Stays part) := decidable_of_iff _ keepsPart_iff

theorem keepsPart_eq : keepsPart = fun part => decide (Stays part) := by
  funext part
  rw [Bool.eq_iff_iff, decide_eq_true_iff, keepsPart_iff]

theorem serverPart_eq (server : String) :
    serverPart server = "SERVER".toList ++ '=' :: server.toList := rfl

theorem namesServer_serverPart (server : String) : NamesServer (serverPart server) := by
  have front : (serverPart server).takeWhile (· != '=') = "SERVER".toList := by
    rw [serverPart_eq]
    simp
  unfold NamesServer partKey
  rw [front]
  decide +kernel

section

variable {server : String} (given : server ≠ "")
include given

theorem withServer_some (connectionString : String) :
    withServer connectionString (some server) = String.ofList ([';'].intercalate
      ((connectionString.toList.splitOn ';').filter (fun part => decide (Stays part)) ++
        [serverPart server])) := by
  have filtered : (some server).filter (· != "") = some server := by simp [given]
  rw [withServer, filtered, ← splitAtChar_eq_splitOn, ← keepsPart_eq]
  rfl

variable (onePart : ';' ∉ server.toList)
include onePart

/-- The parts of a connection string whose server is replaced. -/
theorem splitOn_withServer (connectionString : String) :
    (withServer connectionString (some server)).toList.splitOn ';' =
      (connectionString.toList.splitOn ';').filter (fun part => decide (Stays part)) ++
        [serverPart server] := by
  rw [withServer_some given, String.toList_ofList]
  refine List.splitOn_intercalate _ (fun part mem => ?_) (by simp)
  rcases List.mem_append.mp mem with old | new
  · rw [← splitAtChar_eq_splitOn] at old
    exact not_mem_of_mem_splitAtChar (List.mem_filter.mp old).1
  · obtain rfl := List.mem_singleton.mp new
    simpa [serverPart_eq] using onePart

/-- Of two servers the last one counts. -/
theorem withServer_withServer {later : String} (givenLater : later ≠ "")
    (connectionString : String) :
    withServer (withServer connectionString (some server)) (some later) =
      withServer connectionString (some later) := by
  have goes : ¬ Stays (serverPart server) := fun stays =>
    stays.otherKey (namesServer_serverPart server)
  rw [withServer_some givenLater, withServer_some givenLater, splitOn_withServer given onePart,
    List.filter_append, List.filter_filter]
  simp [goes]

/-- The result names one server, whatever the connection string had. -/
theorem countP_withServer (connectionString : String) :
    ((withServer connectionString (some server)).toList.splitOn ';').countP
      (fun part => decide (NamesServer part)) = 1 := by
  have none : ((connectionString.toList.splitOn ';').filter
      (fun part => decide (Stays part))).countP (fun part => decide (NamesServer part)) = 0 := by
    refine List.countP_eq_zero.mpr fun part mem => ?_
    simpa using (decide_eq_true_iff.mp (List.mem_filter.mp mem).2).otherKey
  rw [splitOn_withServer given onePart, List.countP_append, none, List.countP_singleton,
    if_pos (decide_eq_true (namesServer_serverPart server))]

end

/-- Replacing the server overwrites one key. The other parts stay as they are, the server comes last,
and an earlier replacement leaves no trace. -/
theorem withServer_overwrites (connectionString a b : String) (givenA : a ≠ "")
    (onePartA : ';' ∉ a.toList) (givenB : b ≠ "") :
    (withServer connectionString (some a)).toList.splitOn ';' =
        (connectionString.toList.splitOn ';').filter (fun part => decide (Stays part)) ++
          [("SERVER=" ++ a).toList] ∧
      withServer (withServer connectionString (some a)) (some b) =
        withServer connectionString (some b) ∧
      withServer (withServer connectionString (some a)) (some a) =
        withServer connectionString (some a) ∧
      ((withServer connectionString (some a)).toList.splitOn ';').countP
        (fun part => decide (NamesServer part)) = 1 := by
  refine ⟨?_, withServer_withServer givenA onePartA givenB connectionString,
    withServer_withServer givenA onePartA givenA connectionString,
    countP_withServer givenA onePartA connectionString⟩
  rw [splitOn_withServer givenA onePartA, String.toList_append]
  rfl

/-- Settings with a blank part, two names of the server, and a value with an equals sign in it. -/
def twoServers : String := "DRIVER={SQL Server}; ADDR = old,1433 ;;Data Source=older;PWD=a=b"

theorem withServer_overwrites_twoServers :
    withServer twoServers (some "new") = "DRIVER={SQL Server};PWD=a=b;SERVER=new" ∧
      (withServer twoServers (some "new")).toList.splitOn ';' =
        (twoServers.toList.splitOn ';').filter (fun part => decide (Stays part)) ++
          [("SERVER=" ++ "new").toList] ∧
      withServer (withServer twoServers (some "new")) (some "newer") =
        withServer twoServers (some "newer") := by
  have laws := withServer_overwrites twoServers "new" "newer" (by decide) (by decide) (by decide)
  exact ⟨by decide +kernel, laws.1, laws.2.1⟩

end Sql

end SqlBindings
