import Mathlib.Data.List.Nodup
import SqlBindings.Files.Tree
import SqlBindings.Proofs.Result

namespace SqlBindings.Files.Tree

variable {tree made next after : Tree} {path : Path} {bytes : List UInt8} {place q : List String}

/-- The bytes of the file at a place. -/
def file? (tree : Tree) (place : List String) : Option (List UInt8) :=
  match tree.find? place with
  | some (.file bytes) => some bytes
  | _ => none

/-- Each place holds the file that it held before, or none as before. -/
def SameFiles (before after : Tree) : Prop := ∀ place, after.file? place = before.file? place

/-- The same places are directories. -/
def SameDirectories (before after : Tree) : Prop :=
  ∀ place, before.find? place = some .directory ↔ after.find? place = some .directory

theorem SameFiles.symm (h : SameFiles tree made) : SameFiles made tree := fun place => (h place).symm

theorem SameFiles.trans (h : SameFiles tree made) (h' : SameFiles made after) :
    SameFiles tree after :=
  fun place => (h' place).trans (h place)

theorem isGiven_eq_false (h : tree.find? place ≠ some .directory) : isGiven place = false := by
  by_contra given
  exact h (if_pos (Bool.not_eq_false _ ▸ given))

/-- The entry that is set stands at its place, and all other places stay as they are. -/
theorem find?_set (h : tree.find? place ≠ some .directory) (e : Entry) :
    (tree.set place e).find? q = if q = place then some e else tree.find? q := by
  split
  · rename_i here
    rw [here, find?_set_self tree place e (isGiven_eq_false h)]
  · exact find?_set_of_ne tree place q e ‹_›

theorem hasNull_eq_false (plain : ∀ s ∈ path.segments, '\x00' ∉ s.toList) :
    hasNull path = false := by
  simpa [hasNull, String.contains_char_eq] using plain

theorem makeDirectory_ok (h : tree.makeDirectory path = .ok made) :
    ∃ place, tree.find? place = none ∧ made = tree.set place .directory := by
  unfold makeDirectory at h
  obtain ⟨place, _, h⟩ := bind_eq_ok.mp h
  cases entry : tree.find? place with
  | none =>
    rw [entry] at h
    cases h
    exact ⟨place, entry, rfl⟩
  | some e =>
    rw [entry] at h
    cases h

theorem sameFiles_makeDirectory (h : tree.makeDirectory path = .ok made) : SameFiles tree made := by
  obtain ⟨place, none, rfl⟩ := makeDirectory_ok h
  intro q
  unfold file?
  rw [find?_set (by simp [none])]
  by_cases here : q = place
  · rw [if_pos here, here, none]
  · rw [if_neg here]

theorem eq_of_existing {fault : FileFault} (h : makeMissing.existing path tree fault = .ok made) :
    tree = made := by
  unfold makeMissing.existing at h
  split at h
  · exact Except.ok.inj h
  · cases h

theorem sameFiles_makeMissing {height : Nat} (h : tree.makeMissing height path = .ok made) :
    SameFiles tree made := by
  induction height generalizing path made with
  | zero =>
    unfold makeMissing at h
    split at h
    · cases h
      exact sameFiles_makeDirectory ‹_›
    · cases h
    · exact eq_of_existing h ▸ fun _ => rfl
  | succ height ih =>
    unfold makeMissing at h
    split at h
    · cases h
      exact sameFiles_makeDirectory ‹_›
    · obtain ⟨above, madeAbove, h⟩ := bind_eq_ok.mp h
      split at h
      · cases h
        exact (ih madeAbove).trans (sameFiles_makeDirectory ‹_›)
      · exact eq_of_existing h ▸ ih madeAbove
    · exact eq_of_existing h ▸ fun _ => rfl

theorem sameFiles_makeDirectories (h : tree.makeDirectories path = .ok made) :
    SameFiles tree made := by
  unfold makeDirectories at h
  split at h
  · cases h
  · exact sameFiles_makeMissing h

/-- Where a path leads depends on the directories only. -/
theorem follow_of_sameDirectories (same : SameDirectories tree after) {segments : List String}
    (h : tree.follow place segments = .ok q) : after.follow place segments = .ok q := by
  induction segments generalizing place with
  | nil => exact h
  | cons segment segments ih =>
    unfold follow at h ⊢
    cases entry : tree.find? place with
    | none =>
      rw [entry] at h
      cases h
    | some e =>
      cases e with
      | file bytes =>
        rw [entry] at h
        cases h
      | directory =>
        rw [entry] at h
        rw [(same place).mp entry]
        simp only at h ⊢
        split at h
        · rw [if_pos ‹_›]
          exact ih h
        · rw [if_neg ‹_›]
          split at h
          · cases h
          · rw [if_neg ‹_›]
            exact ih h

theorem place_of_sameDirectories (same : SameDirectories tree after) (h : tree.place path = .ok q) :
    after.place path = .ok q := by
  unfold Tree.place at h ⊢
  split at h
  · cases h
  · rw [if_neg ‹_›]
    exact follow_of_sameDirectories same h

theorem place_iff_of_sameDirectories (same : SameDirectories tree after) :
    tree.place path = .ok q ↔ after.place path = .ok q :=
  ⟨place_of_sameDirectories same, place_of_sameDirectories fun place => (same place).symm⟩

theorem write_ok (h : tree.write path bytes = .ok after) :
    ∃ place, tree.place path = .ok place ∧ tree.find? place ≠ some .directory ∧
      after = tree.set place (.file bytes) := by
  unfold write at h
  split at h
  · cases h
  · split at h
    · cases h
    · rename_i place leads
      split at h
      · cases h
      · cases h
        exact ⟨place, leads, ‹_›, rfl⟩

theorem write_eq_ok (plain : hasNull path = false) (leads : tree.place path = .ok place)
    (noDirectory : tree.find? place ≠ some .directory) :
    tree.write path bytes = .ok (tree.set place (.file bytes)) := by
  simp [write, plain, leads]

theorem write_eq_isDirectory (plain : hasNull path = false) (leads : tree.place path = .ok place)
    (directory : tree.find? place = some .directory) :
    tree.write path bytes = .error (.file .isDirectory path.display) := by
  simp [write, plain, leads, directory]

theorem sameDirectories_write (h : tree.write path bytes = .ok after) :
    SameDirectories tree after := by
  obtain ⟨place, _, noDirectory, rfl⟩ := write_ok h
  intro q
  rw [find?_set noDirectory]
  by_cases here : q = place
  · simp [here, noDirectory]
  · rw [if_neg here]

/-- The file that is written stands where its path leads, and no other file has changed. -/
theorem file?_write (h : tree.write path bytes = .ok after) :
    ∃ place, tree.place path = .ok place ∧ after.file? place = some bytes ∧
      ∀ q, q ≠ place → after.file? q = tree.file? q := by
  obtain ⟨place, leads, noDirectory, rfl⟩ := write_ok h
  refine ⟨place, leads, ?_, fun q other => ?_⟩
  · rw [file?, find?_set noDirectory, if_pos rfl]
  · rw [file?, find?_set noDirectory, if_neg other, file?]

/-- Files are written one after another, each by its path and its bytes. -/
inductive Writes : Tree → List (Path × List UInt8) → Tree → Prop
  | nil (tree : Tree) : Writes tree [] tree
  | cons {tree next after : Tree} {file : Path × List UInt8} {files : List (Path × List UInt8)}
      (written : tree.write file.1 file.2 = .ok next) (rest : Writes next files after) :
      Writes tree (file :: files) after

/-- The file stands where its path leads. -/
def Stands (tree : Tree) (file : Path × List UInt8) : Prop :=
  ∃ place, tree.place file.1 = .ok place ∧ tree.file? place = some file.2

/-- No two of the paths lead to one place. -/
def Apart (tree : Tree) (files : List (Path × List UInt8)) : Prop :=
  files.Pairwise fun f g => tree.place f.1 ≠ tree.place g.1

/-- Each of the files stands at a place of its own, and no other file has changed. -/
def Exactly (before after : Tree) (files : List (Path × List UInt8)) : Prop :=
  ∃ places : List (List String),
    List.Forall₂ (fun f place => after.place f.1 = .ok place ∧ after.file? place = some f.2)
      files places ∧
    places.Nodup ∧ ∀ q, q ∉ places → after.file? q = before.file? q

theorem Exactly.of_sameFiles {files : List (Path × List UInt8)} (same : SameFiles tree made)
    (h : Exactly made after files) : Exactly tree after files := by
  obtain ⟨places, stand, distinct, others⟩ := h
  exact ⟨places, stand, distinct, fun q other => (others q other).trans (same q)⟩

theorem apart_iff_nodup {files : List (Path × List UInt8)} {places : List (List String)}
    (lead : List.Forall₂ (fun f place => tree.place f.1 = .ok place) files places) :
    Apart tree files ↔ places.Nodup := by
  have mapped : files.map (fun f => tree.place f.1) = places.map .ok := by
    induction lead with
    | nil => rfl
    | cons leads _ ih => rw [List.map_cons, List.map_cons, leads, ih]
  have injective : Function.Injective (Except.ok : List String → Except FileFault (List String)) :=
    fun _ _ => Except.ok.inj
  rw [← List.nodup_map_iff injective, ← mapped, List.Nodup, List.pairwise_map]
  rfl

namespace Writes

variable {files written unwritten : List (Path × List UInt8)} {file : Path × List UInt8}
  {e : Failure}

theorem of_append (h : Writes tree (written ++ unwritten) after) :
    ∃ between, Writes tree written between ∧ Writes between unwritten after := by
  induction written generalizing tree with
  | nil => exact ⟨tree, .nil tree, h⟩
  | cons first written ih =>
    cases h with
    | cons wrote rest =>
      obtain ⟨between, before, behind⟩ := ih rest
      exact ⟨between, .cons wrote before, behind⟩

theorem unique (h : Writes tree files made) (h' : Writes tree files after) : made = after := by
  induction h with
  | nil =>
    cases h'
    rfl
  | cons wrote _ ih =>
    cases h' with
    | cons wrote' rest =>
      cases wrote.symm.trans wrote'
      exact ih rest

/-- If all files are written, then so is the next one after some of them. -/
theorem not_fails (h : Writes tree written made)
    (all : Writes tree (written ++ file :: unwritten) after) :
    made.write file.1 file.2 ≠ .error e := by
  obtain ⟨between, before, behind⟩ := all.of_append
  obtain rfl := h.unique before
  cases behind with
  | cons wrote _ => exact fun fails => nomatch wrote.symm.trans fails

/-- There is one first file that cannot be written. -/
theorem unique_failure {written' unwritten' : List (Path × List UInt8)}
    {file' : Path × List UInt8} {e' : Failure} (h : Writes tree written made)
    (h' : Writes tree written' after) (fails : made.write file.1 file.2 = .error e)
    (fails' : after.write file'.1 file'.2 = .error e')
    (split : written ++ file :: unwritten = written' ++ file' :: unwritten') :
    written = written' ∧ made = after := by
  suffices same : written = written' from ⟨same, h.unique (same ▸ h')⟩
  -- a failure inside the other list of written files would have ended that list
  rcases List.append_eq_append_iff.mp split with ⟨more, rfl, rest⟩ | ⟨more, rfl, rest⟩
  · cases more with
    | nil => exact (List.append_nil _).symm
    | cons first more =>
      cases rest
      exact absurd fails (h.not_fails h')
  · cases more with
    | nil => exact List.append_nil _
    | cons first more =>
      cases rest
      exact absurd fails' (h'.not_fails h)

theorem sameDirectories (h : Writes tree files after) : SameDirectories tree after := by
  induction h with
  | nil => exact fun _ => Iff.rfl
  | cons written _ ih => exact fun q => (sameDirectories_write written q).trans (ih q)

theorem exists_places (h : Writes tree files after) :
    ∃ places, List.Forall₂ (fun f place => tree.place f.1 = .ok place) files places := by
  induction h with
  | nil => exact ⟨[], .nil⟩
  | cons written _ ih =>
    obtain ⟨place, leads, _⟩ := file?_write written
    obtain ⟨places, lead⟩ := ih
    have same := sameDirectories_write written
    exact ⟨place :: places,
      .cons leads (lead.imp fun _ _ => (place_iff_of_sameDirectories same).mpr)⟩

/-- What stands at a place is the file that stood there, or one that was written there. -/
theorem file?_cases (h : Writes tree files after) (q : List String) :
    after.file? q = tree.file? q ∨
      ∃ f ∈ files, tree.place f.1 = .ok q ∧ after.file? q = some f.2 := by
  induction h with
  | nil => exact .inl rfl
  | cons written _ ih =>
    obtain ⟨place, leads, here, others⟩ := file?_write written
    rcases ih with unchanged | ⟨f, mem, leadsHere, now⟩
    · by_cases same : q = place
      · exact .inr ⟨_, List.mem_cons_self, same ▸ leads, by rw [unchanged, same, here]⟩
      · exact .inl (unchanged.trans (others q same))
    · have same := sameDirectories_write written
      exact .inr ⟨f, List.mem_cons_of_mem _ mem,
        (place_iff_of_sameDirectories same).mpr leadsHere, now⟩

/-- Of files written to places apart, each stays. -/
theorem stands (h : Writes tree files after) (apart : Apart tree files) :
    ∀ f ∈ files, ∀ place, tree.place f.1 = .ok place → after.file? place = some f.2 := by
  induction h with
  | nil => exact fun _ mem => absurd mem List.not_mem_nil
  | @cons tree next _ file files written rest ih =>
    obtain ⟨first, others⟩ := List.pairwise_cons.mp apart
    have same := sameDirectories_write written
    have restApart : Apart next files := by
      obtain ⟨places, lead⟩ := rest.exists_places
      refine (apart_iff_nodup lead).mpr ((apart_iff_nodup ?_).mp others)
      exact lead.imp fun _ _ => (place_iff_of_sameDirectories same).mpr
    intro f mem place leads
    rcases List.mem_cons.mp mem with rfl | mem
    · obtain ⟨place', leads', here, _⟩ := file?_write written
      obtain rfl := Except.ok.inj (leads.symm.trans leads')
      rcases rest.file?_cases place with unchanged | ⟨g, memG, leadsHere, _⟩
      · exact unchanged.trans here
      · have again := (place_iff_of_sameDirectories same).mpr leadsHere
        exact absurd (leads.trans again.symm) (first g memG)
    · exact ih restApart f mem place ((place_iff_of_sameDirectories same).mp leads)

/-- Just the written files have changed, each at its own place, exactly if the places differ. -/
theorem exactly_iff (h : Writes tree files after) : Exactly tree after files ↔ Apart tree files := by
  have same := h.sameDirectories
  constructor
  · rintro ⟨places, stand, distinct, _⟩
    refine (apart_iff_nodup (stand.imp fun _ _ here => ?_)).mpr distinct
    exact (place_iff_of_sameDirectories same).mpr here.1
  · intro apart
    obtain ⟨places, lead⟩ := h.exists_places
    have each := h.stands apart
    refine ⟨places, ?_, (apart_iff_nodup lead).mp apart, fun q other => ?_⟩
    · refine ((List.forall₂_and_left files places).mpr ⟨each, lead⟩).imp ?_
      rintro f place ⟨stays, leads⟩
      exact ⟨place_of_sameDirectories same leads, stays place leads⟩
    · rcases h.file?_cases q with unchanged | ⟨f, mem, leads, _⟩
      · exact unchanged
      · obtain ⟨place, memPlace, leads'⟩ := exists_of_forall₂ lead.flip mem
        obtain rfl := Except.ok.inj (leads'.symm.trans leads)
        exact absurd memPlace other

/-- No file has changed exactly if each written file that stays stood there before. -/
theorem sameFiles_iff (h : Writes tree files after) :
    SameFiles tree after ↔ ∀ f ∈ files, Stands after f → Stands tree f := by
  have same := h.sameDirectories
  constructor
  · rintro unchanged f _ ⟨place, leads, here⟩
    exact ⟨place, (place_iff_of_sameDirectories same).mpr leads, unchanged place ▸ here⟩
  · intro before q
    rcases h.file?_cases q with unchanged | ⟨f, mem, leads, here⟩
    · exact unchanged
    · obtain ⟨place, leads', stood⟩ := before f mem ⟨q, place_of_sameDirectories same leads, here⟩
      obtain rfl := Except.ok.inj (leads.symm.trans leads')
      exact here.trans stood.symm

end Writes

end SqlBindings.Files.Tree
