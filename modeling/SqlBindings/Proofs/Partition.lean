import SqlBindings.Proofs.Buckets
import SqlBindings.Proofs.Grouping

namespace SqlBindings.Bundle

/-- The entries in the order of a key, and those of one key in the order in which they came. -/
structure StablySorted {α : Type} (key : α → String) (entries sorted : List α) : Prop where
  perm : sorted.Perm entries
  ordered : sorted.Pairwise fun a b => key a ≤ key b
  stable : ∀ k, sorted.filter (key · == k) = entries.filter (key · == k)

theorem sortOn_stablySorted {α : Type} (key : α → String) (xs : List α) :
    StablySorted key xs (sortOn key xs) :=
  ⟨sortOn_perm key xs, sortOn_pairwise key xs, filter_sortOn key xs⟩

section

variable (T : List TableType) (P F G : List Command)

/-- A category of all bundles, one after another, has the same parts as the objects it is made of. -/
theorem sortOn_filter_flatMap {α : Type} {schemaOf name : α → String} {category : Bundle → List α}
    {entries : List α}
    (parts : ∀ s, category (ofSchema T P F G s) = sortOn name (entries.filter (schemaOf · == s)))
    {s : String} (occurs : s ∈ schemas T P F G) :
    sortOn name (((group T P F G).flatMap category).filter (schemaOf · == s)) =
      sortOn name (entries.filter (schemaOf · == s)) := by
  have keyed (s : String) : ∀ x ∈ category (ofSchema T P F G s), schemaOf x = s := by
    intro x hx
    rw [parts, mem_sortOn] at hx
    exact beq_iff_eq.mp (List.mem_filter.mp hx).2
  have distinct : (sortOn id (schemas T P F G)).Nodup :=
    (sortOn_perm id _).symm.nodup (schemas_nodup T P F G)
  rw [group, List.flatMap_map, filter_flatMap_parts keyed distinct (mem_sortOn.mpr occurs), parts,
    sortOn_sortOn]

theorem schemas_regrouped :
    sortOn id (schemas ((group T P F G).flatMap tableTypes)
      ((group T P F G).flatMap storedProcedures) ((group T P F G).flatMap functions)
      ((group T P F G).flatMap tableGetters)) = sortOn id (schemas T P F G) := by
  have perm : (schemas ((group T P F G).flatMap tableTypes)
      ((group T P F G).flatMap storedProcedures) ((group T P F G).flatMap functions)
      ((group T P F G).flatMap tableGetters)).Perm (schemas T P F G) := by
    refine (List.perm_ext_iff_of_nodup (schemas_nodup _ _ _ _) (schemas_nodup T P F G)).mpr ?_
    intro s
    simp only [mem_schemas, List.mem_append, (tableTypes_perm T P F G).mem_iff,
      (storedProcedures_perm T P F G).mem_iff, (functions_perm T P F G).mem_iff,
      (tableGetters_perm T P F G).mem_iff]
  exact sortOn_eq_of_perm perm (by rw [List.map_id]; exact schemas_nodup _ _ _ _)

/-- Grouping the objects of all bundles again gives the same bundles. -/
theorem group_regrouped :
    group ((group T P F G).flatMap tableTypes) ((group T P F G).flatMap storedProcedures)
      ((group T P F G).flatMap functions) ((group T P F G).flatMap tableGetters) =
      group T P F G := by
  rw [group, schemas_regrouped, group]
  refine List.map_congr_left fun s mem => ?_
  have occurs := mem_sortOn.mp mem
  rw [ofSchema, make, ofSchema, make, ← group]
  congr 1
  · exact sortOn_filter_flatMap T P F G (fun _ => rfl) occurs
  · exact sortOn_filter_flatMap T P F G (fun _ => rfl) occurs
  · exact sortOn_filter_flatMap T P F G (fun _ => rfl) occurs
  · exact sortOn_filter_flatMap T P F G (fun _ => rfl) occurs

/-- An object together with its category. -/
inductive Member where
  | tableType (t : TableType)
  | storedProcedure (c : Command)
  | function (c : Command)
  | tableGetter (c : Command)

def Member.schema : Member → String
  | tableType t => t.schema
  | storedProcedure c | function c | tableGetter c => c.schema

/-- One category after another. -/
def members : List Member :=
  T.map .tableType ++ P.map .storedProcedure ++ F.map .function ++ G.map .tableGetter

/-- What has come of one schema. -/
structure Bucket where
  tableTypes : List TableType := []
  storedProcedures : List Command := []
  functions : List Command := []
  tableGetters : List Command := []

namespace Bucket

def add (b : Bucket) : Member → Bucket
  | .tableType t => { b with tableTypes := b.tableTypes ++ [t] }
  | .storedProcedure c => { b with storedProcedures := b.storedProcedures ++ [c] }
  | .function c => { b with functions := b.functions ++ [c] }
  | .tableGetter c => { b with tableGetters := b.tableGetters ++ [c] }

def bundle (schema : String) (b : Bucket) : Bundle :=
  make schema b.tableTypes b.storedProcedures b.functions b.tableGetters

/-- Objects of one category are appended to what there is of it. -/
theorem foldl_add_map {α : Type} (category : α → Member) (append : Bucket → List α → Bucket)
    (nil : ∀ b, append b [] = b) (cons : ∀ b x xs, append (b.add (category x)) xs = append b (x :: xs))
    (xs : List α) (b : Bucket) : (xs.map category).foldl add b = append b xs := by
  induction xs generalizing b with
  | nil => exact (nil b).symm
  | cons x xs ih => exact (ih _).trans (cons b x xs)

theorem foldl_add (b : Bucket) : (members T P F G).foldl add b =
    ⟨b.tableTypes ++ T, b.storedProcedures ++ P, b.functions ++ F, b.tableGetters ++ G⟩ := by
  have tableTypes := foldl_add_map .tableType
    (fun b T => { b with tableTypes := b.tableTypes ++ T }) (by simp) (by simp [add])
  have storedProcedures := foldl_add_map .storedProcedure
    (fun b P => { b with storedProcedures := b.storedProcedures ++ P }) (by simp) (by simp [add])
  have functions := foldl_add_map .function
    (fun b F => { b with functions := b.functions ++ F }) (by simp) (by simp [add])
  have tableGetters := foldl_add_map .tableGetter
    (fun b G => { b with tableGetters := b.tableGetters ++ G }) (by simp) (by simp [add])
  simp only [members, List.foldl_append, tableTypes, storedProcedures, functions, tableGetters]

end Bucket

theorem filter_members (s : String) : (members T P F G).filter (·.schema == s) =
    members (T.filter (·.schema == s)) (P.filter (·.schema == s)) (F.filter (·.schema == s))
      (G.filter (·.schema == s)) := by
  simp only [members, List.filter_append, List.filter_map]
  rfl

theorem schemas_eq : schemas T P F G = ((members T P F G).map Member.schema).eraseDups := by
  simp only [schemas, members, List.map_append, List.map_map, List.append_assoc]
  rfl

theorem sortOn_map_fst {β : Type} (f : String → String × β) (own : ∀ s, (f s).1 = s)
    (schemas : List String) : sortOn Prod.fst (schemas.map f) = (sortOn id schemas).map f := by
  refine (List.map_mergeSort ?_).symm
  intro s _ t _
  rw [own, own]
  rfl

/-- The bundles are what a loop over all objects puts together, in the order of the schemas. -/
theorem group_eq_foldl : group T P F G =
    (sortOn Prod.fst ((members T P F G).foldl (addTo Member.schema Bucket.add {}) [])).map
      fun bucket => bucket.2.bundle bucket.1 := by
  rw [foldl_addTo, ← schemas_eq, sortOn_map_fst _ (fun _ => rfl), List.map_map, group]
  refine List.map_congr_left ?_
  intro s _
  rw [Function.comp_apply, bucketOf, filter_members, Bucket.foldl_add]
  rfl

/-- The bundles of a collection of objects, one for each schema that occurs. -/
structure Partitions (bundles : List Bundle) : Prop where
  /-- Texts are compared code point by code point. -/
  ascending : bundles.Pairwise fun a b => a.schema < b.schema
  schemas : ∀ s, s ∈ bundles.map Bundle.schema ↔
    (∃ t ∈ T, t.schema = s) ∨ ∃ c ∈ P ++ F ++ G, c.schema = s
  tableTypes : ∀ b ∈ bundles,
    StablySorted TableType.name (T.filter (·.schema == b.schema)) b.tableTypes
  storedProcedures : ∀ b ∈ bundles,
    StablySorted Command.name (P.filter (·.schema == b.schema)) b.storedProcedures
  functions : ∀ b ∈ bundles,
    StablySorted Command.name (F.filter (·.schema == b.schema)) b.functions
  tableGetters : ∀ b ∈ bundles,
    StablySorted Command.name (G.filter (·.schema == b.schema)) b.tableGetters
  /-- A loop puts each object into the bucket of its schema. At its end the schemas are sorted. -/
  stepwise : bundles =
    (sortOn Prod.fst ((members T P F G).foldl (addTo Member.schema Bucket.add {}) [])).map
      fun bucket => bucket.2.bundle bucket.1

/-- The bundles are the parts of a collection, each category sorted by name without disturbing the
order of objects that share one, and they are the parts of what they hold together as well. -/
theorem group_partitions :
    Partitions T P F G (group T P F G) ∧
      group ((group T P F G).flatMap tableTypes) ((group T P F G).flatMap storedProcedures)
        ((group T P F G).flatMap functions) ((group T P F G).flatMap tableGetters) =
        group T P F G := by
  refine ⟨⟨group_ascending T P F G, fun s => ?_, ?_, ?_, ?_, ?_, group_eq_foldl T P F G⟩,
    group_regrouped T P F G⟩
  · rw [group_schemas, mem_sortOn, mem_schemas]
  all_goals
    intro b mem
    obtain ⟨s, _, rfl⟩ := mem_group.mp mem
    exact sortOn_stablySorted _ _

end

end SqlBindings.Bundle
