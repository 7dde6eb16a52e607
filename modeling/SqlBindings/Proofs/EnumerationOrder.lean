import SqlBindings.Proofs.ReturnedTypes

namespace SqlBindings.Introspection

open Catalog

/-- No two objects of one kind share schema and name. -/
structure Objects.Distinct (o : Objects) : Prop where
  tableTypes : (o.tableTypes.map fun t => (t.schema, t.name)).Nodup
  functions : (o.functions.map fun c => (c.schema, c.name)).Nodup
  storedProcedures : (o.storedProcedures.map fun c => (c.schema, c.name)).Nodup
  tableGetters : (o.tableGetters.map fun c => (c.schema, c.name)).Nodup

/-- The same objects, each kind in another order. -/
structure Objects.Perm (o o' : Objects) : Prop where
  tableTypes : o.tableTypes.Perm o'.tableTypes
  functions : o.functions.Perm o'.functions
  storedProcedures : o.storedProcedures.Perm o'.storedProcedures
  tableGetters : o.tableGetters.Perm o'.tableGetters

theorem Objects.Distinct.bundles_eq {o o' : Objects} (distinct : o.Distinct) (perm : o.Perm o') :
    o.bundles = o'.bundles :=
  Bundle.group_eq_of_perm perm.tableTypes perm.storedProcedures perm.functions perm.tableGetters
    distinct.tableTypes distinct.storedProcedures distinct.functions distinct.tableGetters

/-- No two entries of one list share schema and name. -/
structure Listing.Distinct (l : Listing) : Prop where
  tableTypes : (l.tableTypes.map fun t => (t.schema, t.name)).Nodup
  functions : (l.functions.map fun f => (f.schema, f.name)).Nodup
  procedures : (l.procedures.map fun p => (p.schema, p.name)).Nodup
  tables : (l.tables.map fun t => (t.schema, t.name)).Nodup

/-- The same entries, each list in another order. -/
structure Listing.Perm (l l' : Listing) : Prop where
  tableTypes : l.tableTypes.Perm l'.tableTypes
  functions : l.functions.Perm l'.functions
  procedures : l.procedures.Perm l'.procedures
  tables : l.tables.Perm l'.tables

namespace Objects.MadeFrom

variable {l : Listing} {o : Objects}

theorem distinct (h : o.MadeFrom l) (entries : l.Distinct) : o.Distinct where
  tableTypes := h.tableTypes_keys ▸ entries.tableTypes.sublist (List.filter_sublist.map _)
  functions := h.functions_keys ▸ entries.functions.sublist (List.filter_sublist.map _)
  storedProcedures :=
    h.storedProcedures_keys ▸ entries.procedures.sublist (List.filter_sublist.map _)
  tableGetters := h.tableGetters_keys ▸ entries.tables.sublist (List.filter_sublist.map _)

end Objects.MadeFrom

end SqlBindings.Introspection

namespace SqlBindings.Catalog.Memory

open Introspection

variable {m m' : Memory}

theorem exists_objects_perm (answers : ∀ q, m.answer q = m'.answer q)
    (perm : m.listing.Perm m'.listing) {o : Objects} (h : m.objects = .ok o) :
    ∃ o', m'.objects = .ok o' ∧ o.Perm o' := by
  -- a dry run is answered by name, so the order of the entries does not reach the commands
  have commands : m.command = m'.command := by
    funext p
    simp only [command, answers]
  obtain ⟨tableTypes, madeTypes, h⟩ := bind_eq_ok.mp h
  obtain ⟨functions, madeFunctions, h⟩ := bind_eq_ok.mp h
  obtain ⟨procedures, madeProcedures, h⟩ := bind_eq_ok.mp h
  obtain ⟨getters, madeGetters, h⟩ := bind_eq_ok.mp h
  cases h
  rw [commands] at madeProcedures
  obtain ⟨_, madeTypes', permTypes⟩ := mapM_perm (perm.tableTypes.filter _) madeTypes
  obtain ⟨_, madeFunctions', permFunctions⟩ := mapM_perm (perm.functions.filter _) madeFunctions
  obtain ⟨_, madeProcedures', permProcedures⟩ := mapM_perm (perm.procedures.filter _) madeProcedures
  obtain ⟨_, madeGetters', permGetters⟩ := mapM_perm (perm.tables.filter _) madeGetters
  refine ⟨⟨_, _, _, _⟩, ?_, permTypes, permFunctions, permProcedures, permGetters⟩
  simp only [listing] at madeTypes' madeFunctions' madeProcedures' madeGetters'
  simp only [objects, madeTypes', madeFunctions', madeProcedures', madeGetters', ok_bind,
    pure_eq_ok]

/-- If one catalog can be introspected, so can one that lists the same objects in another order and
answers dry runs alike. Both have the same bundles, and both packages have the same files. -/
theorem introspect_ignores_order (answers : ∀ q, m.answer q = m'.answer q)
    (perm : m.listing.Perm m'.listing) (distinct : m.listing.Distinct) {bundles : List Bundle}
    {t : Traced (List Description)} (run : (introspect m.source).start [] = (.ok bundles, t)) :
    ∃ bundles' t' files, (introspect m'.source).start [] = (.ok bundles', t') ∧
      bundles' = bundles ∧
      Package.ofBundles bundles = .ok files ∧ Package.ofBundles bundles' = .ok files := by
  obtain ⟨o, made, rfl⟩ := objects_of_introspect run
  obtain ⟨o', made', same⟩ := exists_objects_perm answers perm made
  have equal := ((objects_madeFrom made).distinct distinct).bundles_eq same
  obtain ⟨files, rendered⟩ := Package.exists_ofBundles_ok (objects_madeFrom made).isCallable
  obtain ⟨t', run', _⟩ := m'.exists_introspect_start
  rw [made'] at run'
  exact ⟨o'.bundles, t', files, run', equal.symm, rendered, equal ▸ rendered⟩

/-- The shop, listed from the other end. -/
def reversedShop : Memory where
  tableTypes := shop.tableTypes.reverse
  functions := shop.functions.reverse
  procedures := shop.procedures.reverse
  tables := shop.tables.reverse
  results := shop.results

theorem introspect_ignores_order_shop :
    shop.listing.Perm reversedShop.listing ∧ shop.listing.Distinct ∧
      ∃ bundles t, (introspect shop.source).start [] = (.ok bundles, t) ∧
        ∃ bundles' t' files, (introspect reversedShop.source).start [] = (.ok bundles', t') ∧
          bundles' = bundles ∧
          Package.ofBundles bundles = .ok files ∧ Package.ofBundles bundles' = .ok files := by
  have answers (q : String) : shop.answer q = reversedShop.answer q := rfl
  have perm : shop.listing.Perm reversedShop.listing :=
    ⟨(List.reverse_perm _).symm, (List.reverse_perm _).symm, (List.reverse_perm _).symm,
      (List.reverse_perm _).symm⟩
  have distinct : shop.listing.Distinct := ⟨by decide, by decide, by decide, by decide⟩
  obtain ⟨t, run⟩ := exists_shop_run
  exact ⟨perm, distinct, _, t, run, introspect_ignores_order answers perm distinct run⟩

end SqlBindings.Catalog.Memory
