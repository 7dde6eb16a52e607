import SqlBindings.Proofs.Result
import SqlBindings.Proofs.Sorting
import SqlBindings.Render.Package

namespace SqlBindings

namespace Command

/-- A function among the commands returns something. -/
def IsCallable (c : Command) : Prop := c.kind = .function → c.returns ≠ .nothing

theorem exists_text_ok {c : Command} (h : c.IsCallable) : ∃ query, c.text = .ok query := by
  unfold text
  cases kind : c.kind with
  | storedProcedure => exact ⟨_, rfl⟩
  | function =>
    cases returns : c.returns with
    | nothing => exact absurd returns (h kind)
    | single _ _ => exact ⟨_, rfl⟩
    | table _ => exact ⟨_, rfl⟩
  | tableGetter => exact ⟨_, rfl⟩
  | rawSql _ => exact ⟨_, rfl⟩

theorem exists_render_ok {c : Command} (h : c.IsCallable) : ∃ lines, c.render = .ok lines := by
  obtain ⟨query, text⟩ := exists_text_ok h
  rw [render, text]
  exact ⟨_, rfl⟩

end Command

theorem Bundle.exists_render_ok {b : Bundle} (h : ∀ c ∈ b.commands, c.IsCallable) :
    ∃ lines, b.render = .ok lines := by
  have rendered (cs : List Command) (sub : cs ⊆ b.commands) :
      ∃ blocks, cs.mapM Command.render = .ok blocks :=
    exists_mapM_ok fun c hc => Command.exists_render_ok (h c (sub hc))
  obtain ⟨procedures, hp⟩ := rendered b.storedProcedures (by simp [commands])
  obtain ⟨functions, hf⟩ := rendered b.functions (by simp [commands])
  obtain ⟨getters, hg⟩ := rendered b.tableGetters (by simp [commands])
  rw [render, hp, hf, hg]
  exact ⟨_, rfl⟩

theorem Package.exists_ofBundles_ok {bundles : List Bundle}
    (h : ∀ b ∈ bundles, ∀ c ∈ b.commands, c.IsCallable) :
    ∃ files, ofBundles bundles = .ok files := by
  have modules : ∀ b ∈ Bundle.sortOn Bundle.schema bundles, ∃ file,
      (do return (b.schema ++ ".py", fileText (← b.render)) : Except Failure File) = .ok file := by
    intro b hb
    obtain ⟨lines, rendered⟩ := Bundle.exists_render_ok (h b (Bundle.mem_sortOn.mp hb))
    rw [rendered]
    exact ⟨_, rfl⟩
  obtain ⟨files, hfiles⟩ := exists_mapM_ok modules
  rw [ofBundles, hfiles]
  exact ⟨_, rfl⟩

end SqlBindings
