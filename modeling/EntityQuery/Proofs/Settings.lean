import EntityQuery.Proofs.Except
import EntityQuery.Settings

/-!
# Settings that pass

The conditions on settings are checked one after the other, and all of them have
to be met.  The defaults meet them.
-/

namespace EntityQuery

/-- Settings pass if they meet every condition. -/
theorem Settings.check_eq_ok_iff {c : Settings} :
    c.check = .ok () ↔ Text.trim c.baseUrl.toList ≠ [] ∧ c.pageSize ≠ 0 ∧ c.exportPageSize ≠ 0 ∧
      c.maxSubqueryDepth ≠ 0 ∧ (∃ s, c.minimum = .ok s) ∧
        ∀ entry ∈ c.catalog.getD [], entry.2 ≠ [] := by
  simp only [check, Except.guard_bind_eq_ok_iff, Except.bind_eq_ok_iff, exists_and_right]
  -- Only the condition on the catalog is told by a search.
  iterate 5 refine and_congr_right fun _ => ?_
  cases found : (c.catalog.getD []).find? (·.2.isEmpty) with
  | none =>
    have filled := List.find?_eq_none.mp found
    simp only [List.isEmpty_iff] at filled
    exact iff_of_true rfl filled
  | some entry =>
    have empty : entry.2.isEmpty := by simpa using List.find?_some found
    refine iff_of_false nofun fun filled => ?_
    exact filled entry (List.mem_of_find?_eq_some found) (List.isEmpty_iff.mp empty)

/-- The settings where nothing is set pass. -/
theorem Settings.check_default : ({} : Settings).check = .ok () :=
  check_eq_ok_iff.mpr ⟨by decide, by decide, by decide, by decide, ⟨.warn, rfl⟩, nofun⟩

/-- Settings that only bring a catalog pass if every entry of it has fields. -/
theorem Settings.check_own_catalog {entries : List (String × List String)}
    (filled : ∀ entry ∈ entries, entry.2 ≠ []) :
    ({ catalog := some entries } : Settings).check = .ok () := by
  obtain ⟨baseUrl, size, exportSize, depth, level, -⟩ := check_eq_ok_iff.mp check_default
  refine check_eq_ok_iff.mpr ⟨baseUrl, size, exportSize, depth, ?_, filled⟩
  simpa only [minimum] using level

end EntityQuery
