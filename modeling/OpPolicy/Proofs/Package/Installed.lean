import OpPolicy.Proofs.Snapshot

set_option autoImplicit false

/-!
What is collected category by category. Names tell the apps of a snapshot apart, so that collecting
a category adds its members that are not there yet, in order (`collect_eq`), and the apps of some
categories are the members of any of them, each once (`Indexed.mem_installed`,
`Indexed.nodup_installed`).
-/

namespace OpPolicy

theorem Flags.mem_categories {f : Flags} {c : Category} : c ∈ f.categories ↔ f.has c = true := by
  unfold categories
  rw [List.mem_filter]
  exact and_iff_right c.mem_order

namespace Snapshot

section Collect
variable {all taken apps : List App}

theorem collect_eq (distinct : (all.map (·.name)).Nodup) (inside : taken ⊆ all) (among : apps ⊆ all)
    (nodup : apps.Nodup) : collect taken apps = taken ++ apps.filter (· ∉ taken) := by
  induction apps generalizing taken with
  | nil => simp [collect]
  | cons app apps ih =>
    obtain ⟨mem, among⟩ := List.cons_subset.mp among
    obtain ⟨new, nodup⟩ := List.nodup_cons.mp nodup
    have named : (taken.any (·.name == app.name)) = decide (app ∈ taken) := by
      rw [Bool.eq_iff_iff, List.any_eq_true, decide_eq_true_iff]
      constructor
      · rintro ⟨other, taken, same⟩
        have same : other.name = app.name := by simpa using same
        rwa [← List.inj_on_of_nodup_map distinct (inside taken) mem same]
      · intro taken
        exact ⟨app, taken, by simp⟩
    have step : collect taken (app :: apps) =
        collect (if app ∈ taken then taken else taken ++ [app]) apps := by
      unfold collect
      rw [List.foldl_cons, named]
      simp only [decide_eq_true_eq]
    rw [step]
    by_cases repeated : app ∈ taken
    · rw [if_pos repeated, ih inside among nodup]
      simp [repeated]
    · have inside : taken ++ [app] ⊆ all :=
        List.append_subset.mpr ⟨inside, List.cons_subset.mpr ⟨mem, List.nil_subset _⟩⟩
      have rest : apps.filter (· ∉ taken ++ [app]) = apps.filter (· ∉ taken) := by
        apply List.filter_congr
        intro other later
        have ne : other ≠ app := fun same => new (same ▸ later)
        simp [ne]
      rw [if_neg repeated, ih inside among nodup, rest]
      simp [repeated]

end Collect

namespace Indexed
variable {s : Snapshot}

theorem nodup_apps (h : s.Indexed) : s.apps.toList.Nodup := h.distinct.of_map

theorem nodup_category (h : s.Indexed) (c : Category) : (s.category c).Nodup := by
  rw [h.category_eq]
  exact h.nodup_apps.filter _

theorem mem_category (h : s.Indexed) {c : Category} {app : App} :
    app ∈ s.category c ↔ app ∈ s.apps.toList ∧ app.flags.has c = true := by
  rw [h.category_eq, List.mem_filter]

/-- From apps that were taken before, each once, collecting leads to these and the members of the
categories, each once. -/
theorem foldl_collect (h : s.Indexed) (cs : List Category) {taken : List App}
    (inside : taken ⊆ s.apps.toList) (nodup : taken.Nodup) :
    let found := cs.foldl (fun taken c => collect taken (s.category c)) taken
    found.Nodup ∧ ∀ app, app ∈ found ↔
      app ∈ taken ∨ app ∈ s.apps.toList ∧ ∃ c ∈ cs, app.flags.has c = true := by
  induction cs generalizing taken with
  | nil => simp [nodup]
  | cons c cs ih =>
    have among : s.category c ⊆ s.apps.toList := fun app mem => (h.mem_category.mp mem).1
    have next := collect_eq h.distinct inside among (h.nodup_category c)
    have inside : collect taken (s.category c) ⊆ s.apps.toList := by
      rw [next]
      exact List.append_subset.mpr ⟨inside, fun app mem => among (List.mem_filter.mp mem).1⟩
    have nodup : (collect taken (s.category c)).Nodup := by
      rw [next]
      refine List.nodup_append'.mpr ⟨nodup, (h.nodup_category c).filter _, ?_⟩
      intro app before later
      simpa [before] using (List.mem_filter.mp later).2
    obtain ⟨once, found⟩ := ih inside nodup
    refine ⟨once, fun app => ?_⟩
    rw [List.foldl_cons, found, next]
    simp only [List.mem_append, List.mem_filter, h.mem_category, decide_eq_true_eq,
      List.exists_mem_cons_iff]
    by_cases before : app ∈ taken <;> simp [before]
    tauto

theorem nodup_installed (h : s.Indexed) (f : Flags) : (s.installed f).Nodup :=
  (h.foldl_collect f.categories (List.nil_subset _) List.nodup_nil).1

theorem mem_installed (h : s.Indexed) {f : Flags} {app : App} : app ∈ s.installed f ↔
    app ∈ s.apps.toList ∧ ∃ c, f.has c = true ∧ app.flags.has c = true := by
  have found := (h.foldl_collect f.categories (List.nil_subset _) List.nodup_nil).2 app
  simpa [installed, Flags.mem_categories] using found

end Indexed

end Snapshot

end OpPolicy
