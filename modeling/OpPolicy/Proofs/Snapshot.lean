import Mathlib.Data.List.Induction
import Mathlib.Data.List.Nodup
import Std.Data.HashMap.Lemmas
import Std.Data.HashSet.Lemmas
import OpPolicy.Package.Snapshot

set_option autoImplicit false

/-!
What a snapshot answers, in terms of the listing that it was built from. Taking in one app keeps all
indexes in step with the kept apps (`Snapshot.Indexed`, `Indexed.add`), so that every lookup can be
read off the apps alone, and these are the first of each name that was listed
(`Snapshot.indexes_of_listing`).
-/

namespace OpPolicy

namespace App

/-- The first app of each name, in listing order. -/
def firsts (listed : List App) : List App := listed.eraseDupsBy (·.name == ·.name)

/-- The names of the apps of one uid. -/
def namesOf (uid : Uid) (apps : List App) : List String :=
  (apps.filter (·.uid = uid)).map (·.name)

/-- The names of the apps of one category. -/
def membersOf (c : Category) (apps : List App) : List String :=
  (apps.filter (·.flags.has c)).map (·.name)

theorem namesOf_concat (uid : Uid) (apps : List App) (app : App) :
    namesOf uid (apps ++ [app]) = namesOf uid apps ++ if app.uid = uid then [app.name] else [] := by
  unfold namesOf
  split <;> simp_all

theorem membersOf_concat (c : Category) (apps : List App) (app : App) :
    membersOf c (apps ++ [app]) =
      membersOf c apps ++ if app.flags.has c then [app.name] else [] := by
  unfold membersOf
  split <;> simp_all

theorem mem_namesOf {uid : Uid} {apps : List App} {name : String} :
    name ∈ namesOf uid apps ↔ ∃ app ∈ apps, app.uid = uid ∧ app.name = name := by
  simp [namesOf, and_assoc]

theorem find?_firsts_loop (listed kept : List App) (name : String) :
    (List.eraseDupsBy.loop (·.name == ·.name) listed kept).find? (·.name == name) =
      (kept.reverse ++ listed).find? (·.name == name) := by
  induction listed generalizing kept with
  | nil => simp [List.eraseDupsBy.loop]
  | cons app listed ih =>
    rw [List.eraseDupsBy.loop]
    cases repeated : kept.any fun earlier => app.name == earlier.name with
    | false => simp [ih]
    | true =>
      simp only [ih, List.find?_append, List.find?_cons]
      cases same : app.name == name with
      | false => rfl
      | true =>
        obtain ⟨earlier, mem, eq⟩ := List.any_eq_true.mp repeated
        have found : (kept.reverse.find? (·.name == name)).isSome := by
          rw [List.find?_isSome]
          exact ⟨earlier, List.mem_reverse.mpr mem, by simp_all⟩
        rw [Option.or_of_isSome found, Option.or_of_isSome found]

/-- A repeated name leads to the app that it was first listed with. -/
theorem find?_firsts (listed : List App) (name : String) :
    (firsts listed).find? (·.name == name) = listed.find? (·.name == name) :=
  find?_firsts_loop listed [] name

end App

theorem filterMap_findIdxs {α : Type} (p : α → Bool) (l : List α) :
    (l.findIdxs p).filterMap (l[·]?) = l.filter p := by
  induction l using List.reverseRecOn with
  | nil => rfl
  | append_singleton l a ih =>
    have before : (l.findIdxs p).filterMap ((l ++ [a])[·]?) = l.filter p := by
      rw [← ih]
      refine List.filterMap_congr fun i mem => List.getElem?_append_left ?_
      exact (List.mem_findIdxs_iff_exists_getElem_pos.mp mem).choose
    rw [List.findIdxs_append, List.filterMap_append, before, List.filter_append]
    by_cases passed : p a = true <;> simp [passed]

namespace Snapshot

/-- All indexes are those of the kept apps, and no two of these have the same name. -/
structure Indexed (s : Snapshot) : Prop where
  distinct : (s.apps.toList.map (·.name)).Nodup
  byName : ∀ name, s.byName[name]? = s.apps.toList.findIdx? (·.name == name)
  byUid : ∀ uid, s.byUid[uid]? =
    if App.namesOf uid s.apps.toList = [] then none else some (App.namesOf uid s.apps.toList)
  byCategory : ∀ c, s.byCategory c = s.apps.toList.findIdxs (·.flags.has c)
  whitelist : s.whitelist = App.membersOf .whitelisted s.apps.toList
  whitelisted : ∀ name, s.whitelisted.contains name = true ↔ name ∈ s.whitelist

variable {s : Snapshot} {app : App}

theorem indexed_empty (g : Nat) : (empty g).Indexed := by
  constructor <;> simp [empty, App.namesOf, App.membersOf]

theorem toList_apps_keep (s : Snapshot) (app : App) :
    (s.keep app).apps.toList = s.apps.toList ++ [app] := by
  simp [keep]

theorem Indexed.contains_byName (h : s.Indexed) (name : String) :
    s.byName.contains name = true ↔ name ∈ s.apps.toList.map (·.name) := by
  rw [Std.HashMap.contains_eq_isSome_getElem?, h.byName, List.findIdx?_isSome]
  simp only [List.any_eq_true, beq_iff_eq, List.mem_map]

theorem Indexed.getD_byUid (h : s.Indexed) (uid : Uid) :
    s.byUid.getD uid [] = App.namesOf uid s.apps.toList := by
  rw [Std.HashMap.getD_eq_getD_getElem?, h.byUid]
  split
  · next none => exact none.symm
  · rfl

theorem Indexed.keep (h : s.Indexed) (new : app.name ∉ s.apps.toList.map (·.name)) :
    (s.keep app).Indexed where
  distinct := by
    rw [toList_apps_keep, List.map_append, List.map_singleton]
    refine List.nodup_append.mpr ⟨h.distinct, by simp, ?_⟩
    rintro earlier mem _ later rfl
    exact new (List.mem_singleton.mp later ▸ mem)
  byName name := by
    rw [toList_apps_keep, List.findIdx?_append, ← h.byName]
    by_cases same : app.name = name
    · subst same
      have absent : s.byName[app.name]? = none := by
        rw [h.byName, List.findIdx?_eq_none_iff]
        simpa using new
      simp [Snapshot.keep, absent]
    · simp [Snapshot.keep, Std.HashMap.getElem?_insert, same]
  byUid uid := by
    rw [toList_apps_keep, App.namesOf_concat]
    by_cases same : app.uid = uid
    · subst same
      simp [Snapshot.keep, h.getD_byUid]
    · simp [Snapshot.keep, Std.HashMap.getElem?_insert, same, h.byUid]
  byCategory c := by
    rw [toList_apps_keep, List.findIdxs_append, ← h.byCategory]
    by_cases has : app.flags.has c = true <;> simp [Snapshot.keep, has]
  whitelist := by
    rw [toList_apps_keep, App.membersOf_concat, ← h.whitelist]
    by_cases has : app.flags.has .whitelisted = true <;> simp [Snapshot.keep, has]
  whitelisted name := by
    have before := h.whitelisted name
    by_cases has : app.flags.has .whitelisted = true
    · simp only [Snapshot.keep, has, if_true, Std.HashSet.contains_insert, Bool.or_eq_true,
        beq_iff_eq, before, List.mem_append, List.mem_singleton]
      exact ⟨fun h => h.symm.imp_right Eq.symm, fun h => h.symm.imp_left Eq.symm⟩
    · simpa [Snapshot.keep, has] using before

theorem Indexed.add (h : s.Indexed) (app : App) : (s.add app).Indexed := by
  unfold Snapshot.add
  split
  · exact h
  · next new => exact h.keep fun mem => new ((h.contains_byName app.name).mpr mem)

theorem Indexed.foldl_add (h : s.Indexed) (listed : List App) :
    (listed.foldl Snapshot.add s).Indexed := by
  induction listed generalizing s with
  | nil => exact h
  | cons app listed ih => exact ih (h.add app)

theorem Indexed.toList_foldl_add (h : s.Indexed) (listed : List App) :
    (listed.foldl Snapshot.add s).apps.toList =
      List.eraseDupsBy.loop (·.name == ·.name) listed s.apps.toList.reverse := by
  induction listed generalizing s with
  | nil => simp [List.eraseDupsBy.loop]
  | cons app listed ih =>
    rw [List.foldl_cons, ih (h.add app), List.eraseDupsBy.loop, Snapshot.add]
    have found : (s.apps.toList.reverse.any fun kept => app.name == kept.name) =
        s.byName.contains app.name := by
      rw [Bool.eq_iff_iff, h.contains_byName, List.any_reverse, List.any_eq_true, List.mem_map]
      simp only [beq_iff_eq, eq_comm (a := app.name)]
    cases contains : s.byName.contains app.name with
    | true => simp only [found, contains, if_true]
    | false =>
      simp only [found, contains, Bool.false_eq_true, if_false, toList_apps_keep,
        List.reverse_concat]

theorem indexed_build (g : Nat) (listed : List App) : (build g listed).Indexed :=
  (indexed_empty g).foldl_add listed

theorem toList_apps_build (g : Nat) (listed : List App) :
    (build g listed).apps.toList = App.firsts listed :=
  (indexed_empty g).toList_foldl_add listed

namespace Indexed

theorem app?_eq (h : s.Indexed) (name : String) :
    s.app? name = s.apps.toList.find? (·.name == name) := by
  rw [List.find?_eq_bind_findIdx?_getElem?, ← h.byName]
  simp only [app?, Array.getElem?_toList]

theorem byName_lt (h : s.Indexed) {name : String} {i : Nat} (at' : s.byName[name]? = some i) :
    i < s.apps.size := by
  rw [h.byName, List.findIdx?_eq_some_iff_getElem] at at'
  obtain ⟨lt, -⟩ := at'
  simpa using lt

theorem byCategory_lt (h : s.Indexed) {c : Category} {i : Nat} (mem : i ∈ s.byCategory c) :
    i < s.apps.size := by
  rw [h.byCategory, List.mem_findIdxs_iff_exists_getElem_pos] at mem
  obtain ⟨lt, -⟩ := mem
  simpa using lt

theorem mem_namesForUid? (h : s.Indexed) {name : String} {uid : Uid} :
    (∃ names, s.namesForUid? uid = some names ∧ name ∈ names) ↔
      name ∈ App.namesOf uid s.apps.toList := by
  rw [namesForUid?, h.byUid]
  split
  · next none => simp [none]
  · simp

/-- Positions that were noted for a category lead to its members and nothing else. -/
theorem category_eq (h : s.Indexed) (c : Category) :
    s.category c = s.apps.toList.filter (·.flags.has c) := by
  rw [category, h.byCategory]
  simp only [← Array.getElem?_toList]
  exact filterMap_findIdxs _ _

/-- Names are distinct, so that a name has the uid under which it is found. -/
theorem uidFor?_eq_some_iff (h : s.Indexed) {name : String} {uid : Uid} :
    s.uidFor? name = some uid ↔ name ∈ App.namesOf uid s.apps.toList := by
  rw [uidFor?, h.app?_eq, Option.map_eq_some_iff, App.mem_namesOf]
  constructor
  · rintro ⟨app, found, rfl⟩
    exact ⟨app, List.mem_of_find?_eq_some found, rfl, by simpa using List.find?_some found⟩
  · rintro ⟨app, mem, rfl, rfl⟩
    obtain ⟨other, found⟩ : ∃ other, s.apps.toList.find? (·.name == app.name) = some other :=
      Option.isSome_iff_exists.mp (List.find?_isSome.mpr ⟨app, mem, by simp⟩)
    have same : other.name = app.name := by simpa using List.find?_some found
    obtain rfl := List.inj_on_of_nodup_map h.distinct (List.mem_of_find?_eq_some found) mem same
    exact ⟨other, found, rfl⟩

end Indexed

theorem categoryOf_single (s : Snapshot) (c : Category) :
    s.categoryOf (.single c) = s.category c := by
  have only : (Flags.single c).only? = some c := by cases c <;> decide
  rw [categoryOf, only]

/-- The apps of a snapshot are the first of each name listed, and every lookup agrees with them. -/
theorem indexes_of_listing (g : Nat) (listed : List App) :
    let s := build g listed
    let apps := App.firsts listed
    s.apps.toList = apps ∧
    (∀ name, s.app? name = listed.find? (·.name == name)) ∧
    (∀ uid, s.namesForUid? uid =
      if App.namesOf uid apps = [] then none else some (App.namesOf uid apps)) ∧
    (∀ app ∈ apps, ∃! uid, ∃ names, s.namesForUid? uid = some names ∧ app.name ∈ names) ∧
    (∀ name uid, s.uidFor? name = some uid ↔
      ∃ names, s.namesForUid? uid = some names ∧ name ∈ names) ∧
    (∀ c, s.categoryOf (.single c) = apps.filter (·.flags.has c)) ∧
    s.whitelist = App.membersOf .whitelisted apps ∧
    (∀ name, s.isWhitelisted name = true ↔ name ∈ s.whitelist) ∧
    (∀ (name : String) (i : Nat), s.byName[name]? = some i → i < s.apps.size) ∧
    ∀ c, ∀ i ∈ s.byCategory c, i < s.apps.size := by
  intro s apps
  have h : s.Indexed := indexed_build g listed
  have kept : s.apps.toList = apps := toList_apps_build g listed
  refine ⟨kept, ?_, ?_, ?_, ?_, ?_, ?_, ?_, fun name i => h.byName_lt, fun c i => h.byCategory_lt⟩
  · intro name
    rw [h.app?_eq, kept, App.find?_firsts]
  · exact fun uid => kept ▸ h.byUid uid
  · intro app mem
    have own : app.name ∈ App.namesOf app.uid s.apps.toList :=
      App.mem_namesOf.mpr ⟨app, kept ▸ mem, rfl, rfl⟩
    refine ⟨app.uid, h.mem_namesForUid?.mpr own, fun uid under => ?_⟩
    have other := h.uidFor?_eq_some_iff.mpr (h.mem_namesForUid?.mp under)
    exact Option.some.inj (other.symm.trans (h.uidFor?_eq_some_iff.mpr own))
  · exact fun name uid => h.uidFor?_eq_some_iff.trans h.mem_namesForUid?.symm
  · intro c
    rw [categoryOf_single, h.category_eq, kept]
  · rw [h.whitelist, kept]
  · exact h.whitelisted

end Snapshot

end OpPolicy
