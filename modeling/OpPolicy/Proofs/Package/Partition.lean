import OpPolicy.Package.Setup
import OpPolicy.Proofs.Cache.Reference
import OpPolicy.Proofs.Package.Installed
import OpPolicy.Proofs.Package.Listing

set_option autoImplicit false

/-!
The device's packages, told apart by two listings, by their uids and by two lists of names. The
categories of an app are read off these alone (`Listing.classified_app`). A cache over the device
answers every question from the same listing (`Listing.play_survey`), and so its system packages and
its user packages make up all of its packages, whatever the device printed
(`Listing.system_and_user_partition`).
-/

namespace OpPolicy

theorem Allowlist.allows_eq_true_iff {a : Allowlist} {name : String} :
    a.allows name = true ↔ name ∈ a.names := by
  unfold allows
  exact List.contains_iff_mem

theorem Flags.has_single_eq_true_iff {c d : Category} : (single c).has d = true ↔ d = c := by
  rw [has_single, decide_eq_true_iff, eq_comm]

theorem App.firsts_subset (listed : List App) : firsts listed ⊆ listed := by
  unfold firsts
  -- what is left after the first app is shorter, but no tail
  induction length : listed.length using Nat.strong_induction_on generalizing listed with
  | _ n ih =>
    cases listed with
    | nil => exact List.nil_subset _
    | cons app listed =>
      have fewer : (listed.filter fun other => decide ((other.name == app.name) = false)).length <
          n := by
        rw [← length, List.length_cons]
        exact Nat.lt_succ_of_le (List.length_filter_le _ _)
      rw [List.eraseDupsBy_cons]
      apply List.cons_subset_cons
      exact List.Subset.trans (ih _ fewer _ rfl) (List.filter_subset_self _)

namespace Listing

section Categories

/-- The listing of system packages gives the name. -/
def NamesSystem (text : List Char) (name : String) : Prop :=
  ∃ line ∈ Text.lines text, ∃ own ≠ [],
    Text.trim line = "package:".toList ++ own ∧ String.ofList own = name

/-- An app has exactly the categories that the listing of system packages, its uid and the lists
give it. -/
structure Classified (lists : Lists) (system : List Char) (app : App) : Prop where
  either : app.flags.has .user = !app.flags.has .system
  system : app.flags.has .system = true ↔ NamesSystem system app.name
  systemUid : app.flags.has .systemUid = true ↔ app.uid = 1000
  systemPhone : app.flags.has .systemPhone = true ↔ app.uid = 1001
  systemMedia : app.flags.has .systemMedia = true ↔ app.uid = 1013
  webViewProvider : app.flags.has .webViewProvider = true ↔ app.name ∈ lists.webViewProviders.names
  whitelisted : app.flags.has .whitelisted = true ↔ app.name ∈ lists.whitelist.names

theorem mem_systemNames {text : List Char} {name : String} :
    name ∈ systemNames text ↔ NamesSystem text name := by
  unfold systemNames NamesSystem
  rw [List.mem_filterMap]
  refine exists_congr fun line => and_congr_right fun _ => ?_
  constructor
  · intro given
    split at given
    · cases given
    · next own titled =>
      split at given
      · cases given
      · next filled =>
        rw [List.isPrefixOf?_eq_some_iff_append_eq] at titled
        exact ⟨own, filled, titled.symm, Option.some.inj given⟩
  · rintro ⟨own, filled, titled, rfl⟩
    rw [titled, List.isPrefixOf?_eq_some_iff_append_eq.mpr rfl]
    simp only [filled, if_false]

theorem has_uidFlags (uid : Uid) (c : Category) : (uidFlags uid).has c =
    match c with
    | .systemUid => decide (uid = 1000)
    | .systemPhone => decide (uid = 1001)
    | .systemMedia => decide (uid = 1013)
    | _ => false := by
  unfold uidFlags
  by_cases own : uid = 1000
  · subst own
    cases c <;> decide
  by_cases phone : uid = 1001
  · subst phone
    cases c <;> decide
  by_cases media : uid = 1013
  · subst media
    cases c <;> decide
  simp only [own, phone, media, if_false, Flags.has_empty, decide_false]
  cases c <;> rfl

theorem has_classify (lists : Lists) (system : List String) (name : String) (uid : Uid)
    (c : Category) : (classify lists system name uid).has c =
      match c with
      | .user => !system.contains name
      | .system => system.contains name
      | .systemUid => decide (uid = 1000)
      | .systemPhone => decide (uid = 1001)
      | .systemMedia => decide (uid = 1013)
      | .webViewProvider => lists.webViewProviders.allows name
      | .whitelisted => lists.whitelist.allows name := by
  unfold classify
  simp only [Flags.has_union, has_uidFlags]
  cases system.contains name <;> cases lists.webViewProviders.allows name <;>
    cases lists.whitelist.allows name <;> cases c <;> simp [Flags.has_single]

theorem classified_app (lists : Lists) (system : List Char) (e : Entry) :
    Classified lists system (e.app lists (systemNames system)) := by
  have has (c : Category) : (e.app lists (systemNames system)).flags.has c = _ :=
    has_classify lists (systemNames system) (String.ofList e.name) e.uid c
  constructor
  · rw [has, has]
  · rw [has]
    exact List.contains_iff_mem.trans mem_systemNames
  · rw [has]
    exact decide_eq_true_iff
  · rw [has]
    exact decide_eq_true_iff
  · rw [has]
    exact decide_eq_true_iff
  · rw [has]
    exact Allowlist.allows_eq_true_iff
  · rw [has]
    exact Allowlist.allows_eq_true_iff

end Categories

section Snapshots
variable {lists : Lists} {system : List Char} {apps : List App}

theorem classified_of_mem (classified : ∀ app ∈ apps, Classified lists system app) {g : Nat}
    {app : App} (mem : app ∈ (Snapshot.build g apps).apps.toList) :
    Classified lists system app := by
  apply classified
  rw [Snapshot.toList_apps_build] at mem
  exact App.firsts_subset apps mem

/-- Of classified apps, the system's and the user's are all there are, each once. -/
theorem perm_system_user (classified : ∀ app ∈ apps, Classified lists system app) (g : Nat) :
    let s := Snapshot.build g apps
    (s.installed (.single .system)).Disjoint (s.installed (.single .user)) ∧
      (s.installed (.single .system) ++ s.installed (.single .user)).Perm s.apps.toList := by
  intro s
  have h : s.Indexed := Snapshot.indexed_build g apps
  have disjoint : (s.installed (.single .system)).Disjoint (s.installed (.single .user)) := by
    intro app isSystem isUser
    simp only [h.mem_installed, Flags.has_single_eq_true_iff, exists_eq_left] at isSystem isUser
    have either := (classified_of_mem classified isSystem.1).either
    simp [isSystem.2, isUser.2] at either
  refine ⟨disjoint, ?_⟩
  have once := List.nodup_append'.mpr ⟨h.nodup_installed _, h.nodup_installed _, disjoint⟩
  rw [List.perm_ext_iff_of_nodup once h.nodup_apps]
  intro app
  simp only [List.mem_append, h.mem_installed, Flags.has_single_eq_true_iff, exists_eq_left,
    ← and_or_left, and_iff_left_iff_imp]
  intro mem
  have either := (classified_of_mem classified mem).either
  cases isSystem : app.flags.has .system with
  | false => simpa [isSystem] using either
  | true => simp

/-- No classified app is without a category. -/
theorem perm_all (classified : ∀ app ∈ apps, Classified lists system app) (g : Nat) :
    let s := Snapshot.build g apps
    (s.installed .all).Perm s.apps.toList := by
  intro s
  have h : s.Indexed := Snapshot.indexed_build g apps
  rw [List.perm_ext_iff_of_nodup (h.nodup_installed _) h.nodup_apps]
  intro app
  simp only [h.mem_installed, Flags.has_all, true_and, and_iff_left_iff_imp]
  intro mem
  have either := (classified_of_mem classified mem).either
  cases isSystem : app.flags.has .system with
  | false => exact ⟨.user, by simpa [isSystem] using either⟩
  | true => exact ⟨.system, isSystem⟩

theorem whitelist_build (classified : ∀ app ∈ apps, Classified lists system app) (g : Nat) :
    let s := Snapshot.build g apps
    s.whitelist = (s.apps.toList.map (·.name)).filter lists.whitelist.allows := by
  intro s
  have h : s.Indexed := Snapshot.indexed_build g apps
  rw [h.whitelist, App.membersOf, List.filter_map]
  congr 1
  apply List.filter_congr
  intro app mem
  rw [Bool.eq_iff_iff, (classified_of_mem classified mem).whitelisted]
  exact Allowlist.allows_eq_true_iff.symm

end Snapshots

end Listing

section Questions
variable {ι σ : Type} (answer : ι → σ → Listing.Report × σ)

/-- A machine that is valid answers whatever it is asked without another listing. -/
theorem Reference.play_queries (m : Reference ι) {apps : List App} (valid : m.valid = some apps)
    (w : σ) (qs : List Query) :
    (interface.transcript m (qs.map .query)).play answer w =
      ⟨qs.map fun q => ⟨.query q, .ok (q.reply (.build 0 apps)), true, m.listings⟩, w, [], []⟩ := by
  induction qs with
  | nil => rfl
  | cons q qs ih =>
    have step : interface.perform m (.query q) =
        .done (.ok (q.reply (.build 0 apps)), m) := by
      simp only [interface, perform, read, valid]
      rfl
    have shown : interface.valid m = true := by
      simp only [interface, valid]
      rfl
    rw [List.map_cons, Interface.transcript, step, Dialogue.done_bind, Dialogue.play_bind, ih]
    simp only [shown, Dialogue.play]
    rfl

/-- The first question to a machine that was just started asks for a listing. -/
theorem Reference.play_first (i : ι) (w : σ) (q : Query) (commands : List (Command ι)) :
    let l := (answer i w).1
    let m : Reference ι := rebuilt { bound := some i } l
    let p := (interface.transcript m commands).play answer (answer i w).2
    (interface.transcript {} (.start i :: .query q :: commands)).play answer w =
      ⟨⟨.start i, (), false, 0⟩ :: ⟨.query q, (l.outcome.mapError Error.intoProvider).map
        fun apps => q.reply (.build 0 apps), m.valid.isSome, 1⟩ :: p.value,
        p.world, p.log, i :: p.asked⟩ := by
  intro l m p
  have start : interface.perform {} (.start i) =
      .done ((), ({ bound := some i } : Reference ι)) := rfl
  have query : interface.perform { bound := some i } (.query q) = .ask i fun l =>
      .done ((l.outcome.mapError Error.intoProvider).map fun apps => q.reply (.build 0 apps),
        rebuilt { bound := some i } l) := rfl
  simp only [Interface.transcript, start, query, Dialogue.ask_bind, Dialogue.done_bind,
    Dialogue.play, Dialogue.play_bind, List.append_nil]
  rfl

end Questions

namespace Listing

section Device
variable (lists : Lists) {σ : Type} (device : String → σ → Reply × σ) (w : σ)

/-- Ask a new cache over the device's packages one question after another. -/
def survey (qs : List Query) : Shell (List (OpPolicy.Entry Unit)) :=
  (Cache.interface.transcript .new (.start () :: qs.map .query)).through fun _ => report lists

theorem play_survey (qs : List Query) :
    let p := (survey lists qs).play device w
    let r := (Reference.interface.transcript {} (.start () :: qs.map .query)).play
      (Dialogue.answersBy (fun _ => report lists) device) (w, [])
    p.value = r.value ∧ p.asked = r.world.2 := by
  obtain ⟨value, world, -⟩ := Cache.refines_reference (.start () :: qs.map .query)
    (Dialogue.answersBy (fun _ : Unit => report lists) device) (w, [])
  obtain ⟨value', -, asked⟩ := Dialogue.play_through (fun _ : Unit => report lists) device
    (Cache.interface.transcript .new (.start () :: qs.map .query)) w []
  exact ⟨value'.trans value, asked.trans (congrArg Prod.snd world)⟩

theorem answersBy_report : Dialogue.answersBy (fun _ : Unit => report lists) device () (w, []) =
    let l := (fetch lists).play device w
    (⟨l.value, 0⟩, l.world, l.asked) := by
  simp only [Dialogue.answersBy, report, Dialogue.play_bind, Dialogue.play, List.nil_append,
    List.append_nil]

/-- Whatever is asked of a new cache comes from one listing, if the device can make it. -/
theorem survey_of_ok {apps : List App} (listed : ((fetch lists).play device w).value = .ok apps)
    (qs : List Query) :
    ((survey lists qs).play device w).value = ⟨.start (), (), false, 0⟩ ::
        (qs.map fun q => ⟨.query q, .ok (q.reply (.build 0 apps)), true, 1⟩) ∧
      ((survey lists qs).play device w).asked =
        if qs = [] then [] else ((fetch lists).play device w).asked := by
  obtain ⟨value, asked⟩ := play_survey lists device w qs
  rw [value, asked]
  cases qs with
  | nil => exact ⟨rfl, rfl⟩
  | cons q qs =>
    have valid : (Reference.rebuilt { bound := some () } ⟨.ok apps, 0⟩ : Reference Unit).valid =
        some apps := rfl
    rw [List.map_cons, Reference.play_first, answersBy_report]
    simp only [listed, Reference.play_queries _ _ valid]
    exact ⟨rfl, rfl⟩

theorem survey_of_error {e : Error} (failed : ((fetch lists).play device w).value = .error e)
    (q : Query) : ((survey lists [q]).play device w).value =
      [⟨.start (), (), false, 0⟩, ⟨.query q, .error e.intoProvider, false, 1⟩] := by
  obtain ⟨value, -⟩ := play_survey lists device w [q]
  rw [value, List.map_singleton, Reference.play_first, answersBy_report]
  simp only [failed]
  rfl

end Device

/-- Whatever the device prints, its packages are those that the lines of the full listing are on.
Each belongs to the system or to the user, as the listing of system packages says, and has the other
categories that its uid and the lists give it. So a cache over the device has the system's packages
and the user's apart, and both together are all packages, each once. If a listing fails, that is a
failure of the inventory, and nothing is listed after it. -/
theorem system_and_user_partition (lists : Lists) {σ : Type} (device : String → σ → Reply × σ)
    (w : σ) :
    let first := device "pm list packages -s" w
    let second := device "pm list packages -f -U" first.2
    let inventory := (fetch lists).play device w
    let answers (qs : List Query) := (survey lists qs).play device w
    (∀ e, Shell.checkedReply first.1 = .error e →
      inventory.value = .error e.intoProvider ∧ inventory.asked = ["pm list packages -s"] ∧
      ∀ q, (answers [q]).value =
        [⟨.start (), (), false, 0⟩, ⟨.query q, .error e.intoProvider, false, 1⟩]) ∧
    (∀ system e, Shell.checkedReply first.1 = .ok system →
      Shell.checkedReply second.1 = .error e →
      inventory.value = .error e.intoProvider ∧
      inventory.asked = ["pm list packages -s", "pm list packages -f -U"] ∧
      ∀ q, (answers [q]).value =
        [⟨.start (), (), false, 0⟩, ⟨.query q, .error e.intoProvider, false, 1⟩]) ∧
    ∀ system full, Shell.checkedReply first.1 = .ok system →
      Shell.checkedReply second.1 = .ok full →
      ∃ apps, inventory.value = .ok apps ∧
        inventory.asked = ["pm list packages -s", "pm list packages -f -U"] ∧
        (∀ es, Reads (Text.lines (Utf8.lossy full.stdout)) es ↔
          es = entries (Utf8.lossy full.stdout)) ∧
        apps.map (fun app => (app.name.toList, app.uid)) =
          (entries (Utf8.lossy full.stdout)).map (fun e => (e.name, e.uid)) ∧
        (∀ app ∈ apps, Classified lists (Utf8.lossy system.stdout) app) ∧
        let s := Snapshot.build 0 apps
        (∀ qs, (answers qs).value = ⟨.start (), (), false, 0⟩ ::
            (qs.map fun q => ⟨.query q, .ok (q.reply s), true, 1⟩) ∧
          (answers qs).asked = if qs = [] then [] else inventory.asked) ∧
        (s.installed (.single .system)).Disjoint (s.installed (.single .user)) ∧
        (s.installed (.single .system) ++ s.installed (.single .user)).Perm s.apps.toList ∧
        (s.apps.toList.map (·.name)).Nodup ∧
        (s.installed .all).Perm s.apps.toList ∧
        s.whitelist = (s.apps.toList.map (·.name)).filter lists.whitelist.allows := by
  intro first second inventory answers
  refine ⟨fun e failed => ?_, fun system e listed failed => ?_, ?_⟩
  · obtain ⟨value, asked⟩ := fetch_of_system_failed lists device w failed
    refine ⟨value, asked, fun q => ?_⟩
    rw [← e.intoProvider_intoProvider]
    exact survey_of_error lists device w value q
  · obtain ⟨value, asked⟩ := fetch_of_full_failed lists device w listed failed
    refine ⟨value, asked, fun q => ?_⟩
    rw [← e.intoProvider_intoProvider]
    exact survey_of_error lists device w value q
  · intro system full listed listed'
    obtain ⟨value, asked⟩ := fetch_of_listed lists device w listed listed'
    have classified : ∀ app ∈ (entries (Utf8.lossy full.stdout)).map
        (Entry.app lists (systemNames (Utf8.lossy system.stdout))),
        Classified lists (Utf8.lossy system.stdout) app := by
      intro app mem
      obtain ⟨e, -, rfl⟩ := List.mem_map.mp mem
      exact classified_app lists (Utf8.lossy system.stdout) e
    obtain ⟨disjoint, perm⟩ := perm_system_user classified 0
    refine ⟨_, value, asked, fun _ => reads_lines_iff, map_app lists _ _, classified,
      survey_of_ok lists device w value, disjoint, perm, (Snapshot.indexed_build 0 _).distinct,
      perm_all classified 0, whitelist_build classified 0⟩

end Listing

end OpPolicy
