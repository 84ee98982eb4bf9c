import Mathlib.Data.List.Sort
import OpPolicy.Proofs.Package.Installed

set_option autoImplicit false

/-!
The order in which installed apps are listed. Sorting by a key that has few values, with ties left
as they stand, is the same as taking the members of each value in turn (`mergeSort_eq_flatMap`), and
collecting category by category takes each app in the turn of its first category that was asked for
(`Snapshot.Indexed.foldl_collect_eq_inTurn`). So the installed apps are those that share a category
with what was asked for, sorted by the first one they share (`Snapshot.installed_sorted`).
-/

namespace OpPolicy

section Keys
variable {α : Type} (key : α → Nat)

/-- Sorting keeps the members of each key in order. -/
theorem filter_mergeSort (l : List α) (k : Nat) :
    (l.mergeSort fun a b => key a ≤ key b).filter (key · = k) = l.filter (key · = k) := by
  have perm := List.mergeSort_perm l fun a b => key a ≤ key b
  have ties : (l.filter (key · = k)).Pairwise fun a b => decide (key a ≤ key b) = true := by
    refine List.Pairwise.imp_of_mem ?_ (List.pairwise_of_forall fun _ _ => trivial)
    intro a b ha hb _
    have same : key a = k := by simpa using (List.mem_filter.mp ha).2
    have same' : key b = k := by simpa using (List.mem_filter.mp hb).2
    simp [same, same']
  have kept : (l.filter (key · = k)).Sublist (l.mergeSort fun a b => key a ≤ key b) :=
    List.sublist_mergeSort (fun a b c => by simpa using Nat.le_trans)
      (fun a b => by simpa using Nat.le_total _ _) ties List.filter_sublist
  have sublist := kept.filter (key · = k)
  rw [List.filter_filter] at sublist
  simp only [Bool.and_self] at sublist
  exact (sublist.eq_of_length (perm.filter _).length_eq.symm).symm

variable {key}

/-- What is sorted is cut in two by any bound on the keys. -/
theorem filter_append_filter_of_sorted {l : List α} (sorted : l.Pairwise (key · ≤ key ·)) {n : Nat}
    (bounded : ∀ a ∈ l, key a < n + 1) :
    l = l.filter (key · < n) ++ l.filter (key · = n) := by
  induction sorted with
  | nil => rfl
  | @cons a l least _ ih =>
    obtain ⟨first, bounded⟩ := List.forall_mem_cons.mp bounded
    by_cases below : key a < n
    · have other : key a ≠ n := below.ne
      simp only [List.filter_cons, below, other, decide_true, decide_false, if_true]
      exact congrArg (a :: ·) (ih bounded)
    · have last : key a = n := by omega
      have all : ∀ b ∈ l, key b = n := by
        intro b mem
        have above := least b mem
        have upTo := bounded b mem
        omega
      have none : l.filter (key · < n) = [] :=
        List.filter_eq_nil_iff.mpr fun b mem => by simp [all b mem]
      have whole : l.filter (key · = n) = l :=
        List.filter_eq_self.mpr fun b mem => by simp [all b mem]
      simp [last, none, whole]

theorem eq_flatMap_of_sorted {l : List α} (sorted : l.Pairwise (key · ≤ key ·)) {n : Nat}
    (bounded : ∀ a ∈ l, key a < n) :
    l = (List.range n).flatMap fun k => l.filter (key · = k) := by
  induction n generalizing l with
  | zero =>
    have none : l = [] := List.eq_nil_iff_forall_not_mem.mpr fun a mem => by
      simpa using bounded a mem
    simp [none]
  | succ n ih =>
    have before := ih (sorted.filter (key · < n)) fun a mem => by
      simpa using (List.mem_filter.mp mem).2
    have parts : ((List.range n).flatMap fun k => (l.filter (key · < n)).filter (key · = k)) =
        (List.range n).flatMap fun k => l.filter (key · = k) := by
      refine List.flatMap_congr fun k mem => ?_
      have lt := List.mem_range.mp mem
      rw [List.filter_filter]
      refine List.filter_congr fun a _ => ?_
      rw [Bool.eq_iff_iff]
      simp only [Bool.and_eq_true, decide_eq_true_eq]
      omega
    rw [List.range_succ, List.flatMap_append, List.flatMap_singleton, ← parts, ← before]
    exact filter_append_filter_of_sorted sorted bounded

/-- Sorting by a key takes the members of the least key first, then those of the next. -/
theorem mergeSort_eq_flatMap {l : List α} {n : Nat} (bounded : ∀ a ∈ l, key a < n) :
    (l.mergeSort fun a b => key a ≤ key b) =
      (List.range n).flatMap fun k => l.filter (key · = k) := by
  have sorted : (l.mergeSort fun a b => key a ≤ key b).Pairwise (key · ≤ key ·) := by
    let le a b := decide (key a ≤ key b)
    have trans (a b c) : le a b = true → le b c = true → le a c = true := by
      simpa [le] using Nat.le_trans
    have total (a b) : (le a b || le b a) = true := by simpa [le] using Nat.le_total _ _
    simpa [le] using List.pairwise_mergeSort trans total l
  rw [eq_flatMap_of_sorted sorted fun a mem =>
    bounded a ((List.mergeSort_perm _ _).mem_iff.mp mem)]
  exact List.flatMap_congr fun k _ => filter_mergeSort key l k

end Keys

theorem Category.exists_bit {i : Nat} (h : i < 7) : ∃ c : Category, c.bit = i := by
  suffices all : ∀ i < 7, ∃ c ∈ order, c.bit = i by
    obtain ⟨c, -, eq⟩ := all i h
    exact ⟨c, eq⟩
  decide

namespace Flags

theorem meets_eq_true_iff {f g : Flags} :
    f.meets g = true ↔ ∃ c, f.has c = true ∧ g.has c = true := by
  unfold meets has
  rw [decide_eq_true_iff]
  constructor
  · intro shared
    by_contra apart
    refine shared (BitVec.eq_of_getLsbD_eq fun i lt => ?_)
    obtain ⟨c, rfl⟩ := Category.exists_bit lt
    have none : (0 : BitVec 7).getLsbD c.bit = false := BitVec.getLsbD_zero
    rw [BitVec.getLsbD_and, none, Bool.and_eq_false_imp]
    intro first
    exact Bool.eq_false_iff.mpr fun second => apart ⟨c, first, second⟩
  · rintro ⟨c, first, second⟩ none
    have bit := congrArg (·.getLsbD c.bit) none
    simp [first, second] at bit

theorem meets_comm (f g : Flags) : f.meets g = g.meets f := by
  unfold meets
  rw [BitVec.and_comm]

/-- Where, in some order of categories, the first one comes that two sets share. -/
def firstSharedIn (cs : List Category) (f g : Flags) : Nat :=
  cs.findIdx fun c => f.has c && g.has c

/-- Where, in the order of collecting, the first category comes that two sets share. -/
def firstShared (f g : Flags) : Nat := firstSharedIn Category.order f g

theorem firstSharedIn_concat (cs : List Category) (c : Category) (f g : Flags) :
    firstSharedIn (cs ++ [c]) f g =
      if firstSharedIn cs f g < cs.length then firstSharedIn cs f g
      else if f.has c && g.has c then cs.length else cs.length + 1 := by
  unfold firstSharedIn
  rw [List.findIdx_append, List.findIdx_singleton, Nat.add_comm]
  cases f.has c && g.has c <;> rfl

theorem firstSharedIn_concat_of_lt {cs : List Category} {c : Category} {f g : Flags} {k : Nat}
    (lt : k < cs.length) :
    firstSharedIn (cs ++ [c]) f g = k ↔ firstSharedIn cs f g = k := by
  rw [firstSharedIn_concat]
  (repeat' split) <;> omega

theorem firstSharedIn_concat_last {cs : List Category} {c : Category} {f g : Flags} :
    firstSharedIn (cs ++ [c]) f g = cs.length ↔
      ¬ firstSharedIn cs f g < cs.length ∧ f.has c = true ∧ g.has c = true := by
  rw [firstSharedIn_concat, ← Bool.and_eq_true]
  split
  · omega
  · split <;> simp_all

theorem firstShared_lt_iff {f g : Flags} :
    f.firstShared g < Category.order.length ↔ f.meets g = true := by
  unfold firstShared firstSharedIn
  rw [List.findIdx_lt_length, meets_eq_true_iff]
  simp [Category.mem_order]

end Flags

namespace App

/-- The apps that share a category with `f`, each in the turn of the first one that it shares. -/
def inTurn (apps : List App) (f : Flags) (cs : List Category) : List App :=
  (List.range cs.length).flatMap fun k => apps.filter (Flags.firstSharedIn cs f ·.flags = k)

variable {apps : List App} {f : Flags} {cs : List Category}

theorem mem_inTurn {app : App} : app ∈ inTurn apps f cs ↔
    app ∈ apps ∧ Flags.firstSharedIn cs f app.flags < cs.length := by
  simp [inTurn, and_comm]

/-- In the last turn comes what has not come before. -/
theorem inTurn_concat (apps : List App) (f : Flags) (cs : List Category) (c : Category) :
    inTurn apps f (cs ++ [c]) = inTurn apps f cs ++ if f.has c then
      (apps.filter (·.flags.has c)).filter (· ∉ inTurn apps f cs) else [] := by
  have before : ((List.range cs.length).flatMap fun k =>
      apps.filter (Flags.firstSharedIn (cs ++ [c]) f ·.flags = k)) = inTurn apps f cs := by
    refine List.flatMap_congr fun k mem => List.filter_congr fun app _ => ?_
    rw [decide_eq_decide]
    exact Flags.firstSharedIn_concat_of_lt (List.mem_range.mp mem)
  have last : apps.filter (Flags.firstSharedIn (cs ++ [c]) f ·.flags = cs.length) =
      if f.has c then (apps.filter (·.flags.has c)).filter (· ∉ inTurn apps f cs) else [] := by
    simp only [Flags.firstSharedIn_concat_last]
    split
    · next asked =>
      rw [List.filter_filter]
      refine List.filter_congr fun app mem => ?_
      rw [Bool.eq_iff_iff]
      simp [mem_inTurn, mem, asked]
    · next unasked => simp [unasked]
  rw [inTurn, List.length_append, List.length_singleton, List.range_succ, List.flatMap_append,
    List.flatMap_singleton, before, last]

/-- To be taken in turn is to be sorted. -/
theorem inTurn_order (apps : List App) (f : Flags) : inTurn apps f Category.order =
    (apps.filter (·.flags.meets f)).mergeSort
      fun a b => f.firstShared a.flags ≤ f.firstShared b.flags := by
  have bounded : ∀ app ∈ apps.filter (·.flags.meets f),
      f.firstShared app.flags < Category.order.length := by
    intro app mem
    rw [Flags.firstShared_lt_iff, Flags.meets_comm]
    exact (List.mem_filter.mp mem).2
  rw [mergeSort_eq_flatMap bounded]
  refine List.flatMap_congr fun k mem => ?_
  rw [List.filter_filter]
  refine List.filter_congr fun app _ => ?_
  have selected : f.firstShared app.flags = k → app.flags.meets f = true := by
    rintro rfl
    rw [Flags.meets_comm, ← Flags.firstShared_lt_iff]
    exact List.mem_range.mp mem
  change decide (f.firstShared app.flags = k) = _
  by_cases turn : f.firstShared app.flags = k
  · simp only [turn, selected turn, Bool.and_true]
  · simp only [turn, decide_false, Bool.false_and]

end App

namespace Snapshot

namespace Indexed
variable {s : Snapshot}

/-- Collecting categories in some order, those of them that are asked for. -/
theorem foldl_collect_eq_inTurn (h : s.Indexed) (f : Flags) (cs : List Category) :
    cs.foldl (fun taken c => if f.has c then collect taken (s.category c) else taken) [] =
      App.inTurn s.apps.toList f cs := by
  induction cs using List.reverseRecOn with
  | nil => rfl
  | append_singleton cs c ih =>
    have inside : App.inTurn s.apps.toList f cs ⊆ s.apps.toList := fun app mem =>
      (App.mem_inTurn.mp mem).1
    have among : s.category c ⊆ s.apps.toList := fun app mem => (h.mem_category.mp mem).1
    rw [List.foldl_append, ih, App.inTurn_concat, List.foldl_cons, List.foldl_nil,
      ← h.category_eq]
    split
    · exact collect_eq h.distinct inside among (h.nodup_category c)
    · exact (List.append_nil _).symm

theorem installed_eq_inTurn (h : s.Indexed) (f : Flags) :
    s.installed f = App.inTurn s.apps.toList f Category.order := by
  rw [installed, Flags.categories, List.foldl_filter]
  exact h.foldl_collect_eq_inTurn f Category.order

end Indexed

/-- The installed apps of some categories are those that share one with them, each once, sorted by
the first one that they share; ties stay in the order of the listing. -/
theorem installed_sorted (g : Nat) (listed : List App) :
    let s := build g listed
    (∀ f, s.installed f = (s.apps.toList.filter (·.flags.meets f)).mergeSort
      fun a b => f.firstShared a.flags ≤ f.firstShared b.flags) ∧
    (∀ f, (s.installed f).Nodup) ∧
    (∀ f app, app ∈ s.installed f ↔ app ∈ s.apps.toList ∧ app.flags.meets f = true) ∧
    (∀ f f' app, app ∈ s.installed (f ∪ f') ↔ app ∈ s.installed f ∨ app ∈ s.installed f') ∧
    ∀ f app, app.flags = .empty → app ∉ s.installed f := by
  intro s
  have h : s.Indexed := indexed_build g listed
  have mem (f : Flags) (app : App) :
      app ∈ s.installed f ↔ app ∈ s.apps.toList ∧ app.flags.meets f = true := by
    rw [h.mem_installed, Flags.meets_comm, Flags.meets_eq_true_iff]
  refine ⟨fun f => ?_, h.nodup_installed, mem, ?_, ?_⟩
  · rw [h.installed_eq_inTurn, App.inTurn_order]
  · intro f f' app
    simp only [h.mem_installed, Flags.has_union, Bool.or_eq_true]
    rw [← and_or_left, ← exists_or]
    simp only [or_and_right]
  · intro f app bare
    rw [mem, bare, Flags.meets_eq_true_iff]
    simp

end Snapshot

end OpPolicy
