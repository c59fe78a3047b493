import Mathlib.Data.List.Nodup
import SeriesQuery.Schedule
/-!
What a schedule can do. Sorting leaves alone what ties, so a schedule puts series and groups into
orders that its ranks alone settle; and each order they may come in is the order of some schedule.
-/
namespace SeriesQuery

section Stable

variable {α : Type} (order : α → α → Ordering) [Std.TransCmp order]

theorem ne_gt_trans (a b c : α) (first : (order a b != .gt) = true)
    (second : (order b c != .gt) = true) : (order a c != .gt) = true := by
  rw [bne_iff_ne, Ne, ← Ordering.isLE_iff_ne_gt] at first second ⊢
  exact Std.TransCmp.isLE_trans first second

theorem ne_gt_total (a b : α) : ((order a b != .gt) || (order b a != .gt)) = true := by
  have swap : order b a = (order a b).swap := Std.OrientedCmp.eq_swap
  rw [swap]
  cases order a b <;> rfl

variable {order} in
theorem eq_of_ne_gt {a b : α} (forward : (order a b != .gt) = true)
    (backward : (order b a != .gt) = true) : order a b = .eq := by
  rw [bne_iff_ne, Ne, ← Ordering.isLE_iff_ne_gt] at forward backward
  exact Std.OrientedCmp.isLE_antisymm forward backward

/-- Sorting leaves the elements that are like a given one as they stood. -/
theorem filter_mergeSort (list : List α) (element : α) :
    (list.mergeSort fun a b => order a b != .gt).filter (order element · = .eq) =
      list.filter (order element · = .eq) := by
  have alike : (list.filter (order element · = .eq)).Pairwise
      fun a b => (order a b != .gt) = true := by
    apply List.pairwise_of_forall_mem_list
    intro a first b second
    have toFirst := of_decide_eq_true (List.mem_filter.mp first).2
    have toSecond := of_decide_eq_true (List.mem_filter.mp second).2
    rw [← Std.TransCmp.congr_left toFirst, toSecond]
    rfl
  have kept := (List.sublist_mergeSort (ne_gt_trans order) (ne_gt_total order) alike
    List.filter_sublist).filter (order element · = .eq)
  rw [List.filter_filter] at kept
  simp only [Bool.and_self] at kept
  exact (kept.eq_of_length ((List.mergeSort_perm _ _).filter _).length_eq.symm).symm

/-- Elements in a strict order are sorted by a second one first and by the old one then. -/
theorem pairwise_mergeSort_lex {list : List α} {strict : α → α → Ordering}
    (sorted : list.Pairwise fun a b => strict a b = .lt) :
    (list.mergeSort fun a b => order a b != .gt).Pairwise
      fun a b => (order a b).then (strict a b) = .lt := by
  rw [List.pairwise_iff_forall_sublist]
  intro a b pair
  have ascending := List.pairwise_iff_forall_sublist.mp
    (List.pairwise_mergeSort (ne_gt_trans order) (ne_gt_total order) list) pair
  cases held : order a b with
  | lt => rfl
  | eq =>
      have both := pair.filter (order a · = .eq)
      rw [filter_mergeSort] at both
      have self : order a a = .eq := Std.ReflCmp.compare_self
      simp only [List.filter_cons, self, held, List.filter_nil, decide_true, if_true] at both
      exact List.pairwise_iff_forall_sublist.mp (sorted.filter _) both
  | gt =>
      rw [held] at ascending
      cases ascending

/-- Elements none of which tie are sorted into one list, in whatever order they come. -/
theorem mergeSort_eq_of_perm {listed list : List α} (perm : listed.Perm list)
    (apart : ∀ a ∈ list, ∀ b ∈ list, order a b = .eq → a = b) :
    (listed.mergeSort fun a b => order a b != .gt) =
      list.mergeSort fun a b => order a b != .gt := by
  have ascending (list : List α) := List.pairwise_mergeSort (ne_gt_trans order) (ne_gt_total order)
    list
  refine List.Perm.eq_of_pairwise ?_ (ascending listed) (ascending list)
    ((List.mergeSort_perm listed _).trans (perm.trans (List.mergeSort_perm list _).symm))
  intro a b first second forward backward
  have first := perm.subset ((List.mergeSort_perm listed _).subset first)
  have second := (List.mergeSort_perm list _).subset second
  exact apart a first b second (eq_of_ne_gt forward backward)

/-- Sorted lists with the same elements in every tie, in the same order, are the same. -/
theorem eq_of_filter_eq {list others : List α}
    (ascending : list.Pairwise fun a b => (order a b != .gt) = true)
    (ascending' : others.Pairwise fun a b => (order a b != .gt) = true)
    (same : ∀ element, list.filter (order element · = .eq) =
      others.filter (order element · = .eq)) : list = others := by
  have self (a : α) : order a a = .eq := Std.ReflCmp.compare_self
  -- The first element of either list ties with an element of the other, and so with its first one.
  have leads {a : α} {rest front : List α} (same : (a :: rest).filter (order a · = .eq) =
      front.filter (order a · = .eq)) : a ∈ front := by
    have held : a ∈ (a :: rest).filter (order a · = .eq) := by simp [self]
    exact List.mem_of_mem_filter (same ▸ held)
  induction list generalizing others with
  | nil =>
      cases others with
      | nil => rfl
      | cons b others => cases leads (same b).symm
  | cons a list ih =>
      cases others with
      | nil => cases leads (same a)
      | cons b others =>
          rcases List.pairwise_cons.mp ascending with ⟨above, sorted⟩
          rcases List.pairwise_cons.mp ascending' with ⟨above', sorted'⟩
          have forward : (order a b != .gt) = true := by
            rcases List.mem_cons.mp (leads (same b).symm) with rfl | later
            · simp [self]
            · exact above b later
          have backward : (order b a != .gt) = true := by
            rcases List.mem_cons.mp (leads (same a)) with rfl | later
            · simp [self]
            · exact above' a later
          have tie : order a b = .eq := eq_of_ne_gt forward backward
          obtain rfl : a = b := by
            have heads := same a
            simp only [List.filter_cons, self, tie, decide_true, if_true] at heads
            exact (List.cons.inj heads).1
          rw [ih sorted sorted']
          intro element
          have tails := same element
          simp only [List.filter_cons] at tails
          split at tails
          · exact (List.cons.inj tails).2
          · exact tails

/-- What is left of a sorted list is sorted as if it had been alone. -/
theorem filter_mergeSort_comm (list : List α) (test : α → Bool) :
    (list.mergeSort fun a b => order a b != .gt).filter test =
      (list.filter test).mergeSort fun a b => order a b != .gt := by
  have ascending (list : List α) := List.pairwise_mergeSort (ne_gt_trans order) (ne_gt_total order)
    list
  refine eq_of_filter_eq order ((ascending list).filter _) (ascending _) fun element => ?_
  rw [filter_mergeSort, List.filter_filter, List.filter_filter]
  simp only [Bool.and_comm]
  rw [← List.filter_filter, filter_mergeSort, List.filter_filter]

end Stable

namespace Schedule

section Ranks

variable {α β : Type}

theorem byRank_perm (rank : α → Nat) (list : List α) : (byRank rank list).Perm list :=
  List.mergeSort_perm _ _

theorem byRank_map (rank : β → Nat) (change : α → β) (list : List α) :
    byRank rank (list.map change) = (byRank (fun element => rank (change element)) list).map
      change :=
  (List.map_mergeSort (f := change) (r := fun a b => compareOn (rank ∘ change) a b != .gt)
    (s := fun a b => compareOn rank a b != .gt) fun _ _ _ _ => rfl).symm

theorem filter_byRank (rank : α → Nat) (list : List α) (test : α → Bool) :
    (byRank rank list).filter test = byRank rank (list.filter test) :=
  filter_mergeSort_comm (compareOn rank) list test

/-- Without ranks a list stays as it stood. -/
theorem byRank_const (number : Nat) (list : List α) : byRank (fun _ => number) list = list := by
  apply List.mergeSort_of_pairwise
  apply List.pairwise_of_forall
  intro a b
  simp [compareOn]

/-- Every order of a list whose elements have different names is the order of some ranks. -/
theorem exists_byRank_eq [DecidableEq β] {name : α → β} {list listed : List α}
    (perm : listed.Perm list) (distinct : (list.map name).Nodup) :
    ∃ rank : β → Nat, byRank (fun element => rank (name element)) list = listed := by
  have distinct' : (listed.map name).Nodup := (perm.map name).nodup_iff.mpr distinct
  refine ⟨(listed.map name).idxOf, ?_⟩
  have ascending : listed.Pairwise fun a b =>
      (listed.map name).idxOf (name a) < (listed.map name).idxOf (name b) := by
    rw [List.pairwise_iff_getElem]
    intro i j first second less
    have place (k : Nat) (inside : k < listed.length) :
        (listed.map name).idxOf (name listed[k]) = k := by
      have found := distinct'.idxOf_getElem k (by simpa using inside)
      simpa using found
    rw [place i first, place j second]
    exact less
  have settled : byRank (fun element => (listed.map name).idxOf (name element)) listed =
      listed := by
    apply List.mergeSort_of_pairwise
    refine ascending.imp fun less => ?_
    simp [compareOn, Nat.compare_eq_lt.mpr less]
  refine .trans (mergeSort_eq_of_perm
    (compareOn fun element => (listed.map name).idxOf (name element)) perm ?_).symm settled
  intro a first b second tie
  have place := Nat.compare_eq_eq.mp tie
  have held : name a ∈ listed.map name := List.mem_map_of_mem (perm.mem_iff.mpr first)
  have same : name a = name b := List.idxOf_inj held |>.mp place
  exact List.inj_on_of_nodup_map distinct first second same

end Ranks

section Arrivals

variable {V : Type} (schedule : Schedule) (workers : Nat)

theorem arrive_perm (series : List (Series V)) :
    (schedule.arrive workers series).Perm series := by
  unfold arrive
  split
  · exact .refl _
  · exact byRank_perm _ _

theorem arrive_one (series : List (Series V)) : schedule.arrive 1 series = series := if_pos rfl

theorem arrive_map {change : Series V → Series V}
    (keeps : ∀ member, (change member).key = member.key) (series : List (Series V)) :
    schedule.arrive workers (series.map change) = (schedule.arrive workers series).map change := by
  unfold arrive
  split
  · rfl
  · rw [byRank_map]
    simp only [keeps]

theorem filter_arrive (series : List (Series V)) (test : Series V → Bool) :
    (schedule.arrive workers series).filter test =
      schedule.arrive workers (series.filter test) := by
  unfold arrive
  split
  · rfl
  · exact filter_byRank _ _ _

variable {schedule} {workers}

theorem arrive_eq {other : Schedule} (alike : workers = 1 ∨ schedule.arrival = other.arrival)
    (series : List (Series V)) : schedule.arrive workers series = other.arrive workers series := by
  unfold arrive
  rcases alike with rfl | same
  · rfl
  · rw [same]

/-- Several workers may hand in series with different keys in any order. -/
theorem exists_arrive_eq {series handed : List (Series V)} (several : workers ≠ 1)
    (perm : handed.Perm series) (distinct : (series.map (·.key)).Nodup) :
    ∃ schedule : Schedule, schedule.arrive workers series = handed := by
  rcases exists_byRank_eq perm distinct with ⟨arrival, same⟩
  refine ⟨{ arrival }, ?_⟩
  rw [arrive, if_neg several]
  exact same

end Arrivals

end Schedule

end SeriesQuery
