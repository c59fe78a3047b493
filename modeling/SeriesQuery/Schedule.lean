import SeriesQuery.Series
/-!
What a run leaves open. Several workers hand in series in no order of their own, and a map keyed at
random lists its groups in none. A schedule settles both.
-/
namespace SeriesQuery

/-- Ranks to go by; what has the same rank stays as it stood. -/
structure Schedule where
  arrival : SeriesKey → Nat := fun _ => 0
  listing : Labels → Nat := fun _ => 0

namespace Schedule

def byRank {α : Type} (rank : α → Nat) (list : List α) : List α :=
  list.mergeSort fun a b => compareOn rank a b != .gt

/-- Series as they are handed in; a single worker takes them one after the other. -/
def arrive {V : Type} (schedule : Schedule) (workers : Nat) (series : List (Series V)) :
    List (Series V) :=
  if workers = 1 then series else byRank (fun member => schedule.arrival member.key) series

end Schedule

end SeriesQuery
