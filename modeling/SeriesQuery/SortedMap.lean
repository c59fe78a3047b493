import SeriesQuery.Search
/-!
Finite maps held as entry lists in increasing key order. The order is part of the type, so two maps
with the same entries are the same map, and iteration follows the keys.
-/
namespace SeriesQuery

/-- Entries whose keys increase strictly. -/
structure SortedMap (K V : Type) [Ord K] where
  entries : List (K × V)
  sorted : entries.Pairwise fun a b => compare a.1 b.1 = .lt

namespace SortedMap

variable {K V W : Type} [Ord K]

theorem entries_injective {a b : SortedMap K V} (same : a.entries = b.entries) : a = b := by
  cases a
  cases b
  simp_all

instance [DecidableEq K] [DecidableEq V] : DecidableEq (SortedMap K V) := fun a b =>
  if same : a.entries = b.entries then isTrue (entries_injective same)
  else isFalse fun equal => same (congrArg entries equal)

/-- Entries are compared by key, then by value. -/
def compareEntries [Ord V] : K × V → K × V → Ordering :=
  compareLex (compareOn (·.1)) (compareOn (·.2))

instance [Std.TransOrd K] [Ord V] [Std.TransOrd V] :
    Std.TransCmp (compareEntries : K × V → K × V → Ordering) :=
  inferInstanceAs (Std.TransCmp
    (compareLex (compareOn (·.1)) (compareOn (·.2)) : K × V → K × V → Ordering))

instance [Std.LawfulEqOrd K] [Ord V] [Std.LawfulEqOrd V] :
    Std.LawfulEqCmp (compareEntries : K × V → K × V → Ordering) where
  compare_self := by simp [compareEntries, compareLex, compareOn]
  eq_of_compare equal := by
    obtain ⟨key, value⟩ := Ordering.then_eq_eq.mp equal
    exact Prod.ext (Std.LawfulEqOrd.eq_of_compare key) (Std.LawfulEqOrd.eq_of_compare value)

/-- Maps are compared by the first entry in which they differ, a map before its extensions. -/
instance [Ord V] : Ord (SortedMap K V) where
  compare a b := List.compareLex compareEntries a.entries b.entries

instance [Std.TransOrd K] [Ord V] [Std.TransOrd V] : Std.TransOrd (SortedMap K V) :=
  have entries : Std.TransCmp (List.compareLex (compareEntries : K × V → K × V → Ordering)) :=
    inferInstance
  { eq_swap := entries.eq_swap, isLE_trans := entries.isLE_trans }

instance [Std.LawfulEqOrd K] [Ord V] [Std.LawfulEqOrd V] : Std.LawfulEqOrd (SortedMap K V) :=
  have entries : Std.LawfulEqCmp (List.compareLex (compareEntries : K × V → K × V → Ordering)) :=
    inferInstance
  { compare_self := entries.compare_self
    eq_of_compare := fun equal => entries_injective (entries.eq_of_compare equal) }

def empty : SortedMap K V := ⟨[], List.Pairwise.nil⟩

instance : EmptyCollection (SortedMap K V) := ⟨empty⟩

instance : Inhabited (SortedMap K V) := ⟨empty⟩

def size (map : SortedMap K V) : Nat := map.entries.length

def isEmpty (map : SortedMap K V) : Bool := map.entries.isEmpty

def keys (map : SortedMap K V) : List K := map.entries.map (·.1)

def values (map : SortedMap K V) : List V := map.entries.map (·.2)

def find (key : K) : List (K × V) → Option V
  | [] => none
  | (k, v) :: rest => if compare key k = .eq then some v else find key rest

def get? (map : SortedMap K V) (key : K) : Option V := find key map.entries

def contains (map : SortedMap K V) (key : K) : Bool := (map.get? key).isSome

/-- Puts the changed value at the place of `key`, or inserts it where the key belongs. -/
def place (key : K) (change : Option V → V) : List (K × V) → List (K × V)
  | [] => [(key, change none)]
  | (k, v) :: rest =>
    match compare key k with
    | .lt => (key, change none) :: (k, v) :: rest
    | .eq => (key, change (some v)) :: rest
    | .gt => (k, v) :: place key change rest

theorem mem_place {key : K} {change : Option V → V} {entry : K × V} {list : List (K × V)}
    (member : entry ∈ place key change list) : entry.1 = key ∨ entry ∈ list := by
  induction list with
  | nil => simp_all [place]
  | cons head rest ih =>
      obtain ⟨k, v⟩ := head
      unfold place at member
      split at member
      · rcases List.mem_cons.mp member with rfl | old
        · exact .inl rfl
        · exact .inr old
      · rcases List.mem_cons.mp member with rfl | old
        · exact .inl rfl
        · exact .inr (List.mem_cons_of_mem _ old)
      · rcases List.mem_cons.mp member with rfl | old
        · exact .inr List.mem_cons_self
        · exact (ih old).imp_right (List.mem_cons_of_mem _)

theorem sorted_place [Std.TransOrd K] [Std.LawfulEqOrd K] (key : K) (change : Option V → V)
    {list : List (K × V)} (sorted : list.Pairwise fun a b => compare a.1 b.1 = .lt) :
    (place key change list).Pairwise fun a b => compare a.1 b.1 = .lt := by
  induction list with
  | nil => simp [place]
  | cons head rest ih =>
      obtain ⟨k, v⟩ := head
      obtain ⟨above, tail⟩ := List.pairwise_cons.mp sorted
      unfold place
      split
      · rename_i before
        refine List.pairwise_cons.mpr ⟨fun entry member => ?_, sorted⟩
        rcases List.mem_cons.mp member with rfl | old
        · exact before
        · exact Std.TransCmp.lt_trans before (above entry old)
      · rename_i equal
        cases Std.LawfulEqOrd.eq_of_compare equal
        exact List.pairwise_cons.mpr ⟨above, tail⟩
      · rename_i after
        refine List.pairwise_cons.mpr ⟨fun entry member => ?_, ih tail⟩
        rcases mem_place member with atKey | old
        · rw [atKey]
          exact Std.OrientedCmp.gt_iff_lt.mp after
        · exact above entry old

section Halving

variable [Std.TransOrd K] {key : K} {change : Option V → V}

theorem place_append {below above : List (K × V)}
    (early : ∀ entry ∈ below, compare entry.1 key = .lt) :
    place key change (below ++ above) = below ++ place key change above := by
  induction below with
  | nil => rfl
  | cons head rest ih =>
      have after : compare key head.1 = .gt :=
        Std.OrientedCmp.gt_iff_lt.mpr (early head List.mem_cons_self)
      rw [List.cons_append, place, after]
      exact congrArg (head :: ·)
        (ih fun entry member => early entry (List.mem_cons_of_mem _ member))

theorem place_of_late {above : List (K × V)} (late : ∀ entry ∈ above, compare entry.1 key = .gt) :
    place key change above = (key, change none) :: above := by
  cases above with
  | nil => rfl
  | cons head rest =>
      have before : compare key head.1 = .lt :=
        Std.OrientedCmp.gt_iff_lt.mp (late head List.mem_cons_self)
      rw [place, before]

/-- Halving finds where a key stands or belongs. -/
theorem putAt_placeOf [Std.LawfulEqOrd K] (key : K) (value : V) {list : List (K × V)}
    (sorted : list.Pairwise fun a b => compare a.1 b.1 = .lt) :
    putAt (placeOf (fun entry => compare entry.1 key) list) (key, value) list =
      place key (fun _ => value) list := by
  have settled : list.Pairwise fun a b =>
      (compare b.1 key == .lt) = true → (compare a.1 key == .lt) = true := by
    refine sorted.imp fun less before => ?_
    exact beq_iff_eq.mpr (Std.TransCmp.lt_trans less (beq_iff_eq.mp before))
  obtain ⟨early, late, rfl, holds, fails⟩ := exists_parts settled
  have before : ∀ entry ∈ early, compare entry.1 key = .lt := fun entry member =>
    beq_iff_eq.mp (holds entry member)
  rw [place_append before]
  cases late with
  | nil => rw [placeOf_free before (List.forall_mem_nil _), putAt_free, place]
  | cons head rest =>
      have above := (List.pairwise_cons.mp (List.pairwise_append.mp sorted).2.1).1
      cases reached : compare head.1 key with
      | lt => exact absurd reached (by simpa using fails head List.mem_cons_self)
      | eq =>
          obtain rfl := Std.LawfulEqOrd.eq_of_compare reached
          have after : ∀ entry ∈ rest, compare entry.1 head.1 = .gt := fun entry member =>
            Std.OrientedCmp.gt_iff_lt.mpr (above entry member)
          rw [placeOf_taken before after reached, putAt_taken, place, reached]
      | gt =>
          have after : ∀ entry ∈ head :: rest, compare entry.1 key = .gt :=
            List.forall_mem_cons.mpr ⟨reached, fun entry member => Std.OrientedCmp.gt_iff_lt.mpr
              (Std.TransCmp.lt_trans (Std.OrientedCmp.gt_iff_lt.mp reached) (above entry member))⟩
          rw [placeOf_free before after, putAt_free, place_of_late after]

end Halving

section Lawful

variable [Std.TransOrd K] [Std.LawfulEqOrd K]

/-- Replaces the value at `key` by what `change` makes of it; an absent key is given as `none`. -/
def update (map : SortedMap K V) (key : K) (change : Option V → V) : SortedMap K V :=
  ⟨place key change map.entries, sorted_place key change map.sorted⟩

def insert (map : SortedMap K V) (key : K) (value : V) : SortedMap K V :=
  map.update key fun _ => value

/-- The same, with the place of the key found by halving. -/
def put (map : SortedMap K V) (key : K) (value : V) : SortedMap K V :=
  ⟨putAt (placeOf (fun entry => compare entry.1 key) map.entries) (key, value) map.entries,
    (putAt_placeOf key value map.sorted).symm ▸ sorted_place key _ map.sorted⟩

theorem put_eq_insert (map : SortedMap K V) (key : K) (value : V) :
    map.put key value = map.insert key value :=
  entries_injective (putAt_placeOf key value map.sorted)

/-- Later entries replace earlier ones with the same key. -/
def ofList (list : List (K × V)) : SortedMap K V :=
  list.foldl (fun map entry => map.insert entry.1 entry.2) empty

end Lawful

def filter (map : SortedMap K V) (keep : K → V → Bool) : SortedMap K V :=
  ⟨map.entries.filter fun entry => keep entry.1 entry.2, map.sorted.filter _⟩

/-- The entries from one position on and before another. -/
def slice (map : SortedMap K V) (first last : Nat) : SortedMap K V :=
  ⟨map.entries.extract first last,
    map.sorted.sublist ((List.take_sublist _ _).trans (List.drop_sublist _ _))⟩

def erase (map : SortedMap K V) (key : K) : SortedMap K V :=
  map.filter fun k _ => compare key k != .eq

def mapValues (map : SortedMap K V) (change : K → V → W) : SortedMap K W :=
  ⟨map.entries.map fun entry => (entry.1, change entry.1 entry.2),
    List.pairwise_map.mpr map.sorted⟩

theorem pairwise_filterMap_value {list : List (K × V)} {change : K → V → Option W}
    (sorted : list.Pairwise fun a b => compare a.1 b.1 = .lt) :
    (list.filterMap fun entry => (change entry.1 entry.2).map (entry.1, ·)).Pairwise
      fun a b => compare a.1 b.1 = .lt := by
  refine List.pairwise_filterMap.mpr (sorted.imp ?_)
  intro a b less x first y second
  obtain ⟨_, _, rfl⟩ := Option.map_eq_some_iff.mp first
  obtain ⟨_, _, rfl⟩ := Option.map_eq_some_iff.mp second
  exact less

/-- Keeps the keys for which `change` has a value. -/
def filterMap (map : SortedMap K V) (change : K → V → Option W) : SortedMap K W :=
  ⟨map.entries.filterMap fun entry => (change entry.1 entry.2).map (entry.1, ·),
    pairwise_filterMap_value map.sorted⟩

end SortedMap

end SeriesQuery
