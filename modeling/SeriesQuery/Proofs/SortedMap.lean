import SeriesQuery.SortedMap
/-!
Sorted maps seen through look-up: one equation for each operation, and the equation of a fold that
gathers items under their keys.
-/
namespace SeriesQuery.SortedMap

variable {K V W α : Type} [Ord K]

@[simp] theorem get?_empty (key : K) : (∅ : SortedMap K V).get? key = none := rfl

section Lawful

variable [Std.LawfulEqOrd K]

theorem ne_of_lt {a b : K} (less : compare a b = .lt) : a ≠ b := by
  intro same
  subst same
  simp [Std.ReflOrd.compare_self] at less

theorem find_cons_same (key : K) (value : V) (rest : List (K × V)) :
    find key ((key, value) :: rest) = some value := by
  simp [find]

theorem find_cons_other {key other : K} (different : key ≠ other) (value : V)
    (rest : List (K × V)) : find key ((other, value) :: rest) = find key rest := by
  have unequal : ¬ compare key other = .eq := by
    intro equal
    exact different (Std.LawfulEqOrd.eq_of_compare equal)
  simp [find, unequal]

theorem find_eq_none {key : K} {list : List (K × V)} (absent : ∀ entry ∈ list, entry.1 ≠ key) :
    find key list = none := by
  induction list with
  | nil => rfl
  | cons head rest ih =>
      have here : key ≠ head.1 := (absent head List.mem_cons_self).symm
      rw [find_cons_other here]
      exact ih fun entry member => absent entry (List.mem_cons_of_mem _ member)

theorem keys_nodup (map : SortedMap K V) : map.keys.Nodup :=
  List.pairwise_map.mpr (map.sorted.imp fun less => ne_of_lt less)

variable [DecidableEq K]

theorem find_eq_some_iff {key : K} {value : V} {list : List (K × V)}
    (sorted : list.Pairwise fun a b => compare a.1 b.1 = .lt) :
    find key list = some value ↔ (key, value) ∈ list := by
  induction list with
  | nil => simp [find]
  | cons head rest ih =>
      rcases head with ⟨k, v⟩
      rcases List.pairwise_cons.mp sorted with ⟨above, tail⟩
      by_cases same : key = k
      · subst same
        have absent : (key, value) ∉ rest := fun member => ne_of_lt (above _ member) rfl
        rw [find_cons_same]
        simp [absent, eq_comm]
      · rw [find_cons_other same, ih tail]
        simp [same]

theorem find_map_value (change : K → V → W) (key : K) (list : List (K × V)) :
    find key (list.map fun entry => (entry.1, change entry.1 entry.2)) =
      (find key list).map (change key) := by
  induction list with
  | nil => rfl
  | cons head rest ih =>
      rcases head with ⟨k, v⟩
      by_cases same : key = k
      · subst same
        simp [find]
      · rw [List.map_cons, find_cons_other same, find_cons_other same, ih]

theorem find_filterMap_value (change : K → V → Option W) (key : K) {list : List (K × V)}
    (sorted : list.Pairwise fun a b => compare a.1 b.1 = .lt) :
    find key (list.filterMap fun entry => (change entry.1 entry.2).map (entry.1, ·)) =
      (find key list).bind (change key) := by
  ext value
  rw [find_eq_some_iff (pairwise_filterMap_value sorted), Option.bind_eq_some_iff]
  simp only [List.mem_filterMap, Option.map_eq_some_iff, Prod.mk.injEq, find_eq_some_iff sorted]
  constructor
  · intro parts
    rcases parts with ⟨entry, member, result, changed, rfl, rfl⟩
    exact ⟨entry.2, member, changed⟩
  · intro parts
    rcases parts with ⟨old, member, changed⟩
    exact ⟨(key, old), member, value, changed, rfl, rfl⟩

theorem find_filter (keep : K → V → Bool) (key : K) {list : List (K × V)}
    (sorted : list.Pairwise fun a b => compare a.1 b.1 = .lt) :
    find key (list.filter fun entry => keep entry.1 entry.2) =
      (find key list).filter (keep key) := by
  ext value
  rw [find_eq_some_iff (sorted.filter _), Option.filter_eq_some_iff, find_eq_some_iff sorted,
    List.mem_filter]

theorem get?_eq_some_iff {map : SortedMap K V} {key : K} {value : V} :
    map.get? key = some value ↔ (key, value) ∈ map.entries :=
  find_eq_some_iff map.sorted

theorem mem_keys {map : SortedMap K V} {key : K} : key ∈ map.keys ↔ (map.get? key).isSome := by
  rw [keys, List.mem_map, Option.isSome_iff_exists]
  constructor
  · intro parts
    rcases parts with ⟨entry, member, rfl⟩
    exact ⟨entry.2, get?_eq_some_iff.mpr member⟩
  · intro parts
    rcases parts with ⟨value, found⟩
    exact ⟨(key, value), get?_eq_some_iff.mp found, rfl⟩

@[simp] theorem get?_mapValues (map : SortedMap K V) (change : K → V → W) (key : K) :
    (map.mapValues change).get? key = (map.get? key).map (change key) :=
  find_map_value change key map.entries

@[simp] theorem get?_filterMap (map : SortedMap K V) (change : K → V → Option W) (key : K) :
    (map.filterMap change).get? key = (map.get? key).bind (change key) :=
  find_filterMap_value change key map.sorted

@[simp] theorem get?_filter (map : SortedMap K V) (keep : K → V → Bool) (key : K) :
    (map.filter keep).get? key = (map.get? key).filter (keep key) :=
  find_filter keep key map.sorted

omit [Std.LawfulEqOrd K] [DecidableEq K] in
theorem values_filterMap (map : SortedMap K V) (change : V → Option W) :
    (map.filterMap fun _ => change).values = map.values.filterMap change := by
  rw [values, filterMap, values, List.map_filterMap, List.filterMap_map]
  congr 1
  funext entry
  simp only [Option.map_map, Function.comp_def, Option.map_id']

theorem get?_erase (map : SortedMap K V) (key other : K) :
    (map.erase key).get? other = if other = key then none else map.get? other := by
  rw [erase, get?_filter]
  by_cases same : other = key
  · subst same
    simp
  · have kept : (compare key other != .eq) = true := by
      rw [bne_iff_ne]
      exact fun equal => same (Std.LawfulEqOrd.eq_of_compare equal).symm
    cases map.get? other <;> simp [same, kept]

/-- Values are counted at their keys, in any list that has all of these once. -/
theorem countP_values {map : SortedMap K V} {keys : List K} (distinct : keys.Nodup)
    (covers : ∀ key, (map.get? key).isSome → key ∈ keys) (test : V → Bool) :
    map.values.countP test = keys.countP fun key => (map.get? key).any test := by
  have own : map.values.countP test = map.keys.countP fun key => (map.get? key).any test := by
    rw [values, SortedMap.keys, List.countP_map, List.countP_map]
    refine List.countP_congr fun entry member => ?_
    simp [get?_eq_some_iff.mpr member]
  have same : (map.keys.filter fun key => (map.get? key).any test).Perm
      (keys.filter fun key => (map.get? key).any test) := by
    apply (List.perm_ext_iff_of_nodup (map.keys_nodup.filter _) (distinct.filter _)).mpr
    intro key
    rw [List.mem_filter, List.mem_filter, mem_keys]
    refine and_congr_left fun held => ⟨covers key, fun _ => ?_⟩
    rcases (Option.any_eq_true _ _).mp held with ⟨value, found, -⟩
    exact Option.isSome_of_eq_some found
  rw [own, List.countP_eq_length_filter, List.countP_eq_length_filter, same.length_eq]

/-- The entries at one key. -/
theorem filter_entries (map : SortedMap K V) (key : K) :
    (map.entries.filter fun entry => entry.1 = key) = (map.get? key).toList.map (key, ·) := by
  rcases map with ⟨list, sorted⟩
  rw [get?]
  simp only
  induction list with
  | nil => rfl
  | cons head rest ih =>
      rcases head with ⟨k, v⟩
      rcases List.pairwise_cons.mp sorted with ⟨above, tail⟩
      by_cases same : key = k
      · subst same
        have absent : rest.filter (fun entry => entry.1 = key) = [] := by
          apply List.filter_eq_nil_iff.mpr
          intro entry member
          simpa using (ne_of_lt (above entry member)).symm
        rw [find_cons_same, List.filter_cons, absent]
        simp
      · have apart : ¬ k = key := fun equal => same equal.symm
        rw [find_cons_other same, List.filter_cons, ← ih tail]
        simp [apart]

theorem isEmpty_eq_false_iff {map : SortedMap K V} :
    map.isEmpty = false ↔ ∃ key, (map.get? key).isSome := by
  constructor
  · intro filled
    cases held : map.entries with
    | nil => simp [isEmpty, held] at filled
    | cons entry rest =>
        have found := get?_eq_some_iff.mpr (held ▸ List.mem_cons_self : entry ∈ map.entries)
        exact ⟨entry.1, Option.isSome_of_eq_some found⟩
  · intro parts
    rcases parts with ⟨key, present⟩
    rcases Option.isSome_iff_exists.mp present with ⟨value, found⟩
    cases held : map.entries with
    | nil => simp [get?, held, find] at found
    | cons entry rest => simp [isEmpty, held]

theorem isEmpty_eq_true_iff {map : SortedMap K V} :
    map.isEmpty = true ↔ ∀ key, map.get? key = none := by
  rw [← Bool.not_eq_false, isEmpty_eq_false_iff]
  simp

end Lawful

section Ordered

variable [Std.TransOrd K] [Std.LawfulEqOrd K] [DecidableEq K]

theorem find_place (key other : K) (change : Option V → V) {list : List (K × V)}
    (sorted : list.Pairwise fun a b => compare a.1 b.1 = .lt) :
    find other (place key change list) =
      if other = key then some (change (find key list)) else find other list := by
  induction list with
  | nil =>
      by_cases same : other = key
      · subst same
        simp [place, find]
      · rw [if_neg same]
        exact find_cons_other same _ _
  | cons head rest ih =>
      rcases head with ⟨k, v⟩
      rcases List.pairwise_cons.mp sorted with ⟨above, tail⟩
      rw [place]
      split
      · rename_i before
        have absent : find key ((k, v) :: rest) = none := by
          refine find_eq_none fun entry member => (ne_of_lt ?_).symm
          rcases List.mem_cons.mp member with rfl | later
          · exact before
          · exact Std.TransCmp.lt_trans before (above entry later)
        by_cases same : other = key
        · subst same
          rw [find_cons_same, if_pos rfl, absent]
        · rw [find_cons_other same, if_neg same]
      · rename_i equal
        cases Std.LawfulEqOrd.eq_of_compare equal
        by_cases same : other = key
        · subst same
          rw [find_cons_same, find_cons_same, if_pos rfl]
        · rw [find_cons_other same, find_cons_other same, if_neg same]
      · rename_i after
        have apart : key ≠ k := (ne_of_lt (Std.OrientedCmp.gt_iff_lt.mp after)).symm
        by_cases same : other = k
        · subst same
          rw [find_cons_same, find_cons_same, if_neg apart.symm]
        · rw [find_cons_other same, find_cons_other same, find_cons_other apart]
          exact ih tail

theorem get?_update (map : SortedMap K V) (key other : K) (change : Option V → V) :
    (map.update key change).get? other =
      if other = key then some (change (map.get? key)) else map.get? other :=
  find_place key other change map.sorted

theorem get?_insert (map : SortedMap K V) (key other : K) (value : V) :
    (map.insert key value).get? other = if other = key then some value else map.get? other :=
  get?_update map key other fun _ => value

/-- A map grows by one key at most, and only where there was none. -/
theorem size_insert (map : SortedMap K V) (key : K) (value : V) :
    (map.insert key value).size = if (map.get? key).isSome then map.size else map.size + 1 := by
  have length (map : SortedMap K V) : map.size = map.keys.length := by simp [keys, size]
  have members (other : K) :
      other ∈ (map.insert key value).keys ↔ other = key ∨ other ∈ map.keys := by
    rw [mem_keys, mem_keys, get?_insert]
    by_cases same : other = key <;> simp [same]
  rw [length, length]
  by_cases held : (map.get? key).isSome
  · have same : (map.insert key value).keys.Perm map.keys := by
      apply (List.perm_ext_iff_of_nodup (keys_nodup _) (keys_nodup _)).mpr
      intro other
      rw [members, or_iff_right_of_imp]
      rintro rfl
      exact mem_keys.mpr held
    rw [if_pos held, same.length_eq]
  · have fresh : (key :: map.keys).Nodup :=
      List.nodup_cons.mpr ⟨fun member => held (mem_keys.mp member), keys_nodup map⟩
    have longer : (map.insert key value).keys.Perm (key :: map.keys) := by
      apply (List.perm_ext_iff_of_nodup (keys_nodup _) fresh).mpr
      intro other
      rw [members, List.mem_cons]
    rw [if_neg held, longer.length_eq, List.length_cons]

/-- Maps with the same look-ups are the same map. -/
theorem ext_get? {a b : SortedMap K V} (same : ∀ key, a.get? key = b.get? key) : a = b := by
  apply entries_injective
  have members : ∀ entry, entry ∈ a.entries ↔ entry ∈ b.entries := by
    intro entry
    rw [← get?_eq_some_iff, ← get?_eq_some_iff, same]
  have distinct (map : SortedMap K V) : map.entries.Nodup :=
    map.sorted.imp fun less equal => ne_of_lt less (congrArg Prod.fst equal)
  refine List.Perm.eq_of_pairwise ?_ a.sorted b.sorted
    ((List.perm_ext_iff_of_nodup (distinct a) (distinct b)).mpr members)
  intro first second _ _ less more
  exact absurd (Std.TransCmp.lt_trans less more) (by simp [Std.ReflOrd.compare_self])

/--
A fold that changes one key per item, or none. What stands at a key afterwards comes from the items
of that key alone, in their order.
-/
theorem get?_foldl_update {step : SortedMap K V → α → SortedMap K V} (keyOf : α → Option K)
    (change : α → Option V → V) (skips : ∀ map item, keyOf item = none → step map item = map)
    (updates : ∀ map item key, keyOf item = some key → step map item = map.update key (change item))
    (items : List α) (map : SortedMap K V) (key : K) :
    (items.foldl step map).get? key =
      (items.filter fun item => keyOf item = some key).foldl
        (fun old item => some (change item old)) (map.get? key) := by
  induction items generalizing map with
  | nil => rfl
  | cons item rest ih =>
      rw [List.foldl_cons, ih, List.filter_cons]
      cases named : keyOf item with
      | none => simp [skips map item named]
      | some k =>
          rw [updates map item k named, get?_update]
          by_cases same : key = k
          · subst same
            simp
          · have apart : ¬ k = key := fun equal => same equal.symm
            simp [same, apart]

theorem ofList_entries (map : SortedMap K V) : ofList map.entries = map := by
  apply ext_get?
  intro key
  rw [ofList, get?_foldl_update (fun entry => some entry.1) (fun entry _ => entry.2) (by simp)
    (fun map entry k named => by rw [← Option.some.inj named]; rfl)]
  simp only [Option.some.injEq, filter_entries]
  cases map.get? key <;> rfl

/-- A list, unless there is nothing in it. -/
def unlessNil : List α → Option (List α)
  | [] => none
  | values => some values

omit [Ord K] [Std.TransOrd K] [Std.LawfulEqOrd K] [DecidableEq K] in
theorem unlessNil_eq_some_iff {values others : List α} :
    unlessNil values = some others ↔ values = others ∧ values ≠ [] := by
  cases values <;> simp [unlessNil]

omit [Ord K] [Std.TransOrd K] [Std.LawfulEqOrd K] [DecidableEq K] in
theorem isSome_unlessNil {values : List α} : (unlessNil values).isSome ↔ values ≠ [] := by
  cases values <;> simp [unlessNil]

omit [Ord K] [Std.TransOrd K] [Std.LawfulEqOrd K] [DecidableEq K] in
theorem getD_unlessNil (values : List α) : (unlessNil values).getD [] = values := by
  cases values <;> rfl

omit [Ord K] [Std.TransOrd K] [Std.LawfulEqOrd K] [DecidableEq K] in
theorem unlessNil_bind {change : List α → Option W} (nothing : change [] = none)
    (values : List α) : (unlessNil values).bind change = change values := by
  cases values with
  | nil => exact nothing.symm
  | cons value rest => rfl

theorem foldl_append (values : α → V) (items : List α) (gathered : List V) :
    items.foldl (fun old item => some (old.getD [] ++ [values item])) (some gathered) =
      some (gathered ++ items.map values) := by
  induction items generalizing gathered with
  | nil => simp
  | cons item rest ih => simp [ih]

/-- Values listed under their keys: each key has its own values in the order they came. -/
theorem get?_foldl_append {step : SortedMap K (List V) → α → SortedMap K (List V)} (keyOf : α → K)
    (value : α → V) (updates : ∀ map item, step map item =
      map.update (keyOf item) fun old => old.getD [] ++ [value item])
    (items : List α) (key : K) :
    (items.foldl step ∅).get? key =
      unlessNil ((items.filter fun item => keyOf item = key).map value) := by
  rw [get?_foldl_update (fun item => some (keyOf item))
    (fun item old => old.getD [] ++ [value item]) (by simp)
    (fun map item k named => by rw [updates, Option.some.inj named])]
  simp only [Option.some.injEq, get?_empty]
  cases items.filter fun item => keyOf item = key with
  | nil => rfl
  | cons first rest =>
      rw [List.foldl_cons, List.map_cons]
      exact foldl_append value rest [value first]

end Ordered

end SeriesQuery.SortedMap
