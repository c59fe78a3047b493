import SeriesQuery.Json.Record
import SeriesQuery.Proofs.Json.Printing
import SeriesQuery.Proofs.Results
/-!
Records read from objects. Main statements: the order of the entries of an object does not matter,
nor do entries that no field claims, nor the name by which a field is called; an entry may be left
out where it says what is taken without it.
-/
namespace SeriesQuery.Json

namespace Record

variable {α β : Type}

/-! What is found -/

/-- The field that an entry of this name belongs to. -/
def owner? (fields : List Field) (name : String) : Option Field :=
  fields.find? fun field => name ∈ field.names

/-- An entry at which reading goes on. -/
def Admits (fields : List Field) (entry : String × Draft) : Prop :=
  match owner? fields entry.1 with
  | none => entry.2.isIntact = true
  | some field => field.check entry.2 = .ok ()

/-- What the entries give for the fields, in their order. -/
def claimed (fields : List Field) (entries : List (String × Draft)) : Found :=
  entries.filterMap fun entry => (owner? fields entry.1).map fun field => (field.names, entry.2)

def keys (found : Found) : List (List String) := found.map Prod.fst

def named (entry : String × Draft) : Option String × Draft := (some entry.1, entry.2)

section Entries

variable {fields : List Field} {name : String} {field : Field} {draft : Draft}

theorem claimed_owned (owned : owner? fields name = some field) (rest : List (String × Draft)) :
    claimed fields ((name, draft) :: rest) = (field.names, draft) :: claimed fields rest := by
  rw [claimed, List.filterMap_cons, owned]
  rfl

theorem claimed_unowned (unowned : owner? fields name = none) (rest : List (String × Draft)) :
    claimed fields ((name, draft) :: rest) = claimed fields rest := by
  rw [claimed, List.filterMap_cons, unowned]
  rfl

theorem admits_owned (owned : owner? fields name = some field) :
    Admits fields (name, draft) ↔ field.check draft = .ok () := by
  rw [Admits, owned]

theorem admits_unowned (unowned : owner? fields name = none) :
    Admits fields (name, draft) ↔ draft.isIntact = true := by
  rw [Admits, unowned]

end Entries

theorem lookup_isSome_iff {found : Found} {key : List String} :
    (found.lookup key).isSome = true ↔ key ∈ keys found := by
  rw [List.lookup_isSome_iff, keys, List.mem_map]
  exact exists_congr fun entry => and_congr_right fun _ => beq_iff_eq.trans eq_comm

theorem lookup_of_mem {found : Found} (distinct : (keys found).Nodup) {key : List String}
    {draft : Draft} (member : (key, draft) ∈ found) : found.lookup key = some draft := by
  induction found with
  | nil => cases member
  | cons entry found ih =>
      rcases entry with ⟨key', draft'⟩
      obtain ⟨absent, others⟩ := List.nodup_cons.mp distinct
      rw [List.lookup_cons]
      rcases List.mem_cons.mp member with same | later
      · cases same
        rw [beq_self_eq_true]
      · have different : key ≠ key' := by
          rintro rfl
          exact absent (List.mem_map.mpr ⟨_, later, rfl⟩)
        rw [beq_false_of_ne different]
        exact ih others later

theorem lookup_of_not_mem_keys {found : Found} {key : List String} (absent : key ∉ keys found) :
    found.lookup key = none := by
  rwa [← Option.not_isSome_iff_eq_none, lookup_isSome_iff]

theorem lookup_perm {a b : Found} (distinct : (keys a).Nodup) (perm : a.Perm b)
    (key : List String) : a.lookup key = b.lookup key := by
  have same : (keys a).Perm (keys b) := perm.map Prod.fst
  by_cases present : key ∈ keys a
  · obtain ⟨⟨key', draft⟩, member, rfl⟩ := List.mem_map.mp present
    rw [lookup_of_mem distinct member,
      lookup_of_mem (same.nodup_iff.mp distinct) (perm.mem_iff.mp member)]
  · rw [lookup_of_not_mem_keys present,
      lookup_of_not_mem_keys fun member => present (same.mem_iff.mpr member)]

/-- Reading finds all entries, the last one first, where it stops at none and no field is met
twice. -/
theorem findNamed_eq_ok_iff {fields : List Field} {entries : List (String × Draft)}
    {found result : Found} (distinct : (keys found).Nodup) :
    findNamed fields found (entries.map named) = .ok result ↔
      (∀ entry ∈ entries, Admits fields entry) ∧
        (keys ((claimed fields entries).reverse ++ found)).Nodup ∧
          result = (claimed fields entries).reverse ++ found := by
  induction entries generalizing found with
  | nil =>
      constructor
      · intro same
        cases same
        exact ⟨nofun, distinct, rfl⟩
      · rintro ⟨-, -, rfl⟩
        rfl
  | cons entry entries ih =>
      rcases entry with ⟨name, draft⟩
      rw [List.map_cons, List.forall_mem_cons, named, findNamed]
      cases owned : owner? fields name with
      | none =>
          rw [admits_unowned owned, claimed_unowned owned]
          unfold owner? at owned
          rw [owned]
          by_cases intact : draft.isIntact = true
          · rw [if_pos intact, ih distinct, and_iff_right intact]
          · rw [if_neg intact]
            exact ⟨nofun, fun held => absurd held.1.1 intact⟩
      | some field =>
          rw [admits_owned owned, claimed_owned owned, List.reverse_cons, List.append_assoc,
            List.singleton_append]
          unfold owner? at owned
          rw [owned]
          dsimp only
          by_cases twice : field.names ∈ keys found
          · rw [if_pos (lookup_isSome_iff.mpr twice)]
            refine ⟨nofun, fun held => absurd twice ?_⟩
            have part : (keys ((field.names, draft) :: found)).Nodup :=
              held.2.1.sublist ((List.sublist_append_right _ _).map Prod.fst)
            exact (List.nodup_cons.mp part).1
          · have distinct' : (keys ((field.names, draft) :: found)).Nodup :=
              List.nodup_cons.mpr ⟨twice, distinct⟩
            rw [if_neg (fun found => twice (lookup_isSome_iff.mp found)), bind_eq_ok_iff]
            constructor
            · rintro ⟨_, checked, later⟩
              obtain ⟨admitted, kept⟩ := (ih distinct').mp later
              exact ⟨⟨checked, admitted⟩, kept⟩
            · rintro ⟨⟨checked, admitted⟩, kept⟩
              exact ⟨(), checked, (ih distinct').mpr ⟨admitted, kept⟩⟩

/-- The record has this value in an object with these entries. -/
def Decodes (record : Record α) (entries : List (String × Draft)) (value : α) : Prop :=
  record.decode (.object (entries.map named) true) = .ok value

theorem decodes_iff {record : Record α} {entries : List (String × Draft)} {value : α} :
    record.Decodes entries value ↔
      (∀ entry ∈ entries, Admits record.fields entry) ∧
        (keys (claimed record.fields entries)).Nodup ∧
          record.build (claimed record.fields entries).reverse = .ok value := by
  have reversed : (keys (claimed record.fields entries).reverse).Nodup ↔
      (keys (claimed record.fields entries)).Nodup :=
    ((List.reverse_perm _).map Prod.fst).nodup_iff
  have start : (keys []).Nodup := List.nodup_nil
  rw [Decodes, decode, bind_eq_ok_iff, ← reversed]
  constructor
  · rintro ⟨found, read, built⟩
    obtain ⟨admitted, distinct, rfl⟩ := (findNamed_eq_ok_iff start).mp read
    rw [List.append_nil] at distinct built
    exact ⟨admitted, distinct, built⟩
  · rintro ⟨admitted, distinct, built⟩
    refine ⟨_, (findNamed_eq_ok_iff start).mpr ⟨admitted, ?_, rfl⟩, ?_⟩
    · rwa [List.append_nil]
    · rwa [List.append_nil]

/-! What a value depends on -/

/-- The value depends on what is found for the fields of the record, wherever it stands. -/
def Local (record : Record α) : Prop :=
  ∀ a b : Found, (∀ field ∈ record.fields, a.lookup field.names = b.lookup field.names) →
    record.build a = record.build b

/-- Without this draft of a field the value is the same. -/
def Omits (record : Record α) (names : List String) (draft : Draft) : Prop :=
  ∀ a b : Found, a.lookup names = some draft → b.lookup names = none →
    (∀ key ≠ names, a.lookup key = b.lookup key) → record.build a = record.build b

section Fields

variable {record : Record (α → β)} {names : List String} {decoder : Decoder α}
  {default : Except Fault α}

theorem local_constant (value : α) : (constant value).Local := fun _ _ _ => rfl

theorem Local.optional (isLocal : record.Local) :
    (record.optional names decoder default).Local := by
  intro a b same
  have before := isLocal a b fun field member => same field (List.mem_append_left _ member)
  have own := same ⟨names, _⟩ (List.mem_append_right _ (List.mem_singleton_self _))
  dsimp only at own
  simp only [Record.optional, before, own]

theorem Omits.optional {key : List String} {draft : Draft} (omits : record.Omits key draft)
    (other : names ≠ key) : (record.optional names decoder default).Omits key draft := by
  intro a b found missing same
  simp only [Record.optional, omits a b found missing same, same names other]

end Fields

/-! Entries rewritten -/

namespace Decodes

variable {record : Record α} {entries rest : List (String × Draft)} {value : α} {name : String}
  {draft : Draft}

theorem perm (decodes : record.Decodes entries value) (isLocal : record.Local)
    (perm : entries.Perm rest) : record.Decodes rest value := by
  obtain ⟨admitted, distinct, built⟩ := decodes_iff.mp decodes
  have found : (claimed record.fields entries).Perm (claimed record.fields rest) :=
    perm.filterMap _
  have distinct' := (found.map Prod.fst).nodup_iff.mp distinct
  refine decodes_iff.mpr ⟨fun entry member => admitted entry (perm.mem_iff.mpr member),
    distinct', ?_⟩
  rw [← built]
  refine isLocal _ _ fun field _ => lookup_perm ?_ ?_ _
  · exact ((List.reverse_perm _).map Prod.fst).nodup_iff.mpr distinct'
  · exact (List.reverse_perm _).trans (found.symm.trans (List.reverse_perm _).symm)

theorem extended (decodes : record.Decodes entries value)
    (unowned : owner? record.fields name = none) (intact : draft.isIntact = true) :
    record.Decodes ((name, draft) :: entries) value := by
  rw [decodes_iff, List.forall_mem_cons, claimed_unowned unowned, admits_unowned unowned,
    and_iff_right intact]
  exact decodes_iff.mp decodes

theorem renamed {other : String} {field : Field}
    (decodes : record.Decodes ((name, draft) :: rest) value)
    (owned : owner? record.fields name = some field)
    (owned' : owner? record.fields other = some field) :
    record.Decodes ((other, draft) :: rest) value := by
  rw [decodes_iff, List.forall_mem_cons, claimed_owned owned, admits_owned owned] at decodes
  rwa [decodes_iff, List.forall_mem_cons, claimed_owned owned', admits_owned owned']

theorem dropped {field : Field} (decodes : record.Decodes ((name, draft) :: rest) value)
    (owned : owner? record.fields name = some field) (omits : record.Omits field.names draft) :
    record.Decodes rest value := by
  rw [decodes_iff, List.forall_mem_cons, claimed_owned owned] at decodes
  obtain ⟨⟨-, admitted⟩, distinct, built⟩ := decodes
  obtain ⟨absent, others⟩ := List.nodup_cons.mp distinct
  refine decodes_iff.mpr ⟨admitted, others, ?_⟩
  rw [← built, List.reverse_cons]
  have absent' : field.names ∉ keys (claimed record.fields rest).reverse := by
    rwa [keys, ((List.reverse_perm _).map Prod.fst).mem_iff]
  refine (omits _ _ ?_ (lookup_of_not_mem_keys absent') fun key different => ?_).symm
  · rw [List.lookup_append, lookup_of_not_mem_keys absent', List.lookup_cons, beq_self_eq_true]
    rfl
  · rw [List.lookup_append, List.lookup_cons, beq_false_of_ne different]
    exact Option.or_none

end Decodes

/-! Entries in the order of the fields -/

/-- Entries that all belong to the record and make its value. -/
structure Prints (record : Record α) (entries : List (String × Draft)) (value : α) : Prop where
  isLocal : record.Local
  owned : ∀ entry ∈ entries, (owner? record.fields entry.1).isSome = true
  decodes : record.Decodes entries value

theorem prints_constant (value : α) : (constant value).Prints [] value :=
  ⟨local_constant value, nofun, rfl⟩

section Fields

variable {record : Record (α → β)} {entries : List (String × Draft)} {make : α → β} {name : String}
  {names : List String} {draft : Draft} {value : α} {decoder : Decoder α}
  {default : Except Fault α}

theorem owner?_optional_old (owned : (owner? record.fields name).isSome = true) :
    owner? (record.optional names decoder default).fields name = owner? record.fields name := by
  obtain ⟨field, found⟩ := Option.isSome_iff_exists.mp owned
  rw [Record.optional, owner?, List.find?_append, ← owner?, found]
  rfl

theorem owner?_optional_new (fresh : owner? record.fields name = none) (called : name ∈ names) :
    owner? (record.optional names decoder default).fields name =
      some ⟨names, fun draft => (decoder draft).map fun _ => ()⟩ := by
  rw [Record.optional, owner?, List.find?_append, ← owner?, fresh, Option.none_or]
  exact List.find?_cons_of_pos (decide_eq_true called)

/-- A new field takes its own names only. -/
theorem names_ne_of_fresh (fresh : owner? record.fields name = none) (called : name ∈ names) :
    ∀ field ∈ record.fields, field.names ≠ names := by
  rintro field old rfl
  exact List.find?_eq_none.mp fresh field old (decide_eq_true called)

/-- What the field takes from the draft is what it takes without one. -/
theorem Omits.optional_self (isLocal : record.Local) (fresh : owner? record.fields name = none)
    (called : name ∈ names) (implied : decoder draft = default) :
    (record.optional names decoder default).Omits names draft := by
  intro a b found missing same
  have before := isLocal a b fun field old =>
    same field.names (names_ne_of_fresh fresh called field old)
  simp only [Record.optional, before, found, missing, implied]

theorem not_mem_keys_claimed (fresh : owner? record.fields name = none) (called : name ∈ names) :
    names ∉ keys (claimed record.fields entries) := by
  intro member
  obtain ⟨⟨key, draft⟩, found, rfl⟩ := List.mem_map.mp member
  obtain ⟨entry, -, same⟩ := List.mem_filterMap.mp found
  obtain ⟨field, owned, same⟩ := Option.map_eq_some_iff.mp same
  exact names_ne_of_fresh fresh called field (List.mem_of_find?_eq_some owned)
    (congrArg Prod.fst same)

/-- What a field takes: its entry if one is found, and its default if none is. -/
def taken (found : Found) (names : List String) (decoder : Decoder α) (default : Except Fault α) :
    Except Fault α :=
  match found.lookup names with
  | some draft => decoder draft
  | none => default

theorem build_optional_eq_ok_iff {found : Found} {result : β} :
    (record.optional names decoder default).build found = .ok result ↔
      ∃ make, record.build found = .ok make ∧
        ∃ value, taken found names decoder default = .ok value ∧ make value = result := by
  refine bind_eq_ok_iff.trans (exists_congr fun make => and_congr_right fun _ => ?_)
  rw [taken]
  generalize found.lookup names = entry
  cases entry with
  | none =>
      rw [bind_eq_ok_iff]
      simp only [pure, Except.pure, Except.ok.injEq]
  | some draft =>
      rw [bind_eq_ok_iff]
      simp only [pure, Except.pure, Except.ok.injEq]

namespace Prints

theorem claimed_optional (prints : record.Prints entries make) :
    claimed (record.optional names decoder default).fields entries =
      claimed record.fields entries := by
  refine List.filterMap_congr fun entry member => ?_
  rw [owner?_optional_old (prints.owned entry member)]

theorem admits_optional (prints : record.Prints entries make) :
    ∀ entry ∈ entries, Admits (record.optional names decoder default).fields entry := by
  intro entry member
  have admitted := (decodes_iff.mp prints.decodes).1 entry member
  rw [Admits] at admitted ⊢
  rwa [owner?_optional_old (prints.owned entry member)]

theorem owned_optional (prints : record.Prints entries make) :
    ∀ entry ∈ entries,
      (owner? (record.optional names decoder default).fields entry.1).isSome = true := by
  intro entry member
  rw [owner?_optional_old (prints.owned entry member)]
  exact prints.owned entry member

/-- The next field, written behind those before it. -/
theorem field (prints : record.Prints entries make) (default : Except Fault α)
    (fresh : owner? record.fields name = none) (called : name ∈ names)
    (given : decoder draft = .ok value) :
    (record.optional names decoder default).Prints (entries ++ [(name, draft)]) (make value) := by
  obtain ⟨-, distinct, built⟩ := decodes_iff.mp prints.decodes
  have absent : names ∉ keys (claimed record.fields entries) := not_mem_keys_claimed fresh called
  have owned : owner? (record.optional names decoder default).fields name =
      some ⟨names, fun draft => (decoder draft).map fun _ => ()⟩ := owner?_optional_new fresh called
  have kept : claimed (record.optional names decoder default).fields entries =
      claimed record.fields entries := prints.claimed_optional
  have found : claimed (record.optional names decoder default).fields (entries ++ [(name, draft)]) =
      claimed record.fields entries ++ [(names, draft)] := by
    rw [← kept, claimed, List.filterMap_append]
    exact congrArg (_ ++ ·) (claimed_owned owned [])
  refine ⟨prints.isLocal.optional, ?_, decodes_iff.mpr ⟨?_, ?_, ?_⟩⟩
  · rw [List.forall_mem_append, List.forall_mem_singleton, owned]
    exact ⟨prints.owned_optional, rfl⟩
  · rw [List.forall_mem_append, List.forall_mem_singleton, admits_owned owned]
    exact ⟨prints.admits_optional, map_eq_ok_iff.mpr ⟨value, given, rfl⟩⟩
  · rw [found, keys, List.map_append]
    refine List.nodup_append.mpr ⟨distinct, List.nodup_singleton _, ?_⟩
    rintro key old key' new rfl
    obtain rfl : key = names := List.mem_singleton.mp new
    exact absent old
  · rw [found, List.reverse_append]
    refine build_optional_eq_ok_iff.mpr ⟨make, ?_, value, ?_, rfl⟩
    · rw [← built]
      refine prints.isLocal _ _ fun field old => ?_
      rw [List.reverse_singleton, List.singleton_append, List.lookup_cons,
        beq_false_of_ne (names_ne_of_fresh fresh called field old)]
    · rw [taken, List.reverse_singleton, List.singleton_append, List.lookup_cons, beq_self_eq_true]
      exact given

theorem required (prints : record.Prints entries make) (name : String)
    (fresh : owner? record.fields name = none) (given : decoder draft = .ok value) :
    (record.required name decoder).Prints (entries ++ [(name, draft)]) (make value) :=
  prints.field _ fresh (List.mem_singleton_self name) given

/-- The next field, left out. -/
theorem missing (prints : record.Prints entries make) (decoder : Decoder α)
    (fresh : owner? record.fields name = none) (called : name ∈ names)
    (implied : default = .ok value) :
    (record.optional names decoder default).Prints entries (make value) := by
  obtain ⟨-, distinct, built⟩ := decodes_iff.mp prints.decodes
  have absent : names ∉ keys (claimed record.fields entries).reverse := by
    rw [keys, ((List.reverse_perm _).map Prod.fst).mem_iff]
    exact not_mem_keys_claimed fresh called
  refine ⟨prints.isLocal.optional, prints.owned_optional,
    decodes_iff.mpr ⟨prints.admits_optional, ?_, ?_⟩⟩
  · rwa [prints.claimed_optional]
  · rw [prints.claimed_optional]
    refine build_optional_eq_ok_iff.mpr ⟨make, built, value, ?_, rfl⟩
    rw [taken, lookup_of_not_mem_keys absent]
    exact implied

end Prints

end Fields

end Record

end SeriesQuery.Json
