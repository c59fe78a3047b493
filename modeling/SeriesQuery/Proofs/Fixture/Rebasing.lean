import SeriesQuery.Proofs.Fixture.Lines
import SeriesQuery.Proofs.Grid.Words
import SeriesQuery.Proofs.Json.Decoders
/-!
Moving samples to another time. Main statement: while the latest instant stays within 64 bits all
samples are moved by the same amount and the earliest one comes to lie on the base; beyond that the
later ones wrap around and come to lie before it.
-/
namespace SeriesQuery

open Json (Decoder Record)

/-! Instants that texts denote -/

namespace Instant

/-- The points in time of the days of the calendar. -/
def InCalendar (instant : Int) : Prop :=
  Date.first.days * dayLength ≤ instant ∧ instant < (Date.last.days + 1) * dayLength

theorem InCalendar.fits {instant : Int} (inside : InCalendar instant) : Word.Fits instant := by
  have low : least ≤ Date.first.days * dayLength := by decide
  have high : (Date.last.days + 1) * dayLength ≤ greatest := by decide
  exact ⟨Int.le_trans low inside.1, Int.le_trans (Int.le_of_lt inside.2) high⟩

theorem inCalendar_of_read? {text : String} {instant : Int} (read : read? text = some instant) :
    InCalendar instant := by
  simp only [read?, Option.bind_eq_bind, Option.bind_eq_some_iff] at read
  obtain ⟨date, -, _, -, time, -, offset, -, _, -, _, inside, _, -, same⟩ := read
  cases same
  unfold guard at inside
  split at inside
  · assumption
  · cases inside

end Instant

namespace Json

theorem Decoder.named_eq_ok {α : Type} {read : String → Option α} {draft : Draft} {value : α}
    (decoded : named read draft = .ok value) : ∃ content, read content = some value := by
  obtain ⟨content, -, known⟩ := bind_eq_ok_iff.mp decoded
  refine ⟨content, ?_⟩
  cases found : read content with
  | none =>
      rw [found] at known
      cases known
  | some found' =>
      rw [found] at known
      exact congrArg some (Except.ok.inj known)

theorem Record.exists_build {α : Type} {record : Record α} {draft : Draft} {value : α}
    (decoded : record.decode draft = .ok value) : ∃ found, record.build found = .ok value := by
  rw [decode.eq_def] at decoded
  split at decoded
  · obtain ⟨found, -, built⟩ := bind_eq_ok_iff.mp decoded
    split at built
    · exact ⟨found, built⟩
    · cases built
  · obtain ⟨found, -, built⟩ := bind_eq_ok_iff.mp decoded
    split at built
    · exact ⟨found, built⟩
    · cases built
  · cases decoded

theorem Decoder.exists_draft {α : Type} {decoder : Decoder α} {text : String} {value : α}
    (decoded : ofText decoder text = .ok value) : ∃ draft, decoder draft = .ok value := by
  obtain ⟨found, read, kept⟩ := bind_eq_ok_iff.mp decoded
  refine ⟨_, read.trans ?_⟩
  split at kept
  · cases kept
  · exact kept

end Json

theorem FixtureRecord.inCalendar {V : Type} [Scalar V] {found : Json.Found} {line : FixtureRecord V}
    (built : record.build found = .ok line) : Instant.InCalendar line.instant := by
  simp only [record, Record.required, Record.defaulted, Record.build_optional_eq_ok_iff] at built
  obtain ⟨_, ⟨_, ⟨_, ⟨_, ⟨_, ⟨_, start, _, -, rfl⟩, _, -, rfl⟩, instant, taken, rfl⟩, _, -, rfl⟩,
    _, -, rfl⟩, _, -, rfl⟩ := built
  cases start
  rw [Record.taken] at taken
  split at taken
  · obtain ⟨content, read⟩ := Decoder.named_eq_ok taken
    exact Instant.inCalendar_of_read? read
  · cases taken

namespace Fixture

variable {V : Type} [Scalar V]

theorem Gives.inCalendar {line : List Char} {sample : Sample V}
    (gives : Gives FixtureRecord.decode line sample) :
    Instant.InCalendar sample.instant := by
  rw [Gives, readLine] at gives
  split at gives
  · cases gives
  · split at gives
    · cases gives
    · rename_i record decoded
      obtain ⟨draft, read⟩ := Decoder.exists_draft (mapError_eq_ok_iff.mp decoded)
      obtain ⟨found, built⟩ := Record.exists_build read
      obtain ⟨written, made, same⟩ := map_eq_ok_iff.mp gives
      cases same
      obtain ⟨type, -, made⟩ := bind_eq_ok_iff.mp made
      obtain ⟨temporality, -, made⟩ := bind_eq_ok_iff.mp made
      cases made
      exact FixtureRecord.inCalendar built

theorem inCalendar_of_read {text : String} {samples : List (Sample V)}
    (read : read FixtureRecord.decode text {} = .ok samples) :
    ∀ sample ∈ samples, Instant.InCalendar sample.instant := by
  obtain ⟨written, given, rfl⟩ := (read_eq_ok_iff none).mp read
  rw [show written.map (named none) = written from List.map_id written]
  clear read
  generalize filled (linesOf text) = lines at given
  induction given with
  | nil => exact nofun
  | cons gives _ ih => exact List.forall_mem_cons.mpr ⟨gives.inCalendar, ih⟩

/-! The shift -/

/-- The earliest and the latest of some instants. -/
structure Extent (instants : List Int) (earliest latest : Int) : Prop where
  first : earliest ∈ instants
  last : latest ∈ instants
  within : ∀ instant ∈ instants, earliest ≤ instant ∧ instant ≤ latest

/-- All instants are moved by the same amount, the earliest one to the base. -/
structure Rigid (base : Int) (instants moved : List Int) : Prop where
  size : moved.length = instants.length
  first : base ∈ moved ∧ ∀ instant ∈ moved, base ≤ instant
  apart : ∀ a ∈ instants.zip moved, ∀ b ∈ instants.zip moved, b.2 - a.2 = b.1 - a.1
  order : ∀ a ∈ instants.zip moved, ∀ b ∈ instants.zip moved, a.2 < b.2 ↔ a.1 < b.1

/-- An instant moved as 64 bits hold it. -/
def wrapped (base earliest instant : Int) : Int :=
  Int.bmod (instant + (base - earliest)) UInt64.size

/-- The instants moved by the shift, unless it or one of them overflows. -/
def movedInWords? (base earliest : Int) (instants : List Int) : Option (List Int) := do
  let shift ← Word.result? (base - earliest)
  instants.mapM fun instant => Word.result? (instant + shift)

theorem fits_wrapped (base earliest instant : Int) : Word.Fits (wrapped base earliest instant) := by
  have low : -(((UInt64.size : Nat) : Int) / 2) ≤ wrapped base earliest instant :=
    Int.le_bmod (by decide)
  have high : wrapped base earliest instant < (((UInt64.size : Nat) : Int) + 1) / 2 :=
    Int.bmod_lt (by decide)
  unfold UInt64.size at low high
  unfold Word.Fits Instant.least Instant.greatest
  omega

theorem wrapped_eq {base earliest instant : Int} (fits : Word.Fits (instant + (base - earliest))) :
    wrapped base earliest instant = instant + (base - earliest) := by
  unfold Word.Fits Instant.least Instant.greatest at fits
  refine Int.bmod_eq_of_le ?_ ?_
  · unfold UInt64.size
    omega
  · unfold UInt64.size
    omega

section Shift

variable {base earliest latest : Int} {instants : List Int}

/-- Every instant of the range stays within the words when the last one does. -/
theorem Extent.fits (extent : Extent instants earliest latest) (fits : Word.Fits base)
    (near : base + (latest - earliest) ≤ Instant.greatest) :
    ∀ instant ∈ instants, Word.Fits (instant + (base - earliest)) := by
  intro instant member
  have within := extent.within instant member
  unfold Word.Fits at fits ⊢
  omega

theorem exists_extent (filled : instants ≠ []) :
    ∃ earliest latest, instants.min? = some earliest ∧ Extent instants earliest latest := by
  obtain ⟨earliest, least⟩ := Option.isSome_iff_exists.mp (List.isSome_min?_of_ne_nil filled)
  obtain ⟨latest, greatest⟩ := Option.isSome_iff_exists.mp (List.isSome_max?_of_ne_nil filled)
  have low := List.min?_eq_some_iff.mp least
  have high := List.max?_eq_some_iff.mp greatest
  exact ⟨earliest, latest, least, low.1, high.1,
    fun instant member => ⟨low.2 instant member, high.2 instant member⟩⟩

theorem mem_zip_map {f : Int → Int} {pair : Int × Int} :
    pair ∈ instants.zip (instants.map f) ↔ pair.1 ∈ instants ∧ pair.2 = f pair.1 := by
  have zipped : instants.zip (instants.map f) =
      instants.map fun instant => (instant, f instant) := by
    simpa using List.zip_map' (f := id) (g := f) (l := instants)
  rw [zipped, List.mem_map]
  constructor
  · rintro ⟨instant, member, rfl⟩
    exact ⟨member, rfl⟩
  · rintro ⟨member, same⟩
    exact ⟨pair.1, member, Prod.ext rfl same.symm⟩

theorem Extent.rigid_iff (extent : Extent instants earliest latest) (fits : Word.Fits base) :
    Rigid base instants (instants.map (wrapped base earliest)) ↔
      base + (latest - earliest) ≤ Instant.greatest := by
  constructor
  · intro rigid
    have first : (earliest, wrapped base earliest earliest) ∈
        instants.zip (instants.map (wrapped base earliest)) := mem_zip_map.mpr ⟨extent.first, rfl⟩
    have last : (latest, wrapped base earliest latest) ∈
        instants.zip (instants.map (wrapped base earliest)) := mem_zip_map.mpr ⟨extent.last, rfl⟩
    have above := rigid.first.2 _ (List.mem_map_of_mem extent.first)
    calc
      base + (latest - earliest)
        ≤ wrapped base earliest earliest + (latest - earliest) := Int.add_le_add_right above _
      _ = wrapped base earliest latest := by
          have apart := rigid.apart _ first _ last
          dsimp only at apart
          omega
      _ ≤ Instant.greatest := (fits_wrapped base earliest latest).2
  · intro near
    have moved {pair : Int × Int}
        (member : pair ∈ instants.zip (instants.map (wrapped base earliest))) :
        pair.2 = pair.1 + (base - earliest) := by
      obtain ⟨member, same⟩ := mem_zip_map.mp member
      rw [same, wrapped_eq (extent.fits fits near _ member)]
    refine ⟨List.length_map _, ⟨?_, ?_⟩, ?_, ?_⟩
    · have start := wrapped_eq (extent.fits fits near _ extent.first)
      exact List.mem_map.mpr ⟨earliest, extent.first, by omega⟩
    · rw [List.forall_mem_map]
      intro instant member
      rw [wrapped_eq (extent.fits fits near _ member)]
      have within := extent.within instant member
      omega
    · intro a member b member'
      rw [moved member, moved member']
      omega
    · intro a member b member'
      rw [moved member, moved member']
      omega

theorem mapM_eq_none {α β : Type} {read : α → Option β} {list : List α} {element : α}
    (member : element ∈ list) (none : read element = none) : list.mapM read = Option.none := by
  induction list with
  | nil => cases member
  | cons head tail ih =>
      rw [List.mapM_cons]
      rcases List.mem_cons.mp member with rfl | later
      · rw [none]
        rfl
      · rw [ih later]
        cases read head <;> rfl

theorem Extent.movedInWords?_eq (extent : Extent instants earliest latest) (fits : Word.Fits base) :
    movedInWords? base earliest instants =
      if Word.Fits (base - earliest) ∧ base + (latest - earliest) ≤ Instant.greatest then
        some (instants.map (wrapped base earliest))
      else none := by
  rw [movedInWords?, Word.result?]
  by_cases shift : Word.Fits (base - earliest)
  · rw [if_pos shift, Option.bind_eq_bind, Option.bind_some]
    split
    · rename_i near
      have near := near.2
      refine mapM_eq_some fun instant member => ?_
      have fits := extent.fits fits near instant member
      rw [Word.result?_eq fits, wrapped_eq fits]
    · rename_i far
      refine mapM_eq_none extent.last (if_neg fun fits => far ⟨shift, ?_⟩)
      have high := fits.2
      omega
  · rw [if_neg shift, if_neg fun both => shift both.1]
    rfl

end Shift

omit [Scalar V] in
theorem instant_named (rename : Option String) (sample : Sample V) :
    (named rename sample).instant = sample.instant := by
  cases rename <;> rfl

/-- Rebased samples are those read without options, moved and renamed. -/
theorem read_rebased (rename : Option String) {text : String} {samples : List (Sample V)}
    (read : read FixtureRecord.decode text {} = .ok samples) {earliest : Int}
    (least : (samples.map (·.instant)).min? = some earliest) (base : Int) :
    Fixture.read FixtureRecord.decode text ⟨rename, some base⟩ = .ok (samples.map fun sample =>
      { named rename sample with instant := wrapped base earliest sample.instant }) := by
  obtain ⟨written, lines, same⟩ := map_eq_ok_iff.mp ((read_eq text {}).symm.trans read)
  obtain rfl : samples = written := same.trans (List.map_id written)
  have instants : (samples.map (named rename)).map (·.instant) = samples.map (·.instant) := by
    rw [List.map_map]
    exact List.map_congr_left fun sample _ => instant_named rename sample
  rw [read_eq, lines]
  refine congrArg Except.ok ?_
  dsimp only
  rw [rebased, instants, least]
  dsimp only
  rw [List.map_map]
  exact List.map_congr_left fun sample _ => by
    rw [Function.comp_apply, instant_named, wrapped]

/-- What is read is moved as one piece just when the last instant stays within 64 bits. -/
theorem read_rebased_rigid_iff (rename : Option String) {text : String} {base : Int}
    {samples : List (Sample V)} (fits : Word.Fits base)
    (read : read FixtureRecord.decode text {} = .ok samples) (filled : samples ≠ []) :
    ∃ earliest latest moved, Extent (samples.map (·.instant)) earliest latest ∧
      Fixture.read FixtureRecord.decode text ⟨rename, some base⟩ = .ok moved ∧
      List.Forall₂
        (fun sample after => after = { named rename sample with instant := after.instant })
        samples moved ∧
      movedInWords? base earliest (samples.map (·.instant)) =
        (if Word.Fits (base - earliest) ∧ base + (latest - earliest) ≤ Instant.greatest then
          some (moved.map (·.instant))
        else none) ∧
      (Rigid base (samples.map (·.instant)) (moved.map (·.instant)) ↔
        base + (latest - earliest) ≤ Instant.greatest) ∧
      ∀ sample ∈ samples, Instant.InCalendar sample.instant := by
  have filled' : samples.map (·.instant) ≠ [] := fun none => filled (List.map_eq_nil_iff.mp none)
  obtain ⟨earliest, latest, least, extent⟩ := exists_extent filled'
  let move (sample : Sample V) : Sample V :=
    { named rename sample with instant := wrapped base earliest sample.instant }
  have instants : (samples.map move).map (·.instant) =
      (samples.map (·.instant)).map (wrapped base earliest) := by
    rw [List.map_map, List.map_map]
    rfl
  refine ⟨earliest, latest, _, extent, read_rebased rename read least base, ?_, ?_, ?_,
    inCalendar_of_read read⟩
  · rw [List.forall₂_map_right_iff]
    exact List.forall₂_same.mpr fun _ _ => rfl
  · rw [instants]
    exact extent.movedInWords?_eq fits
  · rw [instants]
    exact extent.rigid_iff fits

/-- Two samples a minute apart, the later one first. -/
def minuteApart : String :=
  (metricLine "2025-01-01T00:01:00Z" "Gauge").render ++ "\n" ++
    (metricLine "2025-01-01T00:00:00Z" "Gauge").render

theorem read_metricLine {time : String} {instant : Int} (dated : Instant.read? time = some instant)
    (alone : '\n' ∉ (metricLine time "Gauge").chars) :
    read FixtureRecord.decode (metricLine time "Gauge").render {} = .ok [gauge instant] := by
  have lines : linesOf (metricLine time "Gauge").render = [(metricLine time "Gauge").chars] := by
    rw [linesOf, Json.render, String.toList_ofList, Text.pieces_of_not_mem alone]
  have present : Text.trimmed (metricLine time "Gauge").chars ≠ [] := by
    intro blank
    have none : readLine (V := Exact) FixtureRecord.decode (metricLine time "Gauge").chars =
        .ok none :=
      readLine_eq_ok_none_iff.mpr blank
    cases none.symm.trans (gives_metricLine dated)
  refine (read_eq_ok_iff none).mpr ⟨[gauge instant], ?_, rfl⟩
  rw [lines, filled_cons_filled present]
  exact .cons (gives_metricLine dated) .nil

theorem read_minuteApart :
    read FixtureRecord.decode minuteApart {} = .ok [gauge 1735689660000, gauge 1735689600000] :=
  read_append (read_metricLine (by decide) (by decide))
    (read_metricLine (by decide) (by decide))

/-- Ten minutes after the beginning of 1970, under another name. -/
theorem read_rebased_rigid_iff_near :
    Word.Fits 600000 ∧
      read FixtureRecord.decode minuteApart {} =
        .ok [gauge 1735689660000, gauge 1735689600000] ∧
      ∃ moved : List (Sample Exact),
        read FixtureRecord.decode minuteApart ⟨some "renamed", some 600000⟩ = .ok moved ∧
        Rigid 600000 [1735689660000, 1735689600000] (moved.map (·.instant)) := by
  have fits : Word.Fits 600000 := by decide
  obtain ⟨earliest, latest, moved, extent, read, -, -, rigid, -⟩ :=
    read_rebased_rigid_iff (some "renamed") fits read_minuteApart (List.cons_ne_nil _ _)
  refine ⟨fits, read_minuteApart, moved, read, rigid.mpr ?_⟩
  have first : 1735689600000 ≤ earliest := by
    have member := extent.first
    simp only [List.map_cons, List.map_nil, gauge, List.mem_cons, List.not_mem_nil, or_false]
      at member
    omega
  have last : latest ≤ 1735689660000 := by
    have member := extent.last
    simp only [List.map_cons, List.map_nil, gauge, List.mem_cons, List.not_mem_nil, or_false]
      at member
    omega
  unfold Instant.greatest
  omega

/-- A base after which a minute does not fit into 64 bits. -/
theorem rebased_wrapped :
    Word.Fits Instant.greatest ∧
      read FixtureRecord.decode minuteApart {} = .ok [gauge 1735689660000, gauge 1735689600000] ∧
      read FixtureRecord.decode minuteApart ⟨none, some Instant.greatest⟩ =
        .ok [gauge (-9223372036854715809), gauge Instant.greatest] ∧
      movedInWords? Instant.greatest 1735689600000 [1735689660000, 1735689600000] = none ∧
      ¬Rigid Instant.greatest [1735689660000, 1735689600000]
        [-9223372036854715809, Instant.greatest] := by
  have least : ([gauge 1735689660000, gauge 1735689600000].map (·.instant)).min? =
      some 1735689600000 := by decide
  refine ⟨by decide, read_minuteApart, read_rebased none read_minuteApart least _, by decide, ?_⟩
  intro rigid
  have first := rigid.first.2 (-9223372036854715809) List.mem_cons_self
  exact absurd first (by decide)

end Fixture

end SeriesQuery
