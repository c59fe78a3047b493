import Mathlib.Data.List.Forall2
import SeriesQuery.Fixture
import SeriesQuery.Proofs.Exact
import SeriesQuery.Proofs.Json.Decoders
import SeriesQuery.Proofs.Results
/-!
Samples read line by line. Main statement: each line that is not blank gives one sample in its
place, the first line that is refused is reported by its number in the text, and a text put behind
another one is read as by itself but for the numbers of its lines.
-/
namespace SeriesQuery

open Json (Decoder Record)

namespace Text

/-- Whether a piece of a text lies behind a number of marks and holds none itself. -/
def LiesBehind (mark : Char) (text piece : List Char) (marks : Nat) : Prop :=
  ∃ before after, text = before ++ (piece ++ after) ∧ before.count mark = marks ∧
    (before = [] ∨ before.getLast? = some mark) ∧ mark ∉ piece ∧
    (after = [] ∨ after.head? = some mark)

variable {mark : Char}

theorem pieces_cons_other {c : Char} (other : c ≠ mark) {text first : List Char}
    {others : List (List Char)} (split : pieces mark text = first :: others) :
    pieces mark (c :: text) = (c :: first) :: others := by
  rw [pieces, if_neg other, split]

theorem exists_pieces (mark : Char) (text : List Char) :
    ∃ first others, pieces mark text = first :: others := by
  induction text with
  | nil => exact ⟨[], [], rfl⟩
  | cons c text ih =>
      rcases ih with ⟨first, others, split⟩
      by_cases same : c = mark
      · exact ⟨[], pieces mark text, by rw [pieces, if_pos same]⟩
      · exact ⟨c :: first, others, pieces_cons_other same split⟩

theorem pieces_append (mark : Char) (before after : List Char) :
    pieces mark (before ++ mark :: after) = pieces mark before ++ pieces mark after := by
  induction before with
  | nil => simp [pieces]
  | cons c before ih =>
      by_cases same : c = mark
      · simp [pieces, same, ih]
      · rcases exists_pieces mark before with ⟨first, others, split⟩
        have longer : pieces mark (before ++ mark :: after) =
            first :: (others ++ pieces mark after) := by
          rw [ih, split, List.cons_append]
        rw [pieces_cons_other same split, List.cons_append]
        exact pieces_cons_other same longer

theorem pieces_of_not_mem {text : List Char} (free : mark ∉ text) : pieces mark text = [text] := by
  induction text with
  | nil => rfl
  | cons c text ih =>
      rw [List.mem_cons, not_or] at free
      exact pieces_cons_other (Ne.symm free.1) (ih free.2)

theorem length_pieces (mark : Char) (text : List Char) :
    (pieces mark text).length = text.count mark + 1 := by
  induction text with
  | nil => rfl
  | cons c text ih =>
      by_cases same : c = mark
      · rw [pieces, if_pos same, List.length_cons, ih, same, List.count_cons_self]
      · rcases exists_pieces mark text with ⟨first, others, split⟩
        rw [pieces_cons_other same split, List.length_cons, List.count_cons_of_ne same, ← ih, split,
          List.length_cons]

theorem LiesBehind.getElem?_pieces {text piece : List Char} {marks : Nat}
    (lies : LiesBehind mark text piece marks) : (pieces mark text)[marks]? = some piece := by
  rcases lies with ⟨before, after, rfl, rfl, start, free, stop⟩
  have front : pieces mark (piece ++ after) =
      piece :: (pieces mark (piece ++ after)).tail := by
    rcases stop with rfl | marked
    · rw [List.append_nil, pieces_of_not_mem free]
      rfl
    · rcases List.head?_eq_some_iff.mp marked with ⟨after, rfl⟩
      rw [pieces_append, pieces_of_not_mem free]
      rfl
  rcases start with rfl | marked
  · rw [List.nil_append, front]
    rfl
  · rcases List.getLast?_eq_some_iff.mp marked with ⟨before, rfl⟩
    rw [List.append_assoc, List.singleton_append, pieces_append, List.count_append,
      List.count_singleton_self, ← length_pieces, List.getElem?_append_right (Nat.le_refl _),
      Nat.sub_self, front]
    rfl

theorem liesBehind_of_getElem?_pieces {text piece : List Char} {marks : Nat}
    (found : (pieces mark text)[marks]? = some piece) : LiesBehind mark text piece marks := by
  induction marks generalizing text with
  | zero =>
      by_cases held : mark ∈ text
      · rcases List.eq_append_cons_of_mem held with ⟨first, rest, rfl, free⟩
        rw [pieces_append, pieces_of_not_mem free] at found
        obtain rfl : first = piece := Option.some.inj found
        exact ⟨[], mark :: rest, rfl, rfl, .inl rfl, free, .inr rfl⟩
      · rw [pieces_of_not_mem held] at found
        obtain rfl : text = piece := Option.some.inj found
        exact ⟨[], [], (List.append_nil _).symm, rfl, .inl rfl, held, .inl rfl⟩
  | succ marks ih =>
      by_cases held : mark ∈ text
      · rcases List.eq_append_cons_of_mem held with ⟨first, rest, rfl, free⟩
        rw [pieces_append, pieces_of_not_mem free, List.singleton_append,
          List.getElem?_cons_succ] at found
        rcases ih found with ⟨before, after, rfl, rfl, start, unmarked, stop⟩
        refine ⟨first ++ mark :: before, after, by simp, ?_, .inr ?_, unmarked, stop⟩
        · rw [List.count_append, List.count_cons_self, List.count_eq_zero.mpr free, Nat.zero_add]
        · rw [List.getLast?_append]
          rcases start with rfl | marked
          · rfl
          · rw [List.getLast?_cons, marked]
            rfl
      · rw [pieces_of_not_mem held] at found
        cases found

theorem getElem?_pieces_eq_some_iff {text piece : List Char} {marks : Nat} :
    (pieces mark text)[marks]? = some piece ↔ LiesBehind mark text piece marks :=
  ⟨liesBehind_of_getElem?_pieces, LiesBehind.getElem?_pieces⟩

/-- A blank behind a text is trimmed with it. -/
theorem trimmed_append_blank {c : Char} (blank : isBlank c = true) (text : List Char) :
    trimmed (text ++ [c]) = trimmed text := by
  unfold trimmed trimStart trimEnd
  rw [List.dropWhile_append]
  split
  · rename_i empty
    rw [List.isEmpty_iff.mp empty, List.dropWhile_cons_of_pos blank]
    rfl
  · rw [List.reverse_append, List.reverse_singleton, List.singleton_append,
      List.dropWhile_cons_of_pos blank]

/-- Nothing is trimmed from a text that blanks neither start nor end. -/
theorem trimmed_between {first last : Char} (solid : isBlank first = false)
    (solid' : isBlank last = false) (text : List Char) :
    trimmed (first :: (text ++ [last])) = first :: (text ++ [last]) := by
  have kept : (first :: (text ++ [last])).reverse.dropWhile isBlank =
      (first :: (text ++ [last])).reverse := by
    rw [List.reverse_cons, List.reverse_append, List.reverse_singleton, List.singleton_append,
      List.cons_append, List.dropWhile_cons_of_neg (by rw [solid']; exact Bool.false_ne_true)]
  rw [trimmed, trimStart, List.dropWhile_cons_of_neg (by rw [solid]; exact Bool.false_ne_true),
    trimEnd, kept, List.reverse_reverse]

end Text

namespace Fixture

variable {V : Type} {decode : String → Except String (FixtureRecord V)}

/-- A sample under the name it is given while it is read. -/
def named (rename : Option String) (sample : Sample V) : Sample V :=
  match rename with
  | some name => renamed name sample
  | none => sample

theorem read_eq (text : String) (options : Options) :
    read decode text options =
      (readLines decode 1 (Text.pieces '\n' text.toList)).map fun samples =>
        match options.base with
        | some base => rebased base (samples.map (named options.rename))
        | none => samples.map (named options.rename) := by
  rcases options with ⟨rename, base⟩
  rw [read]
  cases readLines decode 1 (Text.pieces '\n' text.toList) with
  | error fault => rfl
  | ok samples =>
      cases rename with
      | some name => cases base <;> rfl
      | none =>
          have same : samples.map (named none) = samples := List.map_id samples
          cases base <;> simp only [Except.map, same] <;> rfl

/-! One line -/

theorem readLine_eq_ok_none_iff {line : List Char} :
    readLine decode line = .ok none ↔ Text.trimmed line = [] := by
  rw [readLine]
  split
  · rename_i blank
    simp [blank]
  · rename_i filled
    simp only [filled, iff_false]
    intro none
    split at none
    · cases none
    · rename_i record decoded
      cases sample : record.sample with
      | error fault =>
          rw [sample] at none
          cases none
      | ok written =>
          rw [sample] at none
          cases none

/-- A line is the same with either ending. -/
theorem readLine_return (line : List Char) :
    readLine decode (line ++ ['\r']) = readLine decode line := by
  rw [readLine, readLine, Text.trimmed_append_blank (by decide)]

/-- A printed object is read as its entries are. -/
theorem readLine_object [Scalar V] {fields : List (String × Json)} {line : FixtureRecord V}
    (decodes : FixtureRecord.record.Decodes (fields.map Json.drafted) line) :
    readLine FixtureRecord.decode (Json.object fields).chars = line.sample.map some := by
  have solid : Text.trimmed (Json.object fields).chars = (Json.object fields).chars :=
    Text.trimmed_between (by decide) (by decide) _
  have filled : (Json.object fields).chars ≠ [] := List.cons_ne_nil _ _
  rw [readLine, solid, if_neg filled]
  have decoded := Json.Decoder.ofText_object.mpr decodes
  rw [Json.render] at decoded
  rw [FixtureRecord.decode, decoded]
  rfl

/-! All lines -/

theorem readLines_cons (number : Nat) (line : List Char) (rest : List (List Char)) :
    readLines decode number (line :: rest) =
      ((readLine decode line).mapError (.line number) >>= fun sample =>
        readLines decode (number + 1) rest >>= fun samples => .ok (sample.toList ++ samples)) := rfl

/-- Whether a line that is not blank gives a sample. -/
def Gives (decode : String → Except String (FixtureRecord V)) (line : List Char)
    (sample : Sample V) : Prop :=
  readLine decode line = .ok (some sample)

def filled (lines : List (List Char)) : List (List Char) :=
  lines.filter fun line => Text.trimmed line ≠ []

theorem filled_cons_blank {line : List Char} (blank : Text.trimmed line = [])
    (rest : List (List Char)) : filled (line :: rest) = filled rest :=
  List.filter_cons_of_neg (by simp [blank])

theorem filled_cons_filled {line : List Char} (present : Text.trimmed line ≠ [])
    (rest : List (List Char)) : filled (line :: rest) = line :: filled rest :=
  List.filter_cons_of_pos (by simp [present])

theorem readLines_eq_ok_iff {number : Nat} {lines : List (List Char)} {samples : List (Sample V)} :
    readLines decode number lines = .ok samples ↔
      List.Forall₂ (Gives decode) (filled lines) samples := by
  induction lines generalizing number samples with
  | nil =>
      constructor
      · intro read
        obtain rfl : [] = samples := Except.ok.inj read
        exact .nil
      · intro given
        cases given
        rfl
  | cons line rest ih =>
      rw [readLines_cons, bind_eq_ok_iff]
      simp only [mapError_eq_ok_iff, bind_eq_ok_iff, Except.ok.injEq, ih]
      by_cases blank : Text.trimmed line = []
      · rw [filled_cons_blank blank]
        have nothing : readLine decode line = .ok none := readLine_eq_ok_none_iff.mpr blank
        constructor
        · rintro ⟨sample, read, later, given, rfl⟩
          obtain rfl : none = sample := Except.ok.inj (nothing.symm.trans read)
          exact given
        · intro given
          exact ⟨none, nothing, samples, given, rfl⟩
      · rw [filled_cons_filled blank]
        constructor
        · rintro ⟨sample, read, later, given, rfl⟩
          cases sample with
          | none => exact absurd (readLine_eq_ok_none_iff.mp read) blank
          | some written => exact .cons read given
        · rintro (_ | ⟨read, given⟩)
          exact ⟨some _, read, _, given, rfl⟩

/-- Whether a line is read, with a sample on it or without one. -/
def IsRead (decode : String → Except String (FixtureRecord V)) (line : List Char) : Prop :=
  ∃ sample : Option (Sample V), readLine decode line = .ok sample

theorem isRead_of_readLines {number : Nat} {lines : List (List Char)} {samples : List (Sample V)}
    (read : readLines decode number lines = .ok samples) :
    ∀ line ∈ lines, IsRead decode line := by
  induction lines generalizing number samples with
  | nil => exact nofun
  | cons line rest ih =>
      rw [readLines_cons, bind_eq_ok_iff] at read
      rcases read with ⟨sample, here, read⟩
      rcases bind_eq_ok_iff.mp read with ⟨later, given, -⟩
      exact List.forall_mem_cons.mpr ⟨⟨sample, mapError_eq_ok_iff.mp here⟩, ih given⟩

theorem readLines_of_refused {number : Nat} {line : List Char} {cause : LineFault}
    (refused : readLine decode line = .error cause) (rest : List (List Char)) :
    readLines decode number (line :: rest) = .error (.line number cause) := by
  rw [readLines_cons, refused]
  rfl

theorem readLines_of_read {number : Nat} {line : List Char} {sample : Option (Sample V)}
    (read : readLine decode line = .ok sample) (rest : List (List Char)) :
    readLines decode number (line :: rest) =
      (readLines decode (number + 1) rest).map fun samples => sample.toList ++ samples := by
  rw [readLines_cons, read]
  cases readLines decode (number + 1) rest <;> rfl

/-- The first of the lines that is refused is the one that is reported. -/
theorem readLines_eq_error_iff {number : Nat} {lines : List (List Char)} {fault : SeriesFault} :
    readLines decode number lines = .error fault ↔
      ∃ front line back cause, lines = front ++ line :: back ∧
        (∀ earlier ∈ front, IsRead decode earlier) ∧ readLine decode line = .error cause ∧
        fault = .line (number + front.length) cause := by
  induction lines generalizing number with
  | nil =>
      constructor
      · intro read
        cases read
      · rintro ⟨front, line, back, cause, split, -⟩
        cases front <;> cases split
  | cons line rest ih =>
      cases here : readLine decode line with
      | error cause =>
          rw [readLines_of_refused here, Except.error.injEq]
          constructor
          · rintro rfl
            exact ⟨[], line, rest, cause, rfl, nofun, here, rfl⟩
          · rintro ⟨front, bad, back, cause', split, before, refused, rfl⟩
            cases front with
            | nil =>
                cases split
                cases here.symm.trans refused
                rfl
            | cons first front =>
                cases split
                rcases before line List.mem_cons_self with ⟨sample, read⟩
                cases here.symm.trans read
      | ok sample =>
          have later : readLines decode number (line :: rest) = .error fault ↔
              readLines decode (number + 1) rest = .error fault := by
            rw [readLines_of_read here]
            cases readLines decode (number + 1) rest <;> simp [Except.map]
          rw [later, ih]
          constructor
          · rintro ⟨front, bad, back, cause, rfl, before, refused, rfl⟩
            refine ⟨line :: front, bad, back, cause, rfl, ?_, refused, ?_⟩
            · exact List.forall_mem_cons.mpr ⟨⟨sample, here⟩, before⟩
            · rw [List.length_cons, Nat.add_assoc, Nat.add_comm 1]
          · rintro ⟨front, bad, back, cause, split, before, refused, rfl⟩
            cases front with
            | nil =>
                cases split
                cases here.symm.trans refused
            | cons first front =>
                cases split
                have before := (List.forall_mem_cons.mp before).2
                refine ⟨front, bad, back, cause, rfl, before, refused, ?_⟩
                rw [List.length_cons, Nat.add_assoc, Nat.add_comm 1]

/-! The lines of a text -/

def linesOf (text : String) : List (List Char) := Text.pieces '\n' text.toList

theorem linesOf_append (a b : String) : linesOf (a ++ "\n" ++ b) = linesOf a ++ linesOf b := by
  unfold linesOf
  rw [String.toList_append, String.toList_append, List.append_assoc]
  exact Text.pieces_append '\n' a.toList b.toList

theorem length_linesOf (text : String) : (linesOf text).length = text.toList.count '\n' + 1 :=
  Text.length_pieces '\n' text.toList

/-- Whether a line has a number: one more than the line breaks before it. -/
def LineAt (text : String) (number : Nat) (line : List Char) : Prop :=
  ∃ breaks, number = breaks + 1 ∧ Text.LiesBehind '\n' text.toList line breaks

theorem lineAt_succ_iff {text : String} {position : Nat} {line : List Char} :
    LineAt text (position + 1) line ↔ (linesOf text)[position]? = some line := by
  rw [linesOf, Text.getElem?_pieces_eq_some_iff]
  constructor
  · rintro ⟨breaks, same, lies⟩
    exact Nat.succ.inj same ▸ lies
  · exact fun lies => ⟨position, rfl, lies⟩

/-- Whether a line of a text is the first one that is refused. -/
structure FirstBad (decode : String → Except String (FixtureRecord V)) (text : String)
    (number : Nat) (cause : LineFault) : Prop where
  refused : ∃ line, LineAt text number line ∧ readLine decode line = .error cause
  before : ∀ earlier < number, ∀ line, LineAt text earlier line → IsRead decode line

theorem firstBad_iff {text : String} {number : Nat} {cause : LineFault} :
    FirstBad decode text number cause ↔ ∃ front line back, linesOf text = front ++ line :: back ∧
      (∀ earlier ∈ front, IsRead decode earlier) ∧ readLine decode line = .error cause ∧
      number = 1 + front.length := by
  constructor
  · rintro ⟨⟨line, ⟨position, rfl, lies⟩, refused⟩, before⟩
    have found : (linesOf text)[position]? = some line := lies.getElem?_pieces
    rcases List.getElem?_eq_some_iff.mp found with ⟨inside, rfl⟩
    have split := List.take_append_drop position (linesOf text)
    rw [List.drop_eq_getElem_cons inside] at split
    refine ⟨_, _, _, split.symm, ?_, refused, ?_⟩
    · intro earlier member
      rcases List.mem_take_iff_getElem.mp member with ⟨index, less, rfl⟩
      refine before (index + 1) (by omega) _ (lineAt_succ_iff.mpr ?_)
      exact List.getElem?_eq_getElem (by omega)
    · rw [List.length_take_of_le (Nat.le_of_lt inside), Nat.add_comm]
  · rintro ⟨front, line, back, split, before, refused, rfl⟩
    refine ⟨⟨line, ?_, refused⟩, fun earlier less other found => ?_⟩
    · rw [Nat.add_comm, lineAt_succ_iff, split]
      simp
    · rcases found with ⟨position, rfl, lies⟩
      have here := lies.getElem?_pieces
      rw [← linesOf, split, List.getElem?_append_left (by omega)] at here
      exact before other (List.mem_of_getElem? here)

section Options

variable (rename : Option String)

theorem read_eq_map (text : String) :
    read decode text ⟨rename, none⟩ =
      (readLines decode 1 (linesOf text)).map (List.map (named rename)) :=
  read_eq text ⟨rename, none⟩

theorem read_eq_ok_iff {text : String} {samples : List (Sample V)} :
    read decode text ⟨rename, none⟩ = .ok samples ↔
      ∃ written, List.Forall₂ (Gives decode) (filled (linesOf text)) written ∧
        samples = written.map (named rename) := by
  simp only [read_eq_map, map_eq_ok_iff, readLines_eq_ok_iff]

theorem read_eq_error_iff {text : String} {fault : SeriesFault} :
    read decode text ⟨rename, none⟩ = .error fault ↔
      ∃ number cause, fault = .line number cause ∧ FirstBad decode text number cause := by
  simp only [read_eq_map, map_eq_error_iff, readLines_eq_error_iff, firstBad_iff]
  constructor
  · rintro ⟨front, line, back, cause, split, before, refused, rfl⟩
    exact ⟨_, cause, rfl, front, line, back, split, before, refused, rfl⟩
  · rintro ⟨number, cause, rfl, front, line, back, split, before, refused, rfl⟩
    exact ⟨front, line, back, cause, split, before, refused, rfl⟩

variable {rename} {a b : String}

theorem isRead_of_read {samples : List (Sample V)}
    (read : read decode a ⟨rename, none⟩ = .ok samples) :
    ∀ line ∈ linesOf a, IsRead decode line := by
  rw [read_eq_map, map_eq_ok_iff] at read
  rcases read with ⟨written, read, -⟩
  exact isRead_of_readLines read

theorem read_append {x y : List (Sample V)} (first : read decode a ⟨rename, none⟩ = .ok x)
    (second : read decode b ⟨rename, none⟩ = .ok y) :
    read decode (a ++ "\n" ++ b) ⟨rename, none⟩ = .ok (x ++ y) := by
  rcases (read_eq_ok_iff rename).mp first with ⟨written, given, rfl⟩
  rcases (read_eq_ok_iff rename).mp second with ⟨written', given', rfl⟩
  refine (read_eq_ok_iff rename).mpr ⟨written ++ written', ?_, List.map_append.symm⟩
  rw [linesOf_append, filled, List.filter_append]
  exact List.rel_append given given'

theorem FirstBad.append {number : Nat} {cause : LineFault}
    (first : FirstBad decode a number cause) :
    FirstBad decode (a ++ "\n" ++ b) number cause := by
  rcases firstBad_iff.mp first with ⟨front, line, back, split, before, refused, counted⟩
  refine firstBad_iff.mpr ⟨front, line, back ++ linesOf b, ?_, before, refused, counted⟩
  rw [linesOf_append, split, List.append_assoc, List.cons_append]

theorem FirstBad.behind {number : Nat} {cause : LineFault}
    (first : FirstBad decode b number cause) (read : ∀ line ∈ linesOf a, IsRead decode line) :
    FirstBad decode (a ++ "\n" ++ b) (number + 1 + a.toList.count '\n') cause := by
  rcases firstBad_iff.mp first with ⟨front, line, back, split, before, refused, rfl⟩
  refine firstBad_iff.mpr ⟨linesOf a ++ front, line, back, ?_, ?_, refused, ?_⟩
  · rw [linesOf_append, split, List.append_assoc]
  · exact List.forall_mem_append.mpr ⟨read, before⟩
  · rw [List.length_append, length_linesOf]
    omega

end Options

/-! Lines of one metric -/

/-- The line of a metric whose value is one. -/
def metricLine (time type : String) : Json :=
  .object [("metric_name", .string "up"), ("timestamp", .string time), ("value", .integer 1),
    ("type", .string type)]

theorem readLine_metricLine {time : String} {instant : Int} (type : String)
    (dated : Instant.read? time = some instant) :
    readLine (V := Exact) FixtureRecord.decode (metricLine time type).chars =
      (FixtureRecord.sample ⟨"up", ∅, instant, .finite 1, none, type⟩).map some := by
  have date : Decoder.named Instant.read? (Json.string time).draft = .ok instant := by
    rw [Json.draft, Decoder.named_string, dated]
  have one : Json.scaled? ⟨false, 1, 0⟩ none = some (Exact.finite 1) := by decide +kernel
  refine readLine_object (Record.Prints.decodes ?_)
  exact (Record.prints_constant FixtureRecord.mk)
    |>.required "metric_name" rfl (Decoder.string_draft "up")
    |>.missing Labels.decoder rfl (List.mem_singleton_self "labels") rfl
    |>.required "timestamp" rfl date
    |>.required "value" rfl (Decoder.scalar_number one)
    |>.missing (Decoder.nullable Decoder.string) rfl (List.mem_singleton_self "temporality") rfl
    |>.required "type" rfl (Decoder.string_draft type)

/-- A gauge of that metric. -/
def gauge (instant : Int) : Sample Exact := ⟨⟨"up", ∅⟩, .gauge, .unspecified, instant, .finite 1⟩

theorem gives_metricLine {time : String} {instant : Int}
    (dated : Instant.read? time = some instant) :
    Gives FixtureRecord.decode (metricLine time "Gauge").chars (gauge instant) := by
  have type : FixtureRecord.readType "Gauge" = .ok .gauge := by decide
  have temporality : FixtureRecord.readTemporality none = .ok .unspecified := by decide
  rw [Gives, readLine_metricLine "Gauge" dated, FixtureRecord.sample]
  dsimp only
  rw [type, temporality]
  rfl

/-- A text is read line by line, up to the first line that is refused. -/
theorem read_linewise (decode : String → Except String (FixtureRecord V)) (rename : Option String)
    (a b : String) :
    (∀ x y : List (Sample V), read decode a ⟨rename, none⟩ = .ok x →
      read decode b ⟨rename, none⟩ = .ok y →
      read decode (a ++ "\n" ++ b) ⟨rename, none⟩ = .ok (x ++ y)) ∧
    (∀ fault, read decode a ⟨rename, none⟩ = .error fault →
      read decode (a ++ "\n" ++ b) ⟨rename, none⟩ = .error fault) ∧
    (∀ (x : List (Sample V)) number cause, read decode a ⟨rename, none⟩ = .ok x →
      read decode b ⟨rename, none⟩ = .error (.line number cause) →
      read decode (a ++ "\n" ++ b) ⟨rename, none⟩ =
        .error (.line (number + 1 + a.toList.count '\n') cause)) ∧
    (∀ samples : List (Sample V), read decode a ⟨rename, none⟩ = .ok samples ↔
      ∃ written, List.Forall₂ (Gives decode) (filled (linesOf a)) written ∧
        samples = written.map (named rename)) ∧
    (∀ fault, read decode a ⟨rename, none⟩ = .error fault ↔
      ∃ number cause, fault = .line number cause ∧ FirstBad decode a number cause) ∧
    ∀ line, readLine decode (line ++ ['\r']) = readLine decode line := by
  refine ⟨fun x y => read_append, fun fault failed => ?_, fun x number cause read failed => ?_,
    fun samples => read_eq_ok_iff rename, fun fault => read_eq_error_iff rename, readLine_return⟩
  · rcases (read_eq_error_iff rename).mp failed with ⟨number, cause, rfl, first⟩
    exact (read_eq_error_iff rename).mpr ⟨number, cause, rfl, first.append⟩
  · rcases (read_eq_error_iff rename).mp failed with ⟨number, cause, same, first⟩
    cases same
    exact (read_eq_error_iff rename).mpr ⟨_, cause, rfl, first.behind (isRead_of_read read)⟩

/-- A text with a blank line and a return in it, and one whose second line has an unknown type. -/
theorem read_linewise_mixed :
    let good := (metricLine "2025-01-01T00:00:00Z" "Gauge").render ++ "\r\n\n"
    let bad := "\n" ++ (metricLine "2025-01-01T00:00:00Z" "Summary").render
    let sample := gauge 1735689600000
    let fault := LineFault.unknownType "summary"
    read FixtureRecord.decode good ⟨none, none⟩ = .ok [sample] ∧
      read (V := Exact) FixtureRecord.decode bad ⟨none, none⟩ = .error (.line 2 fault) ∧
      read FixtureRecord.decode (good ++ "\n" ++ good) ⟨none, none⟩ = .ok [sample, sample] ∧
      read (V := Exact) FixtureRecord.decode (bad ++ "\n" ++ good) ⟨none, none⟩ =
        .error (.line 2 fault) ∧
      read (V := Exact) FixtureRecord.decode (good ++ "\n" ++ bad) ⟨none, none⟩ =
        .error (.line 5 fault) := by
  intro good bad sample fault
  have dated : Instant.read? "2025-01-01T00:00:00Z" = some 1735689600000 := by decide
  have type : FixtureRecord.readType "Summary" = .error fault := by decide
  have goodLines : linesOf good =
      [(metricLine "2025-01-01T00:00:00Z" "Gauge").chars ++ ['\r'], [], []] := by decide +kernel
  have badLines : linesOf bad = [[], (metricLine "2025-01-01T00:00:00Z" "Summary").chars] := by
    decide +kernel
  have one : read FixtureRecord.decode good ⟨none, none⟩ = .ok [sample] := by
    have gives : Gives FixtureRecord.decode
        ((metricLine "2025-01-01T00:00:00Z" "Gauge").chars ++ ['\r']) sample :=
      (readLine_return _).trans (gives_metricLine dated)
    have present : filled (linesOf good) =
        [(metricLine "2025-01-01T00:00:00Z" "Gauge").chars ++ ['\r']] := by
      rw [goodLines]
      decide
    exact (read_eq_ok_iff none).mpr ⟨[sample], present ▸ .cons gives .nil, rfl⟩
  have two : read (V := Exact) FixtureRecord.decode bad ⟨none, none⟩ = .error (.line 2 fault) := by
    have refused : readLine (V := Exact) FixtureRecord.decode
        (metricLine "2025-01-01T00:00:00Z" "Summary").chars = .error fault := by
      rw [readLine_metricLine "Summary" dated, FixtureRecord.sample]
      dsimp only
      rw [type]
      rfl
    have blank : ∀ line ∈ [[]], IsRead (V := Exact) FixtureRecord.decode line :=
      List.forall_mem_singleton.mpr ⟨none, readLine_eq_ok_none_iff.mpr rfl⟩
    exact (read_eq_error_iff none).mpr
      ⟨2, fault, rfl, firstBad_iff.mpr ⟨[[]], _, [], badLines, blank, refused, rfl⟩⟩
  obtain ⟨joined, -⟩ := read_linewise (V := Exact) FixtureRecord.decode none good good
  obtain ⟨-, kept, -⟩ := read_linewise (V := Exact) FixtureRecord.decode none bad good
  obtain ⟨-, -, behind, -⟩ := read_linewise (V := Exact) FixtureRecord.decode none good bad
  have breaks : good.toList.count '\n' = 2 := by decide +kernel
  have later := behind _ _ _ one two
  rw [breaks] at later
  exact ⟨one, two, joined _ _ one one, kept _ two, later⟩

end Fixture

end SeriesQuery
