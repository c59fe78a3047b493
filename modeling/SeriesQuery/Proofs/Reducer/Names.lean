import SeriesQuery.Pattern.Reader
import SeriesQuery.Proofs.Decimal.Digits
import SeriesQuery.Proofs.Json.Decoders
import SeriesQuery.Proofs.Plan
import SeriesQuery.Wire.Names
/-!
Names of reductions over series. Main statement: a text names a reducer just when, blanks and case
apart, it is the name the reducer is shown under, or `mean`, or the name of a percentile with a plus
sign or zeros before its digits; all other texts are refused wherever a reducer is asked for.
-/
namespace SeriesQuery

namespace Decimal

/-- The number that unsigned digits denote. -/
def unsigned? (greatest : Nat) (digits : List Char) : Option Nat :=
  if digits ≠ [] ∧ digits.all isDigit ∧ digitsValue digits ≤ greatest then some (digitsValue digits)
  else none

theorem natural?_unsigned {text : List Char} (plain : text.head? ≠ some '+') (greatest : Nat) :
    natural? greatest text = unsigned? greatest text := by
  cases text with
  | nil => rfl
  | cons c rest =>
      have other : c ≠ '+' := fun same => plain (congrArg some same)
      unfold natural?
      extract_lets digits
      have all : digits = c :: rest := by
        unfold digits
        split
        · rename_i split
          exact absurd (List.cons.inj split).1 other
        · rfl
      exact congrArg (unsigned? greatest) all

theorem unsigned?_eq_some_iff {greatest number : Nat} {digits : List Char} :
    unsigned? greatest digits = some number ↔
      digits ≠ [] ∧ (∀ c ∈ digits, isDigit c = true) ∧ digitsValue digits = number ∧
        number ≤ greatest := by
  rw [unsigned?, Option.ite_none_right_eq_some, List.all_eq_true]
  constructor
  · rintro ⟨⟨filled, known, small⟩, same⟩
    obtain rfl := Option.some.inj same
    exact ⟨filled, known, rfl, small⟩
  · rintro ⟨filled, known, rfl, small⟩
    exact ⟨⟨filled, known, small⟩, rfl⟩

/-- A plus sign may stand before the digits. -/
theorem natural?_eq_some_iff {greatest number : Nat} {text : List Char} :
    natural? greatest text = some number ↔
      ∃ sign digits, (sign = [] ∨ sign = ['+']) ∧ text = sign ++ digits ∧
        unsigned? greatest digits = some number := by
  constructor
  · intro read
    by_cases signed : text.head? = some '+'
    · rcases List.head?_eq_some_iff.mp signed with ⟨digits, rfl⟩
      exact ⟨['+'], digits, .inr rfl, rfl, read⟩
    · rw [natural?_unsigned signed] at read
      exact ⟨[], text, .inl rfl, rfl, read⟩
  · rintro ⟨sign, digits, signed, rfl, read⟩
    rcases signed with rfl | rfl
    · have plain : digits.head? ≠ some '+' := by
        intro plus
        have digit := (unsigned?_eq_some_iff.mp read).2.1 '+' (List.mem_of_head? plus)
        cases digit
      rw [List.nil_append, natural?_unsigned plain]
      exact read
    · exact read

theorem natural?_positive_iff {greatest number : Nat} (positive : 0 < number)
    (small : number ≤ greatest) {text : List Char} :
    natural? greatest text = some number ↔
      ∃ sign zeros, (sign = [] ∨ sign = ['+']) ∧
        text = sign ++ (List.replicate zeros '0' ++ Nat.toDigits 10 number) := by
  simp only [natural?_eq_some_iff, unsigned?_eq_some_iff]
  constructor
  · rintro ⟨sign, digits, signed, rfl, -, known, rfl, -⟩
    rcases eq_zeros_append_toDigits known positive with ⟨zeros, split⟩
    exact ⟨sign, zeros, signed, congrArg (sign ++ ·) split⟩
  · rintro ⟨sign, zeros, signed, rfl⟩
    refine ⟨sign, _, signed, rfl, ?_, ?_, ?_, small⟩
    · simp
    · intro c member
      rcases List.mem_append.mp member with zero | digit
      · rw [List.eq_of_mem_replicate zero]
        rfl
      · exact isDigit_of_mem_toDigits digit
    · rw [digitsValue_zeros_append, digitsValue_toDigits]

end Decimal

namespace SpaceReducer

/-- The reducers that have names. -/
def shown : List SpaceReducer := plain ++ percents.map percentile

/-- The name of a percentile, with a sign and zeros before its digits. -/
def padded (sign : List Char) (zeros percent : Nat) : String :=
  String.ofList ('p' :: (sign ++ (List.replicate zeros '0' ++ Nat.toDigits 10 percent)))

/-- Whether a name is understood as a reducer. -/
inductive Names : String → SpaceReducer → Prop
  | own {reducer : SpaceReducer} (member : reducer ∈ plain) : Names reducer.name reducer
  | mean : Names "mean" average
  | padded {percent : Nat} (member : percent ∈ percents) {sign : List Char}
      (signed : sign = [] ∨ sign = ['+']) (zeros : Nat) :
      Names (padded sign zeros percent) (percentile percent)

theorem padded_plain (percent : Nat) : padded [] 0 percent = (percentile percent).name := by
  rw [padded, name, Nat.toString_eq_ofList_toDigits, List.nil_append, List.replicate_zero,
    List.nil_append, ← List.singleton_append, String.ofList_append]

theorem readPercentile?_eq_some_iff {name : String} {reducer : SpaceReducer} :
    readPercentile? name.toList = some reducer ↔
      ∃ percent ∈ percents, ∃ sign zeros, (sign = [] ∨ sign = ['+']) ∧
        name = padded sign zeros percent ∧ reducer = percentile percent := by
  have bounds : ∀ percent ∈ percents, 0 < percent ∧ percent ≤ 255 := by decide
  unfold readPercentile?
  constructor
  · intro read
    split at read
    · rename_i rest split
      rcases Option.map_eq_some_iff.mp read with ⟨percent, found, rfl⟩
      rcases Option.filter_eq_some_iff.mp found with ⟨number, member⟩
      have known : percent ∈ percents := of_decide_eq_true member
      rcases (Decimal.natural?_positive_iff (bounds _ known).1 (bounds _ known).2).mp number with
        ⟨sign, zeros, signed, rfl⟩
      refine ⟨percent, known, sign, zeros, signed, ?_, rfl⟩
      rw [padded, ← split, String.ofList_toList]
    · cases read
  · rintro ⟨percent, known, sign, zeros, signed, rfl, rfl⟩
    have number := (Decimal.natural?_positive_iff (bounds _ known).1 (bounds _ known).2).mpr
      ⟨sign, zeros, signed, rfl⟩
    rw [padded, String.toList_ofList]
    simp [number, known]

/-- Only percentiles have names that start so. -/
theorem ne_padded {name : String} (other : name.toList.head? ≠ some 'p') (sign : List Char)
    (zeros percent : Nat) : name ≠ padded sign zeros percent := by
  rintro rfl
  rw [padded, String.toList_ofList] at other
  exact other rfl

theorem ofName?_eq_some_iff {name : String} {reducer : SpaceReducer} :
    ofName? name = some reducer ↔ Names name reducer := by
  unfold ofName?
  constructor
  · intro read
    split at read
    · rename_i mean
      obtain rfl := Option.some.inj read
      exact mean ▸ .mean
    · rcases Option.or_eq_some_iff.mp read with found | ⟨-, found⟩
      · have same := List.find?_some found
        rw [beq_iff_eq] at same
        exact same ▸ .own (List.mem_of_find?_eq_some found)
      · rcases readPercentile?_eq_some_iff.mp found with
          ⟨percent, member, sign, zeros, signed, rfl, rfl⟩
        exact .padded member signed zeros
  · rintro (⟨member⟩ | _ | ⟨member, signed, zeros⟩)
    · revert reducer
      decide
    · rfl
    · rename_i percent sign
      have unlisted : plain.find? (·.name == padded sign zeros percent) = none := by
        have starts : ∀ reducer ∈ plain, reducer.name.toList.head? ≠ some 'p' := by decide
        refine List.find?_eq_none.mpr fun reducer held same => ?_
        exact ne_padded (starts reducer held) sign zeros percent (beq_iff_eq.mp same)
      rw [if_neg (ne_padded (by decide) sign zeros percent).symm, unlisted, Option.none_or]
      exact readPercentile?_eq_some_iff.mpr ⟨percent, member, sign, zeros, signed, rfl, rfl⟩

theorem read_eq_ok_iff {text : String} {reducer : SpaceReducer} :
    read text = .ok reducer ↔ Names (Reducer.spelling text) reducer := by
  rw [← ofName?_eq_some_iff, read]
  split <;> simp_all

theorem read_eq_error_iff {text : String} {fault : QueryFault} :
    read text = .error fault ↔ (∀ reducer, ¬ Names (Reducer.spelling text) reducer) ∧
      fault = .unknownSpaceReducer (Reducer.spelling text) := by
  simp only [← ofName?_eq_some_iff, read]
  cases ofName? (Reducer.spelling text) with
  | none => simp [eq_comm]
  | some reducer => simp

end SpaceReducer

namespace Plan

theorem refused_bind {α β : Type} {step : Except QueryFault α} {rest : α → Except Failure β}
    (later : ∀ value, ∃ cause, rest value = .error (.query cause)) :
    ∃ cause, (step.mapError Failure.query >>= rest) = .error (.query cause) := by
  cases step with
  | error cause => exact ⟨cause, rfl⟩
  | ok value => exact later value

/-- Nothing that is checked before the reducer is a fault of another kind. -/
theorem ofRequest_of_unread {V : Type} [Scalar V] {request : Request V} {fault : QueryFault}
    (unread : SpaceReducer.read request.spaceReducer = .error fault) (patterns : PatternEngine)
    (settings : EngineSettings) :
    ∃ cause, ofRequest patterns request settings = .error (.query cause) := by
  rw [ofRequest]
  split
  · exact ⟨_, rfl⟩
  · refine refused_bind fun step => refused_bind fun grid => refused_bind fun timeReducer => ?_
    rw [unread]
    exact ⟨fault, rfl⟩

end Plan

namespace SpaceReducer

theorem decoder_eq_ok_iff {text : String} {reducer : SpaceReducer} :
    decoder (.string (some text)) = .ok reducer ↔ Names (Reducer.spelling text) reducer := by
  rw [← read_eq_ok_iff, decoder, Json.Decoder.named_string]
  cases read text <;> simp [Except.toOption]

theorem decoder_of_unread {text : String} {fault : QueryFault} (unread : read text = .error fault) :
    decoder (.string (some text)) = .error .misshapen := by
  rw [decoder, Json.Decoder.named_string, unread]
  rfl

theorem mem_shown_iff {reducer : SpaceReducer} :
    reducer ∈ shown ↔ reducer ∈ plain ∨ ∃ percent ∈ percents, reducer = percentile percent := by
  simp [shown, eq_comm]

/-- Names are understood in the form in which they are shown. -/
theorem names_of_shown {reducer : SpaceReducer} (member : reducer ∈ shown) :
    Names reducer.name reducer := by
  rcases mem_shown_iff.mp member with own | ⟨percent, known, rfl⟩
  · exact .own own
  · rw [← padded_plain]
    exact .padded known (.inl rfl) 0

theorem shown_of_names {name : String} {reducer : SpaceReducer} (named : Names name reducer) :
    reducer ∈ shown := by
  rw [mem_shown_iff]
  rcases named with member | _ | ⟨member, -, -⟩
  · exact .inl member
  · exact .inl (by decide)
  · exact .inr ⟨_, member, rfl⟩

/-- A name stands for one reducer only. -/
theorem Names.unique {name : String} {a b : SpaceReducer} (first : Names name a)
    (second : Names name b) : a = b :=
  Option.some.inj ((ofName?_eq_some_iff.mpr first).symm.trans (ofName?_eq_some_iff.mpr second))

theorem mem_names_shown_iff {text : String} :
    Reducer.spelling text ∈ shown.map name ↔
      ∃ reducer, read text = .ok reducer ∧ reducer.name = Reducer.spelling text := by
  rw [List.mem_map]
  constructor
  · rintro ⟨reducer, member, same⟩
    exact ⟨reducer, read_eq_ok_iff.mpr (same ▸ names_of_shown member), same⟩
  · rintro ⟨reducer, accepted, same⟩
    exact ⟨reducer, shown_of_names (read_eq_ok_iff.mp accepted), same⟩

/-- Names are accepted by what they spell, wherever a reducer is asked for. -/
theorem read_exact (text : String) :
    (∀ reducer, read text = .ok reducer ↔ Names (Reducer.spelling text) reducer) ∧
    (∀ fault, read text = .error fault ↔ (∀ reducer, ¬ Names (Reducer.spelling text) reducer) ∧
      fault = .unknownSpaceReducer (Reducer.spelling text)) ∧
    (Reducer.spelling text ∈ shown.map name ↔
      ∃ reducer, read text = .ok reducer ∧ reducer.name = Reducer.spelling text) ∧
    (∀ reducer, decoder (.string (some text)) = .ok reducer ↔
      Names (Reducer.spelling text) reducer) ∧
    ((∀ reducer, ¬ Names (Reducer.spelling text) reducer) →
      decoder (.string (some text)) = .error .misshapen) ∧
    ∀ (V : Type) [Scalar V] (patterns : PatternEngine) (request : Request V)
      (settings : EngineSettings), request.spaceReducer = text →
        (∀ plan, Plan.ofRequest patterns request settings = .ok plan →
          Names (Reducer.spelling text) plan.spaceReducer) ∧
        ((∀ reducer, ¬ Names (Reducer.spelling text) reducer) →
          ∃ cause, Plan.ofRequest patterns request settings = .error (.query cause)) := by
  refine ⟨fun _ => read_eq_ok_iff, fun _ => read_eq_error_iff, mem_names_shown_iff,
    fun _ => decoder_eq_ok_iff, fun unnamed => ?_, ?_⟩
  · exact decoder_of_unread (read_eq_error_iff.mpr ⟨unnamed, rfl⟩)
  · rintro V scalar patterns request settings rfl
    refine ⟨fun plan planned => ?_, fun unnamed => ?_⟩
    · exact read_eq_ok_iff.mp (Plan.ofRequest_eq_ok_iff.mp planned).spaceReducer
    · exact Plan.ofRequest_of_unread (read_eq_error_iff.mpr ⟨unnamed, rfl⟩) patterns settings

/-- A percentile behind a sign and a zero, and one that has no name. -/
theorem read_exact_signed :
    Names (Reducer.spelling " P+090\t") (percentile 90) ∧
      read " P+090\t" = .ok (percentile 90) ∧
      decoder (.string (some " P+090\t")) = .ok (percentile 90) ∧
      (∀ reducer, ¬ Names (Reducer.spelling "p42") reducer) ∧
      decoder (.string (some "p42")) = .error .misshapen ∧
      ∃ cause, Plan.ofRequest Pattern.engine
        ((Request.plain "up" 0 60000 60 : Request Float).overSpace (percentile 42)) {} =
          .error (.query cause) := by
  have accepted : read " P+090\t" = .ok (percentile 90) := by decide
  have refused : read "p42" = .error (.unknownSpaceReducer "p42") := by decide
  have names := ((read_exact " P+090\t").1 _).mp accepted
  have unnamed := (((read_exact "p42").2.1 _).mp refused).1
  exact ⟨names, accepted, ((read_exact " P+090\t").2.2.2.1 _).mpr names, unnamed,
    (read_exact "p42").2.2.2.2.1 unnamed,
    ((read_exact "p42").2.2.2.2.2 Float _ _ _ (by decide)).2 unnamed⟩

/-- A percentile is also accepted under names that it is not shown under. -/
theorem padded_percentile :
    read "p+50" = .ok (percentile 50) ∧ read "p050" = read "p50" ∧
      Reducer.spelling "p+50" = "p+50" ∧ "p+50" ∉ "mean" :: shown.map name ∧
      (percentile 50).name ≠ "p+50" := by
  decide +kernel

end SpaceReducer

end SeriesQuery
