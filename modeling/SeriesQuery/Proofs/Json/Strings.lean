import SeriesQuery.Json.Printer
import SeriesQuery.Json.StringReader
/-!
String literals. Each character is escaped by itself and read back by itself, so a literal is read
as the content it was written for, whatever characters that holds.
-/
namespace SeriesQuery.Json

theorem hexNumber?_control : ∀ code < 0x20,
    Text.hexNumber? ['0', '0', hexDigit (code / 16), hexDigit code] = some code := by
  decide

/-- Controls stand outside the ranges of surrogates. -/
theorem Content.pushUnit_control {content : Content} (whole : content.half = none) {c : Char}
    (control : c.toNat < 0x20) : content.pushUnit c.toNat = content.push c := by
  have high : isHighHalf c.toNat = false := by
    rw [isHighHalf, Bool.and_eq_false_iff]
    exact .inl (decide_eq_false (by omega))
  have low : isLowHalf c.toNat = false := by
    rw [isLowHalf, Bool.and_eq_false_iff]
    exact .inl (decide_eq_false (by omega))
  rw [pushUnit, whole]
  simp only [high, low, Bool.false_eq_true, if_false, Char.ofNat_toNat]

theorem readString_plain {c : Char} (quote : c ≠ '"') (backslash : c ≠ '\\')
    (printed : ¬ c.toNat < 0x20) (content : Content) (rest : List Char) :
    readString content (c :: rest) = readString (content.push c) rest := by
  rw [readString.eq_def]
  split
  case h_5 split =>
    cases split
    exact if_neg (not_or.mpr ⟨printed, backslash⟩)
  all_goals simp_all

theorem readString_short {letter c : Char} (short : shortEscape? letter = some c)
    (content : Content) (rest : List Char) :
    readString content ('\\' :: letter :: rest) = readString (content.push c) rest := by
  rw [readString.eq_def]
  split
  case h_3 split =>
    cases split
    cases short
  case h_4 split =>
    cases split
    rw [short]
  case h_5 unescaped split =>
    cases split
    exact absurd rfl (unescaped letter rest rfl)
  all_goals simp_all

theorem readString_unit {content : Content} (whole : content.half = none) {c : Char}
    (control : c.toNat < 0x20) (rest : List Char) :
    readString content
      ('\\' :: 'u' :: '0' :: '0' :: hexDigit (c.toNat / 16) :: hexDigit c.toNat :: rest) =
      readString (content.push c) rest := by
  rw [readString, hexNumber?_control c.toNat control, ← Content.pushUnit_control whole control]

/-- One character, escaped where it has to be. -/
theorem readString_escapeChar {content : Content} (whole : content.half = none) (c : Char)
    (rest : List Char) :
    readString content (escapeChar c ++ rest) = readString (content.push c) rest := by
  unfold escapeChar
  split
  · subst c
    exact readString_short rfl content rest
  rename_i quote
  split
  · subst c
    exact readString_short rfl content rest
  rename_i backslash
  split
  · subst c
    exact readString_short rfl content rest
  split
  · subst c
    exact readString_short rfl content rest
  split
  · subst c
    exact readString_short rfl content rest
  split
  · subst c
    exact readString_short rfl content rest
  split
  · subst c
    exact readString_short rfl content rest
  split
  · rename_i control
    exact readString_unit whole control rest
  · rename_i printed
    exact readString_plain quote backslash printed content rest

/-- A literal from within, up to its closing quote. -/
theorem readString_flatMap {content : Content} (whole : content.half = none)
    (text rest : List Char) :
    readString content (text.flatMap escapeChar ++ '"' :: rest) =
      some (Content.finish ⟨text.reverse ++ content.reversed, none, content.paired⟩, rest) := by
  induction text generalizing content with
  | nil =>
      rcases content with ⟨reversed, half, paired⟩
      obtain rfl : half = none := whole
      rfl
  | cons c text ih =>
      rw [List.flatMap_cons, List.append_assoc, readString_escapeChar whole, ih rfl]
      simp [Content.push, whole]

theorem readString_stringText (content : String) (rest : List Char) :
    readString .start (content.toList.flatMap escapeChar ++ '"' :: rest) =
      some (some content, rest) := by
  rw [readString_flatMap rfl]
  simp [Content.finish, Content.start]

end SeriesQuery.Json
