import SeriesQuery.Proofs.Filter.Progress
/-!
The shape of what is read. Main statement: chains lean to the left and conjunction binds closer than
disjunction, so that only groups hold the other nestings; and keys, lists and literals are well
formed at every node.
-/
namespace SeriesQuery.Filter

namespace Expr

/-- An expression and all its parts. -/
def nodes : Expr → List Expr
  | not inner => .not inner :: inner.nodes
  | and left right => .and left right :: (left.nodes ++ right.nodes)
  | or left right => .or left right :: (left.nodes ++ right.nodes)
  | group inner => .group inner :: inner.nodes
  | leaf => [leaf]

def isOr : Expr → Bool
  | or _ _ => true
  | _ => false

def isLogical : Expr → Bool
  | and _ _ => true
  | or _ _ => true
  | _ => false

theorem isOr_of_isLogical {expr : Expr} (closed : expr.isLogical = false) :
    expr.isOr = false := by
  cases expr with
  | or left right => cases closed
  | _ => rfl

end Expr

/-- A word lacks one of the quotes, and a number is a decimal one and has its value. -/
def Literal.Regular : Literal → Prop
  | word content => ¬ ('"' ∈ content.toList ∧ '\'' ∈ content.toList)
  | number value written => readScalar? written = some value ∧
      ∃ decimal, DecimalText decimal written.toList ∧ value = decimal.toFloat

/-- What holds of one node of an expression; the filter of all is no node of another filter. -/
def Expr.Regular : Expr → Prop
  | comparison key _ value => KeyName key ∧ value.Regular
  | oneOf key values _ => KeyName key ∧ values ≠ [] ∧ ∀ value ∈ values, value.Regular
  | present key _ => KeyName key
  | not inner => inner.isLogical = false
  | and left right => left.isOr = false ∧ right.isLogical = false
  | or _ right => right.isOr = false
  | group _ => True
  | all => False

/-! Literals -/

theorem Quotes.regular {written : List Char} {value : Literal} (quotes : Quotes written value) :
    value.Regular := by
  rcases quotes with ⟨rfl | rfl, absent⟩
  · rintro ⟨double, -⟩
    rw [String.toList_ofList] at double
    exact absent double
  · rintro ⟨-, single⟩
    rw [String.toList_ofList] at single
    exact absent single

theorem Plain.regular {written : List Char} {value : Literal} (plain : Plain written value) :
    value.Regular := by
  cases plain with
  | number text =>
      exact ⟨text.readScalar?_eq, _, by rwa [String.toList_ofList], rfl⟩
  | word wordy =>
      rintro ⟨double, -⟩
      rw [String.toList_ofList] at double
      have bare := wordy.bare _ double
      rw [isBareChar_of_mem_marks (by decide)] at bare
      cases bare

theorem Denotes.regular {written : List Char} {value : Literal} (denotes : Denotes written value) :
    value.Regular := by
  rcases denotes with quotes | plain
  · exact quotes.regular
  · exact plain.regular

theorem Items.regular {written : List Char} {values : List Literal} (items : Items written values) :
    ∀ value ∈ values, value.Regular := by
  induction items with
  | nil => simp
  | cons _ _ denotes _ ih =>
      intro value member
      rcases List.mem_cons.mp member with rfl | member
      · exact denotes.regular
      · exact ih value member

theorem Lists.regular {list : List Char} {values : List Literal} (lists : Lists list values) :
    values ≠ [] ∧ ∀ value ∈ values, value.Regular := by
  cases lists with
  | intro _ denotes others _ =>
      refine ⟨by simp, ?_⟩
      intro value member
      rcases List.mem_cons.mp member with rfl | member
      · exact denotes.regular
      · exact others.regular value member

/-! Expressions -/

/-- What the grammar has at a level: terms are not chains, conjunctions hold no disjunction. -/
def Level.Admits : Level → Expr → Prop
  | term, expr => expr.isLogical = false
  | conjunction, expr => expr.isOr = false
  | disjunction, _ => True

theorem Says.regular {context : Context} {key written : List Char} {expr : Expr}
    (said : Says context key written expr) (name : KeyName (String.ofList key)) :
    expr.isLogical = false ∧ ∀ node ∈ expr.nodes, node.Regular := by
  cases said with
  | present negates spelt free => exact ⟨rfl, List.forall_mem_singleton.mpr name⟩
  | oneOf negates spelt blank lists =>
      exact ⟨rfl, List.forall_mem_singleton.mpr ⟨name, lists.regular⟩⟩
  | symbol known blank literal =>
      exact ⟨rfl, List.forall_mem_singleton.mpr ⟨name, literal.denotes.regular⟩⟩
  | contains spelt blank literal =>
      exact ⟨rfl, List.forall_mem_singleton.mpr ⟨name, literal.denotes.regular⟩⟩

theorem Spells.regular {level : Level} {context : Context} {text : List Char} {expr : Expr}
    (spells : Spells level context text expr) :
    level.Admits expr ∧ ∀ node ∈ expr.nodes, node.Regular := by
  -- On the derivation: what a level admits is what the nodes above it ask of their parts.
  induction spells with
  | spaced _ _ ih => exact ih
  | negation _ _ _ ih => exact ⟨rfl, List.forall_mem_cons.mpr ⟨ih.1, ih.2⟩⟩
  | group _ _ ih => exact ⟨rfl, List.forall_mem_cons.mpr ⟨trivial, ih.2⟩⟩
  | predicate nonempty passed _ _ said => exact said.regular (.ofList nonempty passed)
  | term _ ih => exact ⟨Expr.isOr_of_isLogical ih.1, ih.2⟩
  | and _ _ _ ihLeft ihRight =>
      exact ⟨rfl, List.forall_mem_cons.mpr
        ⟨⟨ihLeft.1, ihRight.1⟩, List.forall_mem_append.mpr ⟨ihLeft.2, ihRight.2⟩⟩⟩
  | conjunction _ ih => exact ⟨trivial, ih.2⟩
  | or _ _ _ ihLeft ihRight =>
      exact ⟨trivial, List.forall_mem_cons.mpr
        ⟨ihRight.1, List.forall_mem_append.mpr ⟨ihLeft.2, ihRight.2⟩⟩⟩

theorem Expr.regular_ne_all {expr : Expr} (regular : ∀ node ∈ expr.nodes, node.Regular) :
    Expr.all ∉ expr.nodes := fun member => regular _ member

/-- What is read is the filter of all, for the empty text alone, or regular at every node. -/
theorem readExpr_regular {text : String} {expr : Expr} (read : readExpr text = .ok expr) :
    (Text.trim text = "" ↔ expr = .all) ∧
    (expr ≠ .all → Expr.all ∉ expr.nodes ∧ ∀ node ∈ expr.nodes, node.Regular) := by
  have empty : Text.trim text = "" ↔ Text.trimmed text.toList = [] := by
    rw [Text.trim, ← String.toList_eq_nil_iff, String.toList_ofList]
  rcases readExpr_eq_ok_iff.mp read with ⟨nothing, rfl⟩ | spells
  · exact ⟨iff_of_true (empty.mpr nothing) rfl, fun other => absurd rfl other⟩
  · have regular := spells.regular.2
    have whole : expr ≠ .all := by
      rintro rfl
      exact regular _ List.mem_cons_self
    exact ⟨iff_of_false (fun same => spells.ne_nil (empty.mp same)) whole,
      fun _ => ⟨Expr.regular_ne_all regular, regular⟩⟩

/-- A negation, a conjunction and a group in a disjunction, without blanks where none are needed. -/
theorem readExpr_regular_layered :
    readExpr "not a=1&&b in(x,\"it's\")or(c exists||d<-2.5e1)" =
      .ok (.or
        (.and (.not (.comparison "a" .equal (.number 1 "1")))
          (.oneOf "b" [.word "x", .word "it's"] false))
        (.group (.or (.present "c" false) (.comparison "d" .less (.number (-25) "-2.5e1"))))) ∧
    readScalar? "-2.5e1" = some (-25 : Float) ∧
      ∃ decimal, DecimalText decimal "-2.5e1".toList ∧ -25 = decimal.toFloat := by
  have read : readExpr "not a=1&&b in(x,\"it's\")or(c exists||d<-2.5e1)" =
      .ok (.or
        (.and (.not (.comparison "a" .equal (.number 1 "1")))
          (.oneOf "b" [.word "x", .word "it's"] false))
        (.group (.or (.present "c" false) (.comparison "d" .less (.number (-25) "-2.5e1"))))) :=
    readExpr_of_readBy (by decide +kernel)
  have regular := ((readExpr_regular read).2 (by decide)).2
    (.comparison "d" .less (.number (-25) "-2.5e1")) (by decide)
  exact ⟨read, regular.2⟩

end SeriesQuery.Filter
