import Cardiac.Proofs.Assembly.Verdict

/-!
# Sources with the same fields

Both passes look at the fields of a line and carry its number along for errors. So two sources whose
lines with code have the same fields one by one are accepted with the same program, or are refused with
the same error on lines that stand at the same place among the lines with code. Only the whole line
that an error quotes is not settled by the fields.
-/
namespace Cardiac.Assembly

/-- The numbers of the lines that have code, among all lines and from 1 on. -/
def codeLines (source : String) : List Nat :=
  ((Text.lines source.toList).zipIdx 1).filterMap fun (line, number) =>
    if (uncommented line).all Text.isBlank then none else some number

/-- As many lines with code come before the one line as before the other. -/
def Matched (source other : String) (line otherLine : Nat) : Prop :=
  ∃ place : Nat, (codeLines source)[place]? = some line ∧ (codeLines other)[place]? = some otherLine

/-- The error without the number of its line and without the line's text. -/
def AssemblyError.unplaced : AssemblyError → AssemblyError
  | .tooFewFields _ _ => .tooFewFields 0 ""
  | .unknownOperation _ name => .unknownOperation 0 name
  | .programTooLarge _ => .programTooLarge 0
  | .duplicateLabel _ label => .duplicateLabel 0 label
  | .noEntryPoint => .noEntryPoint
  | .invalidLiteral _ literal error => .invalidLiteral 0 literal error
  | .undefinedLabel _ name => .undefinedLabel 0 name
  | .operandOutOfRange _ value => .operandOutOfRange 0 value
  | .word error => .word error
  | .address error => .address error

section Matching

variable (matched : Nat → Nat → Prop)

/-- The errors are the same on lines that match. -/
structure AssemblyError.Alike (error other : AssemblyError) : Prop where
  same : error.unplaced = other.unplaced
  lines : Option.Rel matched error.line? other.line?

/-- Both succeed, with results that are related, or both fail alike. -/
inductive ResultsAlike {α β : Type} (related : α → β → Prop) :
    Except AssemblyError α → Except AssemblyError β → Prop where
  | ok {result : α} {other : β} (relates : related result other) :
      ResultsAlike related (.ok result) (.ok other)
  | error {error other : AssemblyError} (alike : error.Alike matched other) :
      ResultsAlike related (.error error) (.error other)

structure Statement.Alike (statement other : Statement) : Prop where
  fields : statement.fields = other.fields
  line : matched statement.line other.line

structure Placement.Alike (placement other : Placement) : Prop where
  address : placement.address = other.address
  operation : placement.operation = other.operation
  operand : placement.operand = other.operand
  line : matched placement.line other.line

structure Layout.Alike (layout other : Layout) : Prop where
  next : layout.next = other.next
  symbols : layout.symbols = other.symbols
  placements : List.Forall₂ (Placement.Alike matched) layout.placements other.placements
  start : layout.start = other.start

/-- Both first passes succeed, with layouts that are alike, or both fail alike. -/
inductive PassesAlike : Except AssemblyError Unit × Layout → Except AssemblyError Unit × Layout →
    Prop where
  | ok {layout other : Layout} (alike : layout.Alike matched other) :
      PassesAlike (.ok (), layout) (.ok (), other)
  | error {error other : AssemblyError} {left otherLeft : Layout} (alike : error.Alike matched other) :
      PassesAlike (.error error, left) (.error other, otherLeft)

end Matching

variable {matched : Nat → Nat → Prop}

namespace ResultsAlike

theorem bind {α β γ δ : Type} {related : α → β → Prop} {final : γ → δ → Prop}
    {x : Except AssemblyError α} {y : Except AssemblyError β} {f : α → Except AssemblyError γ}
    {g : β → Except AssemblyError δ} (alike : ResultsAlike matched related x y)
    (rest : ∀ a b, related a b → ResultsAlike matched final (f a) (g b)) :
    ResultsAlike matched final (x >>= f) (y >>= g) := by
  cases alike with
  | ok relates => exact rest _ _ relates
  | error alike => exact .error alike

theorem foldlM {α β γ δ : Type} {related : α → β → Prop} {kept : γ → δ → Prop} {xs : List α}
    {ys : List β} {f : γ → α → Except AssemblyError γ} {g : δ → β → Except AssemblyError δ}
    (members : List.Forall₂ related xs ys)
    (step : ∀ a b, related a b → ∀ c d, kept c d → ResultsAlike matched kept (f c a) (g d b))
    {first : γ} {second : δ} (start : kept first second) :
    ResultsAlike matched kept (xs.foldlM f first) (ys.foldlM g second) := by
  induction members generalizing first second with
  | nil => exact .ok start
  | cons relates _ ih =>
    rw [List.foldlM_cons, List.foldlM_cons]
    exact (step _ _ relates _ _ start).bind fun _ _ kept => ih kept

end ResultsAlike

/-! ### The first pass -/

theorem Layout.Alike.noteStart {layout other : Layout} (alike : layout.Alike matched other)
    (operation : Operation) : (layout.noteStart operation).Alike matched (other.noteStart operation) := by
  unfold Layout.noteStart
  rw [← alike.start, ← alike.next]
  split
  · exact ⟨rfl, alike.symbols, alike.placements, rfl⟩
  · exact alike

theorem Layout.Alike.define {layout other : Layout} (alike : layout.Alike matched other)
    {line otherLine : Nat} (lines : matched line otherLine) (label : String) :
    PassesAlike matched (layout.define line label) (other.define otherLine label) := by
  unfold Layout.define
  rw [← alike.symbols, ← alike.next]
  split
  · exact .ok alike
  · split
    · exact .error ⟨rfl, .some lines⟩
    · exact .ok ⟨rfl, rfl, alike.placements, alike.start⟩

theorem Layout.Alike.place {layout other : Layout} (alike : layout.Alike matched other)
    {line otherLine : Nat} (lines : matched line otherLine) (label : String)
    (operation : Operation) (operand : String) :
    PassesAlike matched (layout.place line label operation operand)
      (other.place otherLine label operation operand) := by
  have defined := (alike.noteStart operation).define lines label
  unfold Layout.place
  rw [← alike.next]
  split
  · exact .error ⟨rfl, .some lines⟩
  · revert defined
    generalize (layout.noteStart operation).define line label = first
    generalize (other.noteStart operation).define otherLine label = second
    rintro (same | fails)
    · exact .ok
        { next := rfl
          symbols := same.symbols
          placements := List.rel_append alike.placements (.cons ⟨rfl, rfl, rfl, lines⟩ .nil)
          start := same.start }
    · exact .error fails

theorem Layout.Alike.add {layout other : Layout} (alike : layout.Alike matched other)
    {statement otherStatement : Statement} (same : statement.Alike matched otherStatement) :
    PassesAlike matched (layout.add statement) (other.add otherStatement) := by
  unfold Layout.add
  rw [← same.fields]
  split
  · split
    · exact alike.place same.line ..
    · exact .error ⟨rfl, .some same.line⟩
  · exact .error ⟨rfl, .some same.line⟩

theorem Layout.Alike.addAll {layout other : Layout} (alike : layout.Alike matched other)
    {statements others : List Statement}
    (same : List.Forall₂ (Statement.Alike matched) statements others) :
    PassesAlike matched (layout.addAll statements) (other.addAll others) := by
  induction same generalizing layout other with
  | nil => exact .ok alike
  | cons first _ ih =>
    have added := alike.add first
    revert added
    unfold Layout.addAll
    generalize layout.add _ = first
    generalize other.add _ = second
    rintro (same | fails)
    · exact ih same
    · exact .error fails

/-! ### The second pass -/

theorem resolve_alike {line otherLine : Nat} (lines : matched line otherLine)
    (symbols : List (String × Nat)) (operand : String) :
    ResultsAlike matched Eq (resolve symbols line operand) (resolve symbols otherLine operand) := by
  unfold resolve
  split
  · exact .ok rfl
  · split
    · exact .ok rfl
    · exact .error ⟨rfl, .some lines⟩

theorem Placement.Alike.word {placement other : Placement} (alike : placement.Alike matched other)
    (symbols : List (String × Nat)) :
    ResultsAlike matched Eq (placement.word symbols) (other.word symbols) := by
  have resolved := resolve_alike alike.line symbols placement.operand
  unfold Placement.word
  rw [← alike.operation, ← alike.operand]
  split
  · split
    · exact .ok rfl
    · exact .error ⟨rfl, .some alike.line⟩
  · revert resolved
    generalize resolve symbols placement.line placement.operand = first
    generalize resolve symbols other.line placement.operand = second
    rintro (⟨rfl⟩ | fails)
    · simp only
      split
      · exact .ok rfl
      · exact .error ⟨rfl, .some alike.line⟩
    · exact .error fails

theorem addPair_alike (image : CardImage) (address : Nat) (word : Word) :
    ResultsAlike matched Eq (addPair image address word) (addPair image address word) := by
  unfold addPair
  cases image.push address word with
  | ok grown => exact .ok rfl
  | error error => exact .error ⟨rfl, .none⟩

theorem addJump_alike (image : CardImage) (target : Nat) :
    ResultsAlike matched Eq (addJump image target) (addJump image target) := by
  unfold addJump
  split
  · exact addPair_alike ..
  · exact .error ⟨rfl, .none⟩

theorem Placement.Alike.addPlacement {placement other : Placement}
    (alike : placement.Alike matched other) (symbols : List (String × Nat)) (image : CardImage) :
    ResultsAlike matched Eq (addPlacement symbols image placement)
      (addPlacement symbols image other) := by
  refine (alike.word symbols).bind fun word _ same => ?_
  subst same
  rw [alike.address]
  exact addPair_alike ..

theorem Layout.Alike.image {layout other : Layout} (alike : layout.Alike matched other)
    (start : Nat) : ResultsAlike matched Eq (layout.image start) (other.image start) := by
  refine (addJump_alike ..).bind fun first _ same => ?_
  subst same
  rw [← alike.symbols]
  refine ResultsAlike.bind (ResultsAlike.foldlM alike.placements ?_ rfl) fun loaded _ same => ?_
  · rintro placement otherPlacement same image _ rfl
    exact same.addPlacement ..
  · subst same
    exact addJump_alike ..

theorem Layout.Alike.program {layout other : Layout} (alike : layout.Alike matched other) :
    ResultsAlike matched Eq layout.program other.program := by
  unfold Layout.program
  rw [← alike.start, ← alike.symbols]
  split
  · exact .error ⟨rfl, .none⟩
  · refine (alike.image _).bind fun image _ same => ?_
    subst same
    exact .ok rfl

theorem ofStatements_alike {statements others : List Statement}
    (alike : List.Forall₂ (Statement.Alike matched) statements others) :
    ResultsAlike matched Eq (ofStatements statements) (ofStatements others) := by
  have empty : Layout.Alike matched {} {} := ⟨rfl, rfl, .nil, rfl⟩
  have passed := empty.addAll alike
  revert passed
  unfold ofStatements Layout.ofStatements
  generalize Layout.addAll {} statements = first
  generalize Layout.addAll {} others = second
  rintro (same | fails)
  · exact same.program
  · exact .error fails

/-! ### Sources -/

theorem map_line_statements (source : String) :
    (statements source).map Statement.line = codeLines source := by
  rw [statements_eq_filterMap, codeLines, List.map_filterMap]
  refine List.filterMap_congr fun numbered _ => ?_
  obtain ⟨line, number⟩ := numbered
  have coded := fieldsOfLine_eq_nil_iff line
  by_cases blank : fieldsOfLine line = []
  · simp only [statement?_of_blank blank, if_pos (coded.mp blank), Option.map_none]
  · simp only [statement?_of_fields blank, if_neg (mt coded.mpr blank), Option.map_some]

theorem statements_alike {source other : String} (same : fieldLists source = fieldLists other) :
    List.Forall₂ (Statement.Alike (Matched source other)) (statements source)
      (statements other) := by
  rw [← map_fields_statements, ← map_fields_statements] at same
  rw [List.forall₂_iff_get]
  refine ⟨by simpa using congrArg List.length same, fun place inside otherInside => ⟨?_, ?_⟩⟩
  · have fields := congrArg (·[place]?) same
    simpa [inside, otherInside] using fields
  · refine ⟨place, ?_, ?_⟩
    · simp [← map_line_statements, inside]
    · simp [← map_line_statements, otherInside]

/-- The sources come to the same program, or to the same error on matching lines. -/
def AssembledAlike (source other : String) : Prop :=
  ResultsAlike (Matched source other) Eq (assemble source) (assemble other)

theorem AssembledAlike.eq_ok {source other : String} {program : AssembledProgram}
    (alike : AssembledAlike source other) (accepted : assemble source = .ok program) :
    assemble other = .ok program := by
  unfold AssembledAlike at alike
  rw [accepted] at alike
  generalize assemble other = result at alike
  cases alike with
  | ok same => rw [same]

theorem assembledAlike_of_fieldLists {source other : String}
    (same : fieldLists source = fieldLists other) : AssembledAlike source other :=
  ofStatements_alike (statements_alike same)

end Cardiac.Assembly
