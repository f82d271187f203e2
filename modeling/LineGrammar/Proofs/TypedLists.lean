import LineGrammar.Proofs.Containment
import LineGrammar.Proofs.Lists

/-!
# Lists of a type

The plainest expression with a list is a keyword and a list capture with a type. A line of it divides
into the keyword, white space, the text of the list and white space up to the end, and its one value is
the value of that text: what the pattern of the list leads over is what the splitter gets to see.

This is said for every pattern that the list of a fragment can be read as. What the list is made of
depends on the fragment and is not said here.
-/

namespace LineGrammar

open LineGrammar.Text LineGrammar.Pattern

/-! ## The expression -/

/-- A text that is a pattern on its own, without groups and without switches for the whole, is registered
as the pattern of a type. -/
theorem TypeTable.exists_register (types : TypeTable) (name : String) {fragment : String} {own : Pattern}
    (alone : Pattern.read fragment .none = .ok own) (groups : own.groups = 0)
    (switches : own.switches = .none) (conversion : Option Conversion) :
    ∃ typed, types.register name fragment conversion = .ok typed ∧
      typed.lookup name = some ⟨name, fragment, conversion⟩ := by
  have registered : ∃ typed, types.register name fragment conversion = .ok typed := by
    simp [register, accepts_alone name alone groups switches]
  obtain ⟨typed, registered⟩ := registered
  exact ⟨typed, registered, lookup_register registered⟩

/-- The token of a list with a type. -/
def Token.typedList (name typeName : String) : Token := ⟨.argumentList, name, none, some typeName, none⟩

/-- An expression of a keyword and a list with a type has these tokens. -/
theorem Phrase.of_typedList {word name typeName : String} (keyword : IsKeyword word)
    (named : IsKeyword name) (type : IsTypeName typeName) :
    Phrase.of (word ++ " *" ++ name ++ "@" ++ typeName) =
      .ok (Phrase.ofKeywords [word] (.typedList name typeName)) :=
  of_sigil_typed (show TokenKind.ofSigil? '*' = some .argumentList from rfl) keyword named type rfl
    fun segment => by
      simp [Token.ofPiece, Token.typedList, TokenKind.ofSigil?]

/-- The capture of a list with a type. -/
def Capture.typedList (name : String) (type : ValueType) (splitter : Pattern) : Capture :=
  ⟨name, .argumentList, some type, some splitter⟩

/-- A keyword and a list with a type of the table are compiled to both. -/
theorem Phrase.compiled_typedList {types : TypeTable} {typeName : String} {type : ValueType}
    (known : types.lookup typeName = some type) {splitter : Pattern}
    (isSplitter : Pattern.read (Fragment.listElement type.pattern) .none = .ok splitter)
    (word name : String) :
    (ofKeywords [word] (.typedList name typeName)).compiled types =
      .ok (typedBody word (Fragment.oneOrMoreOf type.pattern), [.typedList name type splitter]) := by
  simp [ofKeywords, Phrase.compiled, typedBody, Token.compiled, Token.keyword, Token.typedList,
    Token.typeIn, known, Token.element, Token.splitterOf, isSplitter, Capture.typedList, bind,
    Except.bind, pure, Except.pure]

/-! ## Captured texts -/

namespace Pattern.Divides

variable {own : Pattern} {word : List Char} {line : Array Char} {gap captured tail : List Char}

/-- A line that divides holds the captured text behind the keyword and the white space. -/
theorem held (divides : own.Divides word line gap captured tail) :
    Holds line (word.length + gap.length) captured := by
  refine ⟨tail, ?_⟩
  rw [divides.whole, ← List.append_assoc, ← List.length_append, List.drop_left]

/-- Where the pattern leads over the pieces of a language, the captured text is one of them. -/
theorem mem (divides : own.Divides word line gap captured tail) {pieces : Language Char}
    (recognizes : Recognizes .none own.root pieces) : captured ∈ pieces := by
  obtain ⟨groups, taken⟩ := divides.taken
  obtain ⟨piece, inside, held, same⟩ := (recognizes line _ _).mp taken
  have length : captured.length = piece.length := by
    have positions := congrArg Place.position same
    simpa using positions
  exact divides.held.unique held length ▸ inside

/-- Behind a keyword and one blank, a text that neither begins nor ends with white space is captured as
a whole. -/
theorem captured_eq (divides : own.Divides word line gap captured tail) {text : List Char}
    (written : line.toList = word ++ ' ' :: text) (start : ∀ c ∈ text.head?, isSpace c = false)
    (stop : ∀ c ∈ text.getLast?, isSpace c = false) : captured = text := by
  have parts : gap ++ (captured ++ tail) = ' ' :: text :=
    List.append_cancel_left (divides.whole.symm.trans written)
  obtain ⟨c, others, rfl⟩ := List.exists_cons_of_ne_nil divides.spaced.1
  obtain ⟨-, parts⟩ := List.cons.inj parts
  have front : others = [] := by
    cases others with
    | nil => rfl
    | cons d others =>
      have space := divides.spaced.2 d (by simp)
      rw [start d (by simp [← parts])] at space
      cases space
  have back : tail = [] := by
    cases tail using List.reverseRecOn with
    | nil => rfl
    | append_singleton others d =>
      have space := divides.blank d (by simp)
      rw [stop d (by simp [← parts, ← List.append_assoc])] at space
      cases space
  simpa [front, back] using parts

end Pattern.Divides

namespace Expression

/-- An expression has one capture and matches the lines that divide into a keyword, white space, a text
that a pattern leads over and white space; its capture has that text. -/
structure Divides (expression : Expression) (own : Pattern) (word : List Char) (capture : Capture) :
    Prop where
  captures : expression.captures = [capture]
  groups : expression.pattern.groups = 1
  matches_iff : ∀ line, (expression.pattern.matchStart line).isSome = true ↔
    ∃ gap captured tail, own.Divides word line gap captured tail
  divided : ∀ line found, expression.pattern.matchStart line = some found →
    ∃ gap captured tail, own.Divides word line gap captured tail ∧ found.start = 0 ∧
      found.stop = line.size ∧ found.span? 1 =
        some (word.length + gap.length, word.length + gap.length + captured.length)

variable {expression : Expression} {own : Pattern} {word : List Char} {capture : Capture}
  {line : String}

/-- A line that is read divides, and the one value of the reading is the value of the captured text. -/
theorem Divides.of_read (parts : expression.Divides own word capture) {reading : Reading}
    (read : expression.read line = .ok (some reading)) :
    ∃ gap captured tail value, own.Divides word line.toList.toArray gap captured tail ∧
      Reading.groupText? reading.line reading.found 1 = some (String.ofList captured) ∧
      capture.value (some expression.text) (String.ofList captured) = .ok value ∧
      reading.captures = [(capture.name, value)] := by
  obtain ⟨matched, isLine, computed⟩ := read_eq_some read
  obtain ⟨gap, captured, tail, divides, -, -, group⟩ := parts.divided _ _ matched
  have text : Reading.groupText? line.toList.toArray reading.found 1 = some (String.ofList captured) := by
    rw [Reading.groupText?, group, Option.map_some, slice_of_holds divides.held]
  rw [parts.captures, parts.groups, List.take_succ_cons, List.take_zero, Reading.valuesFrom, text]
    at computed
  obtain ⟨value, here, same⟩ := Except.bind_eq_ok.mp computed
  exact ⟨gap, captured, tail, value, divides, isLine ▸ text, here, (Except.ok.inj same).symm⟩

/-- A line that divides in one way only is read when the captured text has a value. -/
theorem Divides.exists_read (parts : expression.Divides own word capture) {gap captured tail : List Char}
    (divides : own.Divides word line.toList.toArray gap captured tail)
    (only : ∀ {gap' captured' tail'}, own.Divides word line.toList.toArray gap' captured' tail' →
      captured' = captured) {value : Value}
    (computed : capture.value (some expression.text) (String.ofList captured) = .ok value) :
    ∃ reading, expression.read line = .ok (some reading) ∧
      reading.value (.name capture.name) = .ok value := by
  obtain ⟨found, matched⟩ := Option.isSome_iff_exists.mp
    ((parts.matches_iff _).mpr ⟨gap, captured, tail, divides⟩)
  obtain ⟨gap', captured', tail', divides', -, -, group⟩ := parts.divided _ _ matched
  have text : Reading.groupText? line.toList.toArray found 1 = some (String.ofList captured) := by
    rw [Reading.groupText?, group, Option.map_some, slice_of_holds divides'.held, only divides']
  have values : Reading.valuesFrom (some expression.text) line.toList.toArray found 1
      (expression.captures.take expression.pattern.groups) = .ok [(capture.name, value)] := by
    rw [parts.captures, parts.groups, List.take_succ_cons, List.take_zero, Reading.valuesFrom, text]
    simp [computed, Reading.valuesFrom, bind, Except.bind, pure, Except.pure]
  refine ⟨_, read_of_matchStart matched values, ?_⟩
  simp [Reading.value, Reading.named, Table.ofEntries, Table.get?_insert]

/-- A keyword and a list of a type are compiled, whatever pattern the list is read as. -/
theorem compile_typedList {types : TypeTable} {word name typeName : String} {type : ValueType}
    (known : types.lookup typeName = some type) (keyword : IsKeyword word) (named : IsKeyword name)
    (isType : IsTypeName typeName) {nodes : List Node}
    (enclosed : Enclosed (Fragment.oneOrMoreOf type.pattern).toList 0 fun _ => nodes)
    (tree : own.root = .ofBranches nodes) {splitter : Pattern}
    (isSplitter : Pattern.read (Fragment.listElement type.pattern) .none = .ok splitter) :
    ∃ expression, Expression.compile types (word ++ " *" ++ name ++ "@" ++ typeName) = .ok expression ∧
      expression.Divides own word.toList (.typedList name type splitter) := by
  obtain ⟨pattern, isPattern, groups, lines⟩ := enclosed.divided_line tree word.toList
    (toList_wholeLine_typed word (Fragment.oneOrMoreOf type.pattern))
  have compiled := Phrase.compiled_typedList known isSplitter word name
  exact ⟨_, compile_eq_ok.mpr ⟨_, Phrase.of_typedList keyword named isType, _, _, compiled, pattern,
    isPattern, rfl⟩, rfl, groups, fun line => (lines line).1, fun line => (lines line).2⟩

end Expression

end LineGrammar
