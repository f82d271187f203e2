import LineGrammar.Pattern.Basic
import LineGrammar.Pattern.Escape
import Mathlib.Data.List.Forall2

/-!
# Spellings

A text spells a list of items when a reader that meets the text, whatever stands before and behind
it, puts exactly these items at the end of its current branch. `Spells` says so, and `Operand` says it
of a text that is one item and can be repeated. The rules of this module are those of texts without
inner structure: escaped characters, classes, anchors and sets, and texts one after the other.

A mark of repetition can be continued by a further mark, so what stands behind a text must not begin
with one. Widths of closed groups and positions are followed only as far as to say that there are
some, because nothing in these patterns refers back to a group.
-/

namespace LineGrammar.Pattern

open LineGrammar.Text

namespace Symbol

/-- A character that is no backslash is a symbol by itself. -/
theorem ofChars_plain {c : Char} (other : c ≠ backslash) (rest : List Char) :
    ofChars (c :: rest) = plain c :: ofChars rest := by
  rw [ofChars.eq_def]
  exact if_neg other

/-- A backslash makes one symbol with the next character. -/
theorem ofChars_escaped (c : Char) (rest : List Char) :
    ofChars (backslash :: c :: rest) = escaped c :: ofChars rest := by
  rw [ofChars.eq_def]
  exact if_pos rfl

/-- A text that ends between two symbols is cut on its own. -/
theorem ofChars_append {text : List Char} (clean : dangling ∉ ofChars text) (more : List Char) :
    ofChars (text ++ more) = ofChars text ++ ofChars more := by
  fun_induction ofChars text with
  | case1 => rfl
  | case2 => simp at clean
  | case3 d rest ih =>
    simp only [List.mem_cons, reduceCtorEq, false_or] at clean
    rw [List.cons_append, List.cons_append, ofChars_escaped, ih clean, List.cons_append]
  | case4 c rest other ih =>
    simp only [List.mem_cons, reduceCtorEq, false_or] at clean
    rw [List.cons_append, ofChars_plain other, ih clean, List.cons_append]

end Symbol

/-- What follows a repetition does not begin with a mark that would change its greed. -/
def Calm (symbols : List Symbol) : Prop :=
  symbols.head? ≠ some (.plain '?') ∧ symbols.head? ≠ some (.plain '+')

/-- The end of a pattern is calm. -/
theorem Calm.nil : Calm [] := by simp [Calm]

/-- Calm symbols with others behind them are calm. -/
theorem Calm.append {symbols tail : List Symbol} (front : Calm symbols) (behind : Calm tail) :
    Calm (symbols ++ tail) := by
  cases symbols with
  | nil => exact behind
  | cons symbol rest => exact front

/-! ## Steps of a reader -/

/-- A reader at another place of the pattern. -/
def Reader.moved (reader : Reader) (position : Nat) (rest : List Symbol) : Reader :=
  { reader with position, rest }

/-- A reader at another place has there what is ahead of it. -/
@[simp] theorem Reader.moved_rest (reader : Reader) (position : Nat) (rest : List Symbol) :
    (reader.moved position rest).rest = rest := rfl

/-- Of two moves, the second one counts. -/
@[simp] theorem Reader.moved_moved (reader : Reader) (position first : Nat)
    (rest tail : List Symbol) :
    (reader.moved first rest).moved position tail = reader.moved position tail := rfl

namespace Reading

variable {reader : Reader} {symbol : Symbol} {tail : List Symbol}

/-- A part of a reader that succeeds hands its result and its reader on. -/
theorem bind_ok {α β : Type} {first : Reading α} {then_ : α → Reading β} {next : Reader} {a : α}
    (taken : first reader = .ok (a, next)) : (first >>= then_) reader = then_ a next := by
  change (first reader >>= fun result => then_ result.1 result.2) = _
  rw [taken]
  rfl

/-- A part that looks at the reader goes on with the reader itself. -/
theorem get_bind {β : Type} {then_ : Reader → Reading β} :
    ((get : Reading Reader) >>= then_) reader = then_ reader reader := rfl

/-- Passing over the next symbol. -/
theorem advance_one (ahead : reader.rest = symbol :: tail) (clean : .dangling ∉ tail) :
    advance 1 reader = .ok ((), reader.moved (reader.position + symbol.size) tail) := by
  obtain ⟨position, rest, switches, opened, widths, names, limit, awaited, level, outer⟩ := reader
  subst ahead
  cases tail with
  | nil => cases symbol <;> rfl
  | cons next tail =>
    cases next with
    | plain c => cases symbol <;> rfl
    | escaped c => cases symbol <;> rfl
    | dangling => exact absurd List.mem_cons_self clean

/-- Taking the next symbol. -/
theorem take_some (ahead : reader.rest = symbol :: tail) (clean : .dangling ∉ tail) :
    take? reader = .ok (some symbol, reader.moved (reader.position + symbol.size) tail) := by
  have found : next? reader = .ok (some symbol, reader) := by
    change Except.ok (reader.rest.head?, reader) = _
    rw [ahead]
    rfl
  rw [take?, bind_ok found, bind_ok (advance_one ahead clean)]
  rfl

/-- The character that is asked for is the next one. -/
theorem accept_true {c : Char} (ahead : reader.rest = .plain c :: tail) (clean : .dangling ∉ tail) :
    accept c reader = .ok (true, reader.moved (reader.position + 1) tail) := by
  have found : next? reader = .ok (some (.plain c), reader) := by
    change Except.ok (reader.rest.head?, reader) = _
    rw [ahead]
    rfl
  rw [accept, bind_ok found, if_pos rfl, bind_ok (advance_one ahead clean)]
  rfl

/-- The character that is asked for is not the next one. -/
theorem accept_false {c : Char} (other : reader.rest.head? ≠ some (.plain c)) :
    accept c reader = .ok (false, reader) := by
  have found : next? reader = .ok (reader.rest.head?, reader) := rfl
  rw [accept, bind_ok found, if_neg other]
  rfl

/-- One symbol that begins an item is taken together with what belongs to it. -/
theorem step_item {next : Reader} (ahead : reader.rest = symbol :: tail) (clean : .dangling ∉ tail)
    (plain : reader.level.verbose = false) (bar : symbol ≠ .plain '|') (close : symbol ≠ .plain ')')
    (taken : item reader.position symbol (reader.moved (reader.position + symbol.size) tail) =
      .ok ((), next)) :
    step reader = .ok (true, next) := by
  rw [step, get_bind]
  simp only [ahead, plain, Bool.false_and, Bool.false_eq_true, if_false]
  rw [bind_ok (advance_one ahead clean), bind_ok taken]
  rfl

end Reading

/-- One reader goes on to another by steps each of which takes symbols. -/
inductive Reader.Reaches : Reader → Reader → Prop
  | here (reader : Reader) : Reaches reader reader
  | step {reader middle last : Reader} (taken : Reading.step reader = .ok (true, middle))
      (shorter : middle.rest.length < reader.rest.length) (more : Reaches middle last) :
      Reaches reader last

namespace Reader.Reaches

variable {first middle last : Reader}

/-- What is reached from a reader that was reached is reached. -/
theorem trans (one : first.Reaches middle) (two : middle.Reaches last) : first.Reaches last := by
  induction one with
  | here => exact two
  | step taken shorter _ ih => exact .step taken shorter (ih two)

/-- One step that takes symbols reaches its end. -/
theorem single (taken : Reading.step first = .ok (true, last))
    (shorter : last.rest.length < first.rest.length) : first.Reaches last :=
  .step taken shorter (.here last)

/-- Reading up to the end follows the steps, since each of them takes a symbol. -/
theorem steps (reached : first.Reaches last) (ended : last.rest = []) (n : Nat)
    (enough : first.rest.length < n) : Reading.steps n first = .ok ((), last) := by
  induction reached generalizing n with
  | here reader =>
    obtain ⟨n, rfl⟩ := Nat.exists_eq_succ_of_ne_zero (by omega : n ≠ 0)
    have stopped : Reading.step reader = .ok (false, reader) := by
      rw [Reading.step, Reading.get_bind]
      simp only [ended]
      rfl
    rw [Reading.steps, Reading.bind_ok stopped]
    rfl
  | step taken shorter _ ih =>
    obtain ⟨n, rfl⟩ := Nat.exists_eq_succ_of_ne_zero (by omega : n ≠ 0)
    rw [Reading.steps, Reading.bind_ok taken]
    exact ih ended n (by omega)

end Reader.Reaches

/-! ## Items -/

/-- A reader that has gone on in the pattern within its level, which has changed. -/
def Reader.holding (reader : Reader) (position : Nat) (rest : List Symbol) (opened : Nat)
    (widths : List (Nat × Width)) (level : Level) : Reader :=
  { reader with position, rest, opened, widths, level }

/-- A reader that has gone on in the pattern and has put items at the end of its branch. -/
def Reader.further (reader : Reader) (position : Nat) (rest : List Symbol) (opened : Nat)
    (widths : List (Nat × Width)) (items : List (Node × Standing)) : Reader :=
  reader.holding position rest opened widths
    { reader.level with items := items ++ reader.level.items }

/-- A text that is read as a given number of capturing groups and as items, latest first, which
depend on the number of groups before them. None of the items looks behind. -/
structure Spells (text : List Char) (captures : Nat) (items : Nat → List (Node × Standing)) :
    Prop where
  clean : .dangling ∉ Symbol.ofChars text
  calm : Calm (Symbol.ofChars text)
  runs : ∀ opened, ∀ item ∈ items opened, item.1.obstacle? false = none
  reads : ∀ (reader : Reader) (tail : List Symbol), reader.rest = Symbol.ofChars text ++ tail →
    Calm tail → .dangling ∉ tail → reader.level.verbose = false →
      ∃ position widths, reader.Reaches
        (reader.further position tail (reader.opened + captures) widths (items reader.opened))

/-- A text that is read as one item that can be repeated, whatever follows. -/
structure Operand (text : List Char) (captures : Nat) (node : Nat → Node) : Prop where
  clean : .dangling ∉ Symbol.ofChars text
  calm : Calm (Symbol.ofChars text)
  runs : ∀ opened, (node opened).obstacle? false = none
  reads : ∀ (reader : Reader) (tail : List Symbol), reader.rest = Symbol.ofChars text ++ tail →
    .dangling ∉ tail → reader.level.verbose = false →
      ∃ position widths, reader.Reaches (reader.further position tail (reader.opened + captures)
        widths [(node reader.opened, .operand)])

/-- An operand spells itself as the only item. -/
theorem Operand.spells {text : List Char} {captures : Nat} {node : Nat → Node}
    (operand : Operand text captures node) :
    Spells text captures fun opened => [(node opened, .operand)] where
  clean := operand.clean
  calm := operand.calm
  runs opened := by simpa using operand.runs opened
  reads reader tail ahead _ := operand.reads reader tail ahead

namespace Spells

variable {text more : List Char} {captures further : Nat}
  {items later : Nat → List (Node × Standing)}

/-- The empty text spells nothing. -/
theorem nil : Spells [] 0 fun _ => [] where
  clean := by simp [Symbol.ofChars]
  calm := Calm.nil
  runs := by simp
  reads reader tail ahead _ _ _ := by
    refine ⟨reader.position, reader.widths, ?_⟩
    have same : reader.further reader.position tail (reader.opened + 0) reader.widths [] = reader := by
      rw [Symbol.ofChars, List.nil_append] at ahead
      rw [← ahead]
      rfl
    rw [same]
    exact .here reader

/-- One text after another spells the items of both. -/
theorem append (front : Spells text captures items) (behind : Spells more further later) :
    Spells (text ++ more) (captures + further)
      fun opened => later (opened + captures) ++ items opened where
  clean := by
    rw [Symbol.ofChars_append front.clean, List.mem_append, not_or]
    exact ⟨front.clean, behind.clean⟩
  calm := by
    rw [Symbol.ofChars_append front.clean]
    exact front.calm.append behind.calm
  runs opened item inside := by
    rcases List.mem_append.mp inside with inside | inside
    · exact behind.runs _ item inside
    · exact front.runs _ item inside
  reads reader tail ahead calm clean plain := by
    rw [Symbol.ofChars_append front.clean, List.append_assoc] at ahead
    obtain ⟨position, widths, reached⟩ := front.reads reader _ ahead (behind.calm.append calm)
      (by simp [behind.clean, clean]) plain
    obtain ⟨position', widths', reached'⟩ := behind.reads
      (reader.further position _ (reader.opened + captures) widths (items reader.opened)) tail rfl
      calm clean plain
    refine ⟨position', widths', reached.trans ?_⟩
    simpa [Reader.further, Reader.holding, Nat.add_assoc] using reached'

end Spells

namespace Reading

/-- A symbol that is an item by itself is read as the item. -/
theorem reaches_symbol {reader : Reader} {symbol : Symbol} {tail : List Symbol} {node : Node}
    {standing : Standing} (ahead : reader.rest = symbol :: tail) (clean : .dangling ∉ tail)
    (plain : reader.level.verbose = false) (bar : symbol ≠ .plain '|') (close : symbol ≠ .plain ')')
    (taken : ∀ position, item position symbol = push node standing) :
    ∃ position widths, reader.Reaches
      (reader.further position tail (reader.opened + 0) widths [(node, standing)]) := by
  refine ⟨reader.position + symbol.size, reader.widths, .single ?_ ?_⟩
  · exact step_item ahead clean plain bar close (by rw [taken]; rfl)
  · simp [Reader.further, Reader.holding, ahead]

/-- A character without a meaning of its own is read as itself. -/
theorem item_plain {c : Char} (plain : c ∉ specialCharacters) (position : Nat) :
    item position (.plain c) = push (.character c.toNat) .operand := by
  simp only [specialCharacters, List.mem_cons, not_or] at plain
  simp only [item]
  split <;> simp_all

/-- A special character after a backslash is read as itself. -/
theorem item_special {c : Char} (special : c ∈ specialCharacters) (position : Nat) :
    item position (.escaped c) = push (.character c.toNat) .operand := by
  simp only [specialCharacters, List.mem_cons, List.not_mem_nil, or_false] at special
  rcases special with rfl | rfl | rfl | rfl | rfl | rfl | rfl | rfl | rfl | rfl | rfl | rfl | rfl |
    rfl | rfl | rfl | rfl | rfl | rfl | rfl | rfl | rfl | rfl | rfl <;> rfl

end Reading

/-- An escaped character is one symbol. -/
theorem Symbol.ofChars_escapedChar (c : Char) :
    Symbol.ofChars (escapedChar c) =
      [if c ∈ specialCharacters then .escaped c else .plain c] := by
  by_cases special : c ∈ specialCharacters
  · simp [escapedChar, special, Symbol.ofChars_escaped, Symbol.ofChars]
  · have other : c ≠ backslash := by
      rintro rfl
      exact special (by decide)
    simp [escapedChar, special, Symbol.ofChars_plain other, Symbol.ofChars]

/-- A symbol that can be repeated by itself. -/
theorem Operand.symbol {text : List Char} {node : Node} (symbol : Symbol)
    (cut : Symbol.ofChars text = [symbol]) (sound : symbol ≠ .dangling) (calm : Calm [symbol])
    (bar : symbol ≠ .plain '|') (close : symbol ≠ .plain ')')
    (runs : node.obstacle? false = none)
    (taken : ∀ position, Reading.item position symbol = Reading.push node .operand) :
    Operand text 0 fun _ => node where
  clean := by simpa [cut] using sound.symm
  calm := cut ▸ calm
  runs _ := runs
  reads reader tail ahead clean plain := by
    rw [cut, List.singleton_append] at ahead
    exact Reading.reaches_symbol ahead clean plain bar close taken

/-- A symbol that asks for a position. -/
theorem Spells.position {text : List Char} {place : Anchor} (symbol : Symbol)
    (cut : Symbol.ofChars text = [symbol]) (sound : symbol ≠ .dangling) (calm : Calm [symbol])
    (bar : symbol ≠ .plain '|') (close : symbol ≠ .plain ')')
    (taken : ∀ position, Reading.item position symbol = Reading.push (.anchor place) .position) :
    Spells text 0 fun _ => [(.anchor place, .position)] where
  clean := by simpa [cut] using sound.symm
  calm := cut ▸ calm
  runs := by simp [Node.obstacle?]
  reads reader tail ahead _ clean plain := by
    rw [cut, List.singleton_append] at ahead
    exact Reading.reaches_symbol ahead clean plain bar close taken

namespace Operand

/-- A character, escaped where it needs to be, spells itself. -/
theorem character (c : Char) : Operand (escapedChar c) 0 fun _ => .character c.toNat := by
  by_cases special : c ∈ specialCharacters
  · exact symbol (.escaped c) (by rw [Symbol.ofChars_escapedChar, if_pos special]) (by simp)
      (by simp [Calm]) (by simp) (by simp) rfl (Reading.item_special special)
  · have apart : ∀ d ∈ specialCharacters, c ≠ d := fun d inside same => special (same ▸ inside)
    have unmarked : Calm [.plain c] := by
      simpa [Calm] using ⟨apart '?' (by decide), apart '+' (by decide)⟩
    exact symbol (.plain c) (by rw [Symbol.ofChars_escapedChar, if_neg special]) (by simp) unmarked
      (by simpa using apart '|' (by decide)) (by simpa using apart ')' (by decide)) rfl
      (Reading.item_plain special)

/-- A minus stands for itself outside of a set, although escaping a text escapes it. -/
theorem minus : Operand ['-'] 0 fun _ => .character '-'.toNat :=
  symbol (.plain '-') (by decide) (by simp) (by simp [Calm]) (by simp) (by simp) rfl fun _ => rfl

/-- A dot is an operand. -/
theorem anything : Operand ['.'] 0 fun _ => .anything :=
  symbol (.plain '.') (by decide) (by simp) (by simp [Calm]) (by simp) (by simp) rfl fun _ => rfl

/-- The class of white space is an operand. -/
theorem space : Operand [backslash, 's'] 0 fun _ => .set false [.category .space false] :=
  symbol (.escaped 's') (by decide) (by simp) (by simp [Calm]) (by simp) (by simp) rfl fun _ => rfl

/-- The class of digits is an operand. -/
theorem digit : Operand [backslash, 'd'] 0 fun _ => .set false [.category .digit false] :=
  symbol (.escaped 'd') (by decide) (by simp) (by simp [Calm]) (by simp) (by simp) rfl fun _ => rfl

end Operand

namespace Spells

/-- A circumflex spells the start of a line. -/
theorem lineStart : Spells ['^'] 0 fun _ => [(.anchor .lineStart, .position)] :=
  position (.plain '^') (by decide) (by simp) (by simp [Calm]) (by simp) (by simp) fun _ => rfl

/-- A dollar sign spells the end of a line. -/
theorem lineEnd : Spells ['$'] 0 fun _ => [(.anchor .lineEnd, .position)] :=
  position (.plain '$') (by decide) (by simp) (by simp [Calm]) (by simp) (by simp) fun _ => rfl

/-- An escaped letter spells the end of the text. -/
theorem textEnd : Spells [backslash, 'Z'] 0 fun _ => [(.anchor .textEnd, .position)] :=
  position (.escaped 'Z') (by decide) (by simp) (by simp [Calm]) (by simp) (by simp) fun _ => rfl

end Spells

/-! ## Sets -/

/-- A symbol that is a member of a set by itself. -/
inductive Member : Symbol → SetItem → Prop where
  | plain {c : Char} (inner : c ≠ ']') (apart : c ≠ '-') : Member (.plain c) (.code c.toNat)
  | special {c : Char} (special : c ∈ specialCharacters) : Member (.escaped c) (.code c.toNat)
  | space : Member (.escaped 's') (.category .space false)

namespace Reading

variable {reader : Reader} {tail : List Symbol}

/-- A symbol that is a member of a set is read as one. -/
theorem setMember_ok {symbol : Symbol} {member : SetItem} (is : Member symbol member) :
    setMember symbol reader = .ok (member, reader) := by
  cases is with
  | plain inner apart => rfl
  | special special =>
    simp only [specialCharacters, List.mem_cons, List.not_mem_nil, or_false] at special
    rcases special with rfl | rfl | rfl | rfl | rfl | rfl | rfl | rfl | rfl | rfl | rfl | rfl | rfl |
      rfl | rfl | rfl | rfl | rfl | rfl | rfl | rfl | rfl | rfl | rfl <;> rfl
  | space => rfl

/-- The members of a set are read one by one up to its closing bracket. -/
theorem setMembers_ok {symbols : List Symbol} {members : List SetItem}
    (each : List.Forall₂ Member symbols members) (opening steps : Nat) (before : List SetItem)
    (some : before ≠ [] ∨ symbols ≠ []) (enough : symbols.length < steps)
    (ahead : reader.rest = symbols ++ .plain ']' :: tail) (clean : .dangling ∉ symbols ++ tail) :
    ∃ position, setMembers opening steps before reader =
      .ok (members.reverse ++ before, reader.moved position tail) := by
  induction each generalizing steps before reader with
  | nil =>
    obtain ⟨steps, rfl⟩ := Nat.exists_eq_succ_of_ne_zero (by omega : steps ≠ 0)
    have nonempty : before.isEmpty = false := by simpa using some
    refine ⟨reader.position + 1, ?_⟩
    rw [setMembers, bind_ok (take_some ahead (by simpa using clean))]
    simp only [nonempty]
    rfl
  | @cons symbol member symbols members is each ih =>
    obtain ⟨steps, rfl⟩ := Nat.exists_eq_succ_of_ne_zero (by omega : steps ≠ 0)
    have inner : symbol ≠ .plain ']' := by
      cases is <;> simp_all
    have undashed : (symbols ++ .plain ']' :: tail).head? ≠ Option.some (.plain '-') := by
      cases each with
      | nil => simp
      | cons next _ => cases next <;> simp_all
    have rest : .dangling ∉ symbols ++ .plain ']' :: tail := by simp_all
    have behind : (reader.moved (reader.position + symbol.size) (symbols ++ .plain ']' :: tail)).rest =
        symbols ++ .plain ']' :: tail := rfl
    obtain ⟨position, done⟩ := ih steps (member :: before) (.inl (by simp)) (by simpa using enough)
      behind (by simp_all)
    refine ⟨position, ?_⟩
    rw [setMembers, bind_ok (take_some ahead rest)]
    simp only [inner, decide_false, Bool.false_and, Bool.false_eq_true, if_false]
    rw [bind_ok (setMember_ok is), bind_ok (accept_false undashed)]
    simpa using done

/-- The text of a set is read as the set. -/
def ReadsSet (symbols : List Symbol) (node : Node) : Prop :=
  ∀ (reader : Reader) (tail : List Symbol) (opening : Nat), reader.rest = symbols ++ tail →
    .dangling ∉ tail → ∃ position, set? opening reader = .ok (node, reader.moved position tail)

/-- A set of everything but its members. -/
theorem set_negated {symbols : List Symbol} {members : List SetItem}
    (each : List.Forall₂ Member symbols members) (some : symbols ≠ [])
    (sound : .dangling ∉ symbols) :
    ReadsSet (.plain '^' :: (symbols ++ [.plain ']'])) (.set true members.eraseDups) := by
  intro reader tail opening ahead clean
  have ahead' : reader.rest = .plain '^' :: (symbols ++ .plain ']' :: tail) := by simpa using ahead
  have behind : (reader.moved (reader.position + 1) (symbols ++ .plain ']' :: tail)).rest =
      symbols ++ .plain ']' :: tail := rfl
  obtain ⟨position, done⟩ := setMembers_ok each opening ((symbols ++ .plain ']' :: tail).length + 1) []
    (.inr some) (by rw [List.length_append]; omega) behind (by simp [sound, clean])
  refine ⟨position, ?_⟩
  rw [set?, bind_ok (accept_true ahead' (by simp [sound, clean])), get_bind]
  simp only [Reader.moved_rest]
  rw [bind_ok done]
  simp
  rfl

/-- The set of the two signs, in which the hyphen stands last and for itself. -/
theorem set_signs :
    ReadsSet [.plain '+', .plain '-', .plain ']'] (.set false [.code '+'.toNat, .code '-'.toNat]) := by
  intro reader tail opening ahead clean
  have members : setMembers opening (reader.rest.length + 1) [] reader =
      .ok ([.code '-'.toNat, .code '+'.toNat], reader.moved (reader.position + 3) tail) := by
    rw [setMembers, bind_ok (take_some ahead (by simpa using clean))]
    simp only [Symbol.plain.injEq, Char.reduceEq, decide_false, Bool.false_and, Bool.false_eq_true,
      if_false]
    rw [bind_ok (setMember_ok (.plain (by decide) (by decide))),
      bind_ok (accept_true rfl (by simpa using clean)), if_pos rfl, bind_ok (take_some rfl clean)]
    rfl
  refine ⟨reader.position + 3, ?_⟩
  rw [set?, bind_ok (accept_false (by simp [ahead])), get_bind, bind_ok members]
  rfl

end Reading

/-- A set spells itself. -/
theorem Operand.set {text : List Char} {symbols : List Symbol} {node : Node}
    (cut : Symbol.ofChars text = symbols) (sound : .dangling ∉ symbols)
    (runs : node.obstacle? false = none) (is : Reading.ReadsSet symbols node) :
    Operand ('[' :: text) 0 fun _ => node where
  clean := by
    rw [Symbol.ofChars_plain (by decide), cut]
    simpa using sound
  calm := by
    rw [Symbol.ofChars_plain (by decide)]
    simp [Calm]
  runs _ := runs
  reads reader tail ahead clean plain := by
    rw [Symbol.ofChars_plain (by decide), cut, List.cons_append] at ahead
    obtain ⟨position, done⟩ := is (reader.moved (reader.position + 1) (symbols ++ tail)) tail
      reader.position rfl clean
    refine ⟨position, reader.widths, .single (Reading.step_item ahead (by simp [sound, clean]) plain
      (by simp) (by simp) ((Reading.bind_ok done).trans rfl)) ?_⟩
    simp only [Reader.further, Reader.holding, ahead, List.length_cons, List.length_append]
    omega

end LineGrammar.Pattern
