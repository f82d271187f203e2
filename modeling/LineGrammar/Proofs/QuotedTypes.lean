import LineGrammar.Definition.Type
import LineGrammar.Proofs.Fragments
import LineGrammar.Proofs.Pattern.Locality
import LineGrammar.Proofs.Pattern.Undivided
import LineGrammar.Proofs.Tokens

/-!
# Quoted types

The values of a defined type may stand in quotes. Its fragment then holds the pattern of the definition
three times, bare, between double quotes and between single quotes, and it means what this looks like as
long as the pattern keeps to its place: no bar divides it, and it is local up to the quotes.

A bar at the top of the pattern would take the quotes apart instead: the texts before the first bar and
behind the last one each get one of them.
-/

namespace LineGrammar

open LineGrammar.Text LineGrammar.Pattern

namespace Pattern

variable {own : Pattern}

/-- A quote as an item of a branch. -/
def quoteItem (quote : Char) : Node × Standing := (.character quote.toNat, .operand)

/-- A quote is one item. -/
theorem spells_quote {quote : Char} (is : Fragment.isQuote quote = true) :
    Spells [quote] 0 fun _ => [quoteItem quote] := by
  simp only [Fragment.isQuote, Bool.or_eq_true, beq_iff_eq] at is
  rcases is with rfl | rfl
  · exact (Operand.character doubleQuote).spells
  · exact (Operand.character apostrophe).spells

/-- A quote is an edge. -/
theorem bounded_quote {quote : Char} (is : Fragment.isQuote quote = true) :
    Bounded (Symbol.ofChars [quote]) := by
  simp only [Fragment.isQuote, Bool.or_eq_true, beq_iff_eq] at is
  rcases is with rfl | rfl
  · exact .cons (by decide) []
  · exact .cons (by decide) []

/-- A text begins and ends with quotes, at different places. -/
theorem exists_inside {quote : Char} {text : List Char} {stop : Nat}
    (front : Holds text.toArray 0 [quote]) (back : Holds text.toArray stop [quote])
    (apart : 0 < stop) (whole : stop + 1 = text.length) :
    ∃ inside, inside.length + 1 = stop ∧ text = quote :: (inside ++ [quote]) := by
  rw [Holds.singleton, List.getElem?_toArray] at front back
  cases text with
  | nil => cases front
  | cons first rest =>
    obtain rfl : first = quote := by simpa using front
    rcases List.eq_nil_or_concat rest with rfl | ⟨inside, last, rfl⟩
    · simp at whole
      omega
    · obtain rfl : stop = inside.length + 1 := by simpa using whole
      obtain rfl : last = first := by simpa using back
      exact ⟨inside, rfl, by simp⟩

/-- A quote, a local pattern and the quote again lead to the end of the texts that the pattern matches
in full between the quotes. -/
theorem IsLocal.quoted_iff (isLocal : own.IsLocal Fragment.isQuote) {quote : Char}
    (is : Fragment.isQuote quote = true) {items : List (Node × Standing)} (root : own.root = .ofItems items)
    {text : List Char} :
    (∃ place ∈ (Node.ofItems (([quoteItem quote] ++ items) ++ [quoteItem quote])).ways text.toArray .none
      ⟨0, []⟩, place.position = text.length) ↔
        ∃ inside, own.matchesFully inside = true ∧ text = quote :: (inside ++ [quote]) := by
  have mark : Recognizes .none (.ofItems [quoteItem quote]) (Texts.exactly [quote]) :=
    single_sameCharacter quote ▸ Recognizes.character quote.toNat
  have window (inside : List Char) :
      Window Fragment.isQuote (quote :: (inside ++ [quote])).toArray 1 inside := by
    refine ⟨⟨[quote], rfl⟩, fun c here => ?_⟩
    simp only [List.getElem?_toArray, List.getElem?_cons_succ, List.getElem?_concat_length,
      Option.some.injEq] at here
    exact here ▸ is
  simp only [Node.ways_ofItems_append, List.mem_flatMap, ← root]
  constructor
  · rintro ⟨place, ⟨first, opened, middle, matched, closed⟩, whole⟩
    obtain ⟨_, rfl, front, rfl⟩ := (mark _ _ _).mp opened
    obtain ⟨_, rfl, back, rfl⟩ := (mark _ _ _).mp closed
    have onward : 1 ≤ middle.position := Node.ways_forward _ _ _ _ _ matched
    have room : 0 + [quote].length ≤ text.toArray.size := by simpa using front.length_le
    obtain ⟨groups, -⟩ := Node.ways_within isLocal.around isLocal.captures (by simp) _ _ matched ⟨rfl, room⟩
    obtain ⟨stop, groups⟩ := middle
    obtain ⟨inside, rfl, rfl⟩ := exists_inside front back onward whole
    refine ⟨inside, (isLocal.leads_iff (window inside)).mp ?_, rfl⟩
    cases groups
    exact Nat.add_comm 1 _ ▸ matched
  · rintro ⟨inside, matched, rfl⟩
    refine ⟨⟨1 + inside.length + 1, []⟩, ⟨⟨1, []⟩, ?_, ⟨1 + inside.length, []⟩, ?_, ?_⟩, ?_⟩
    · exact (mark _ _ _).mpr ⟨[quote], rfl, by simp [Holds], rfl⟩
    · exact (isLocal.leads_iff (window inside)).mpr matched
    · exact (mark _ _ _).mpr ⟨[quote], rfl, by simp [Holds, Nat.add_comm], rfl⟩
    · simp
      omega

/-- A quote, a pattern that no bar divides and the quote again are read as the items of each. -/
theorem Settles.quoted {text : List Char} {items : List (Node × Standing)} (settles : Settles text items)
    {quote : Char} (is : Fragment.isQuote quote = true) :
    Settles ([quote] ++ (text ++ [quote])) (([quoteItem quote] ++ items) ++ [quoteItem quote]) :=
  .after (spells_quote is) (settles.append (spells_quote is).settles (bounded_quote is))

end Pattern

/-- There are two quotes to ask about. -/
instance (on : Switches) (node : Node) : Decidable (node.CommitsApart Fragment.isQuote on) :=
  node.decidableCommitsApart Fragment.isQuote (fun test =>
    decidable_of_iff (test doubleQuote = false ∧ test apostrophe = false) (by
      simp [Fragment.isQuote, or_imp, forall_and])) on

namespace TypeDefinition

/-- The fragment of a definition with a pattern that no bar divides and that is local up to the quotes
matches in full what the pattern does, bare or between two equal quotes. -/
theorem fragment_quoted {definition : TypeDefinition} {pattern : String} {own : Pattern}
    (quoted : definition.quoted = true) (isPattern : definition.pattern = some pattern)
    (alone : Pattern.read pattern .none = .ok own) (groups : own.groups = 0)
    (switches : own.switches = .none) (undivided : Undivided pattern)
    (around : own.root.looksAround = false) (apart : own.root.CommitsApart Fragment.isQuote .none) :
    ∃ whole, Pattern.read definition.fragment .none = .ok whole ∧ ∀ text,
      whole.matchesFully text = true ↔ own.matchesFully text = true ∨
        ∃ quote inside, Fragment.isQuote quote = true ∧ own.matchesFully inside = true ∧
          text = quote :: (inside ++ [quote]) := by
  obtain ⟨items, settles, root⟩ := Settles.of_read alone groups switches undivided
  have isLocal : own.IsLocal Fragment.isQuote :=
    ⟨switches, captures_eq_zero alone groups switches, around, apart⟩
  have double : Fragment.isQuote doubleQuote = true := by decide
  have single : Fragment.isQuote apostrophe = true := by decide
  have group := ((settles.orElse
    ((settles.quoted double).orElse (settles.quoted single).enclosed)).group Opens.plain).spells
  have written : definition.fragment.toList = ['(', '?', ':'] ++ (pattern.toList ++
      '|' :: ([doubleQuote] ++ (pattern.toList ++ [doubleQuote]) ++
        '|' :: ([apostrophe] ++ (pattern.toList ++ [apostrophe])))) ++ [')'] := by
    simp [fragment, quoted, isPattern, Fragment.quotedVariants, doubleQuote, apostrophe]
  rw [← written] at group
  refine ⟨_, group.read_eq, fun text => ?_⟩
  have between {quote : Char} (is : Fragment.isQuote quote = true) :=
    @IsLocal.quoted_iff _ isLocal _ is _ root text
  have bare : own.matchesFully text = true ↔
      ∃ place ∈ (Node.ofItems items).ways text.toArray .none ⟨0, []⟩, place.position = text.length := by
    rw [matchesFully_iff, switches, root]
  have branches (node second third : Node) (place : Place) :
      place ∈ (Node.ofBranches [node, second, third]).ways text.toArray .none ⟨0, []⟩ ↔
        place ∈ node.ways text.toArray .none ⟨0, []⟩ ∨ place ∈ second.ways text.toArray .none ⟨0, []⟩ ∨
          place ∈ third.ways text.toArray .none ⟨0, []⟩ := by
    rw [Node.mem_ways_ofBranches rfl]
    simp [Node.ofChoices, Node.ways]
  rw [matchesFully_iff, bare]
  simp only [Node.ofItems_singleton, Bracket.enclosed, branches, or_and_right, exists_or,
    between double, between single]
  refine or_congr_right ⟨?_, ?_⟩
  · rintro (⟨inside, matched, rfl⟩ | ⟨inside, matched, rfl⟩)
    · exact ⟨doubleQuote, inside, double, matched, rfl⟩
    · exact ⟨apostrophe, inside, single, matched, rfl⟩
  · rintro ⟨quote, inside, is, matched, rfl⟩
    simp only [Fragment.isQuote, Bool.or_eq_true, beq_iff_eq] at is
    rcases is with rfl | rfl
    · exact .inl ⟨inside, matched, rfl⟩
    · exact .inr ⟨inside, matched, rfl⟩

/-- Letters without going back are local up to the quotes, so a definition by them has these quoted. -/
theorem fragment_quoted_letters :
    ∃ own whole, Pattern.read "[a-z]++" .none = .ok own ∧
      Pattern.read (fragment ⟨"T", some "[a-z]++", .text, "", none, none, none, true⟩) .none = .ok whole ∧
      ∀ text, whole.matchesFully text = true ↔ own.matchesFully text = true ∨
        ∃ quote inside, Fragment.isQuote quote = true ∧ own.matchesFully inside = true ∧
          text = quote :: (inside ++ [quote]) := by
  have read : (Pattern.read "[a-z]++" .none).toOption.any (fun own => own.groups = 0 ∧
      own.switches = .none ∧ own.root.looksAround = false ∧
      own.root.CommitsApart Fragment.isQuote .none) = true := by
    decide +kernel
  obtain ⟨own, alone, known⟩ := (Option.any_eq_true _ _).mp read
  obtain ⟨groups, switches, around, apart⟩ := of_decide_eq_true known
  have alone := Except.eq_ok_of_toOption alone
  obtain ⟨whole, read, same⟩ := @fragment_quoted
    ⟨"T", some "[a-z]++", .text, "", none, none, none, true⟩ _ _ rfl rfl alone groups switches
    (by decide +kernel) around apart
  exact ⟨own, whole, alone, read, same⟩

/-- A bar takes the quotes apart: of the two texts that the pattern matches, neither is matched in
double quotes, and each is matched with one of the quotes. -/
theorem fragment_quotes_divided :
    ∃ own whole, Pattern.read "a|b" .none = .ok own ∧ own.groups = 0 ∧ own.switches = .none ∧
      own.root.looksAround = false ∧
      Pattern.read (fragment ⟨"T", some "a|b", .text, "", none, none, none, true⟩) .none = .ok whole ∧
      own.matchesFully "a".toList = true ∧ whole.matchesFully "\"a\"".toList = false ∧
      own.matchesFully "b".toList = true ∧ whole.matchesFully "\"b\"".toList = false ∧
      whole.matchesFully "\"a".toList = true ∧ whole.matchesFully "b\"".toList = true := by
  have read : ((Pattern.read "a|b" .none).toOption.any fun own =>
      (Pattern.read (fragment ⟨"T", some "a|b", .text, "", none, none, none, true⟩) .none).toOption.any
        fun whole => own.groups = 0 ∧ own.switches = .none ∧ own.root.looksAround = false ∧
          own.matchesFully "a".toList = true ∧ whole.matchesFully "\"a\"".toList = false ∧
          own.matchesFully "b".toList = true ∧ whole.matchesFully "\"b\"".toList = false ∧
          whole.matchesFully "\"a".toList = true ∧ whole.matchesFully "b\"".toList = true) = true := by
    decide +kernel
  obtain ⟨own, alone, rest⟩ := (Option.any_eq_true _ _).mp read
  obtain ⟨whole, isWhole, known⟩ := (Option.any_eq_true _ _).mp rest
  obtain ⟨groups, switches, around, matched⟩ := of_decide_eq_true known
  exact ⟨own, whole, Except.eq_ok_of_toOption alone, groups, switches, around,
    Except.eq_ok_of_toOption isWhole, matched⟩

end TypeDefinition

end LineGrammar
