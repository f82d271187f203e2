import LineGrammar.Proofs.TokenPattern

/-!
# Searching a segment for its tokens

Searched for all over a segment, the pattern of a token finds the pieces of the scan, in order: a search
passes over white space and stops at the next piece. Every character but white space is in exactly one of
the matches, so nothing of a segment is lost.

The scan fails exactly when some word has a type or choices, and names the first such word.
-/

namespace LineGrammar

open LineGrammar.Text LineGrammar.Pattern

/-- Whether a match covers a position. -/
def Pattern.Match.covers (found : Match) (position : Nat) : Bool :=
  found.start ≤ position && position < found.stop

/-- A match covers the positions from its start up to its end. -/
theorem Pattern.Match.covers_iff {found : Match} {position : Nat} :
    found.covers position = true ↔ found.start ≤ position ∧ position < found.stop := by
  rw [covers, Bool.and_eq_true, decide_eq_true_iff, decide_eq_true_iff]

/-- Matches that begin later do not cover a position. -/
theorem Pattern.Match.countP_covers_eq_zero {found : List Match} {position stop : Nat}
    (before : position < stop) (later : ∀ one ∈ found, stop ≤ one.start) :
    found.countP (·.covers position) = 0 := by
  refine List.countP_eq_zero.mpr fun one listed covered => ?_
  exact absurd ((later one listed).trans (covers_iff.mp covered).1) (Nat.not_le_of_lt before)

namespace Token

/-- The piece of a match. -/
def Piece.ofMatch (text : Array Char) (found : Match) : Piece :=
  .ofParts fun index => (found.span? index).map fun span => (slice text span).toList

/-- The text of a piece, without its parts. -/
def Piece.text : Piece → List Char
  | .symbol text => text
  | .named _ name _ _ _ => name

/-- Whether a piece has a type or choices, but no sigil. -/
def Piece.lacksSigil : Piece → Bool
  | .named none _ _ type choices => type.isSome || choices.isSome
  | _ => false

/-- The token of a piece that does not lack a sigil. Free text drops the type and the choices. -/
def Piece.token : Piece → Token
  | .symbol text => ⟨.symbol, String.ofList text, none, none, none⟩
  | .named sigil name remark type choices =>
    let name := String.ofList name
    let remark := remark.map String.ofList
    match sigil.bind TokenKind.ofSigil? with
    | none => ⟨.word, name, remark, none, none⟩
    | some .freeText => ⟨.freeText, name, remark, none, none⟩
    | some kind => ⟨kind, name, remark, type.map String.ofList, choices.map choiceWords⟩

variable {text : Array Char} {start : Nat} {rest : List Char} {pieces : List Piece}

/-! ## Searching -/

/-- The pattern of a token begins with a choice, so a search tries every place. -/
theorem searchAt_eq (ends : Nat → Bool) :
    pattern.searchAt text start ends = pattern.matchWhere text start ends := by
  have choice : pattern.root.leading? pattern.switches = some none := rfl
  refine Pattern.searchAt_eq (fun set begins => ?_) text start ends
  rw [choice] at begins
  cases begins

/-- A match at a place is the first way from there, as long as an empty one would do. -/
theorem matchWhere_eq : pattern.matchWhere text start (fun stop => !false || stop != start) =
    ((node.ways text .none ⟨start, []⟩).head?).map fun place => ⟨start, place.position, place.groups⟩ := by
  rw [matchWhere]
  simp only [Bool.not_false, Bool.true_or, if_true]
  change (node.run text .none ⟨start, []⟩ some).map _ = _
  rw [(Node.run_searches text .none node).head]

/-- At white space, and at the end, there is no match. -/
theorem matchWhere_blank (blank : ∀ c ∈ (text.toList.drop start).head?, isSpace c = true) :
    pattern.matchWhere text start (fun stop => !false || stop != start) = none := by
  have none : node.ways text .none ⟨start, []⟩ = [] := ways_node_eq_nil blank
  rw [matchWhere_eq, none]
  rfl

/-- Anywhere else, the match is over the piece that the scan takes. -/
theorem matchWhere_piece {piece : Piece} (takes : FirstPiece (text.toList.drop start) piece rest) :
    ∃ found, pattern.matchWhere text start (fun stop => !false || stop != start) = some found ∧
      found.start = start ∧ start < found.stop ∧ text.toList.drop found.stop = rest ∧
      Piece.ofMatch text found = piece := by
  have here : FirstPiece ((⟨start, []⟩ : Place).ahead text) piece rest := takes
  obtain ⟨next, way, ahead, parts⟩ := head?_node here rfl
  refine ⟨⟨start, next.position, next.groups⟩, ?_, rfl, ?_, ahead, ?_⟩
  · rw [matchWhere_eq, way]
    rfl
  · have shorter := takes.length_lt
    rw [← ahead, Place.ahead_length, List.length_drop, Array.length_toList] at shorter
    change start < next.position
    omega
  · exact parts

/-- Nothing is found at the end of a text. -/
theorem searchFrom_end (here : text.toList.drop start = []) : pattern.searchFrom text start false = none := by
  have nowhere : pattern.matchWhere text start (fun stop => !false || stop != start) = none :=
    matchWhere_blank (by simp [here])
  have past := List.drop_eq_nil_iff.mp here
  rw [Array.length_toList] at past
  rw [searchFrom]
  by_cases atEnd : text.size = start
  · rw [show text.size + 1 - start = 1 by omega, searchWithin, searchAt_eq, nowhere]
    rfl
  · rw [show text.size + 1 - start = 0 by omega]
    rfl

/-- Before a character, there is one more place to search than behind it. -/
theorem exists_places {c : Char} (here : text.toList.drop start = c :: rest) :
    ∃ places, text.size + 1 - start = places + 1 ∧ text.size + 1 - (start + 1) = places := by
  have room := congrArg List.length here
  rw [List.length_drop, Array.length_toList, List.length_cons] at room
  exact ⟨rest.length + 1, by omega, by omega⟩

/-- A search goes on at the next character when there is no match. -/
theorem searchFrom_of_none {c : Char} (here : text.toList.drop start = c :: rest)
    (none : pattern.matchWhere text start (fun stop => !false || stop != start) = none) :
    pattern.searchFrom text start false = pattern.searchFrom text (start + 1) false := by
  obtain ⟨places, size, fewer⟩ := exists_places here
  rw [searchFrom, searchFrom, size, fewer, searchWithin, searchAt_eq, none]

/-- A match at a place is the one that a search from there finds. -/
theorem searchFrom_of_some {c : Char} {found : Match} (here : text.toList.drop start = c :: rest)
    (some : pattern.matchWhere text start (fun stop => !false || stop != start) = some found) :
    pattern.searchFrom text start false = .some found := by
  obtain ⟨places, size, -⟩ := exists_places here
  rw [searchFrom, size, searchWithin, searchAt_eq, some]

/-- At the end of the text there are no more matches. -/
theorem matchesWithin_end (here : text.toList.drop start = []) (count : Nat) :
    pattern.matchesWithin text count start false = [] := by
  cases count with
  | zero => rfl
  | succ count => rw [matchesWithin, searchFrom_end here]

/-- White space is passed over. -/
theorem matchesWithin_space {c : Char} (here : text.toList.drop start = c :: rest) (space : isSpace c = true)
    (count : Nat) : pattern.matchesWithin text count start false =
      pattern.matchesWithin text count (start + 1) false := by
  have nowhere : pattern.matchWhere text start (fun stop => !false || stop != start) = none :=
    matchWhere_blank (by simpa [here] using space)
  cases count with
  | zero => rfl
  | succ count => rw [matchesWithin, matchesWithin, searchFrom_of_none here nowhere]

/-- A piece is one match, and the search goes on behind it. -/
theorem matchesWithin_piece {piece : Piece} (takes : FirstPiece (text.toList.drop start) piece rest)
    (count : Nat) : ∃ found : Match, pattern.matchesWithin text (count + 1) start false =
        found :: pattern.matchesWithin text count found.stop false ∧
      found.start = start ∧ start < found.stop ∧ text.toList.drop found.stop = rest ∧
      Piece.ofMatch text found = piece := by
  obtain ⟨found, matched, begins, moved, ahead, made⟩ := matchWhere_piece takes
  obtain ⟨-, c, behind, here, -⟩ := takes.takePiece_eq
  refine ⟨found, ?_, begins, moved, ahead, made⟩
  have filled : (found.stop == found.start) = false := by
    rw [beq_eq_false_iff_ne, begins]
    exact Nat.ne_of_gt moved
  rw [matchesWithin, searchFrom_of_some here matched]
  simp only [filled]

/-- The matches from a place on are the pieces of the scan from there, and each character that is not
white space is in one of them. -/
theorem matchesWithin_scan (text : Array Char) (start : Nat) {count : Nat}
    (scan : ScansAs (text.toList.drop start) pieces) (enough : pieces.length ≤ count) :
    (pattern.matchesWithin text count start false).map (Piece.ofMatch text) = pieces ∧
    (∀ found ∈ pattern.matchesWithin text count start false, start ≤ found.start) ∧
    ∀ (position : Nat) (c : Char), start ≤ position → text.toList[position]? = some c → isSpace c = false →
      (pattern.matchesWithin text count start false).countP (·.covers position) = 1 := by
  generalize here : text.toList.drop start = front at scan
  induction scan generalizing start count with
  | done =>
    rw [matchesWithin_end here]
    refine ⟨rfl, by simp, ?_⟩
    intro position c within seen _
    have short := List.drop_eq_nil_iff.mp here
    rw [List.getElem?_eq_none (by omega)] at seen
    cases seen
  | @space c rest pieces space _ ih =>
    have behind : text.toList.drop (start + 1) = rest := by
      rw [← List.drop_drop, here]
      rfl
    obtain ⟨made, after, covered⟩ := ih (start + 1) enough behind
    rw [matchesWithin_space here space]
    refine ⟨made, ?_, ?_⟩
    · intro found listed
      exact Nat.le_of_succ_le (after found listed)
    · intro position d within seen visible
      by_cases first : position = start
      · rw [first, ← List.head?_drop, here] at seen
        cases seen
        rw [space] at visible
        cases visible
      · exact covered position d (by omega) seen visible
  | @piece front rest piece pieces takes _ ih =>
    obtain ⟨count, rfl⟩ := Nat.exists_eq_succ_of_ne_zero (Nat.ne_of_gt (Nat.zero_lt_of_lt enough))
    obtain ⟨found, split, begins, moved, ahead, made⟩ := matchesWithin_piece (here ▸ takes) count
    obtain ⟨others, after, covered⟩ := ih found.stop (Nat.le_of_succ_le_succ enough) ahead
    rw [split]
    refine ⟨?_, ?_, ?_⟩
    · rw [List.map_cons, made, others]
    · intro other listed
      rcases List.mem_cons.mp listed with rfl | listed
      · exact begins.ge
      · exact (Nat.le_of_lt moved).trans (after other listed)
    · intro position c within seen visible
      rw [List.countP_cons]
      by_cases inside : position < found.stop
      · -- Every later match begins behind this one.
        rw [Match.countP_covers_eq_zero inside after,
          if_pos (Match.covers_iff.mpr ⟨begins.trans_le within, inside⟩)]
      · have past : ¬found.covers position = true := fun covers => inside (Match.covers_iff.mp covers).2
        rw [if_neg past, covered position c (Nat.le_of_not_lt inside) seen visible]

/-- Every piece takes a character. -/
theorem ScansAs.length_le {text : List Char} (scan : ScansAs text pieces) : pieces.length ≤ text.length := by
  induction scan with
  | done => exact le_rfl
  | space _ _ ih => exact Nat.le_succ_of_le ih
  | piece first _ ih => exact Nat.succ_le_of_lt (Nat.lt_of_le_of_lt ih first.length_lt)

/-! ## Words without a sigil -/

/-- A piece is taken with one of the known sigils, or without one. -/
def Piece.HasKnownSigil : Piece → Prop
  | .named (some sigil) _ _ _ _ => IsSigil sigil
  | _ => True

/-- Every sigil in a scan is a known one. -/
theorem ScansAs.hasKnownSigil {text : List Char} (scan : ScansAs text pieces) :
    ∀ piece ∈ pieces, piece.HasKnownSigil := by
  induction scan with
  | done => simp
  | space _ _ ih => exact ih
  | piece first _ ih =>
    rw [List.forall_mem_cons]
    refine ⟨?_, ih⟩
    cases first with
    | @name sigil _ _ _ _ _ _ _ _ isSigil =>
      cases sigil with
      | none => trivial
      | some s => exact isSigil s rfl
    | symbol => trivial

/-- A piece has a token unless it lacks a sigil. -/
theorem ofPiece_eq (segment : String) {piece : Piece} (known : piece.HasKnownSigil) :
    ofPiece segment piece =
      if piece.lacksSigil then .error (.missingSigil (String.ofList piece.text) (some segment))
      else .ok piece.token := by
  cases piece with
  | symbol text => rfl
  | named sigil name remark type choices =>
    cases sigil with
    | none => rfl
    | some s =>
      obtain rfl | rfl | rfl := known <;> rfl

/-- The tokens of a scan, or the fault of the first piece that lacks a sigil. -/
theorem mapM_ofPiece (segment : String) (known : ∀ piece ∈ pieces, piece.HasKnownSigil) :
    pieces.mapM (ofPiece segment) =
      match pieces.find? Piece.lacksSigil with
      | some piece => .error (.missingSigil (String.ofList piece.text) (some segment))
      | none => .ok (pieces.map Piece.token) := by
  induction pieces with
  | nil => rfl
  | cons piece pieces ih =>
    obtain ⟨first, others⟩ := List.forall_mem_cons.mp known
    rw [List.mapM_cons, ofPiece_eq segment first, ih others, List.find?_cons]
    cases piece.lacksSigil with
    | true => rfl
    | false => cases pieces.find? Piece.lacksSigil <;> rfl

/-- The pieces of a segment are those of its only scan, and the matches of the pattern of a token. Every
character but white space is in exactly one match. A segment has tokens unless a word has a type or
choices, and then the first such word is named. -/
theorem scan_exact :
    Pattern.read Fragment.token .none = .ok pattern ∧
    (∀ name remark type choices, (Piece.named (some '+') name remark type choices).token =
      ⟨.freeText, String.ofList name, remark.map String.ofList, none, none⟩) ∧
    ∀ segment : String,
      (∀ found, ScansAs segment.toList found ↔ found = Token.pieces segment.toList) ∧
      (pattern.findAll segment.toList.toArray).map (Piece.ofMatch segment.toList.toArray) =
        Token.pieces segment.toList ∧
      (∀ (position : Nat) (c : Char), segment.toList[position]? = some c → isSpace c = false →
        (pattern.findAll segment.toList.toArray).countP (·.covers position) = 1) ∧
      ((∃ fault, scan segment = .error fault) ↔
        ∃ piece ∈ Token.pieces segment.toList, piece.lacksSigil = true) ∧
      (∀ piece, (Token.pieces segment.toList).find? Piece.lacksSigil = some piece →
        scan segment = .error (.missingSigil (String.ofList piece.text) (some segment))) ∧
      ((∀ piece ∈ Token.pieces segment.toList, piece.lacksSigil = false) →
        scan segment = .ok ((Token.pieces segment.toList).map Piece.token)) := by
  refine ⟨read_token, fun _ _ _ _ => rfl, ?_⟩
  intro segment
  have scans : ScansAs segment.toList (Token.pieces segment.toList) := scansAs_iff.mpr rfl
  have enough : (Token.pieces segment.toList).length ≤ 2 * segment.toList.toArray.size + 2 := by
    have bound := scans.length_le
    rw [List.size_toArray]
    omega
  obtain ⟨made, -, covered⟩ := matchesWithin_scan segment.toList.toArray 0 scans enough
  have result : scan segment = _ := mapM_ofPiece segment scans.hasKnownSigil
  refine ⟨fun found => scansAs_iff, made, ?_, ?_, ?_, ?_⟩
  · intro position c seen visible
    exact covered position c (Nat.zero_le _) seen visible
  · rw [result]
    constructor
    · rintro ⟨fault, failed⟩
      cases first : (Token.pieces segment.toList).find? Piece.lacksSigil with
      | none =>
        rw [first] at failed
        cases failed
      | some piece => exact ⟨piece, List.mem_of_find?_eq_some first, List.find?_some first⟩
    · rintro ⟨piece, listed, lacks⟩
      obtain ⟨first, found⟩ := Option.isSome_iff_exists.mp (List.find?_isSome.mpr ⟨piece, listed, lacks⟩)
      rw [found]
      exact ⟨_, rfl⟩
  · intro piece first
    rw [result, first]
  · intro each
    have none : (Token.pieces segment.toList).find? Piece.lacksSigil = none := by
      rw [List.find?_eq_none]
      simpa using each
    rw [result, none]

/-- Complete parts are taken, unfinished ones are left to symbols, and free text drops its parts; of two
words that lack a sigil, the first one is named. -/
theorem scan_exact_parts :
    scan "say +text@T :n<a b>@Int\x7b1,2\x7d *x<y z@\x7b" =
      .ok [⟨.word, "say", none, none, none⟩, ⟨.freeText, "text", none, none, none⟩,
        ⟨.argument, "n", some "a b", some "Int", some ["1", "2"]⟩, ⟨.argumentList, "x", none, none, none⟩,
        ⟨.symbol, "<y", none, none, none⟩, ⟨.word, "z", none, none, none⟩,
        ⟨.symbol, "@\x7b", none, none, none⟩] ∧
    scan ":n@Int stop<why>@End at\x7bx\x7d" =
      .error (.missingSigil "stop" (some ":n@Int stop<why>@End at\x7bx\x7d")) := by
  constructor
  · have scanned := (scan_exact.2.2 "say +text@T :n<a b>@Int\x7b1,2\x7d *x<y z@\x7b").2.2.2.2.2
      (by decide +kernel)
    exact scanned.trans (congrArg Except.ok (by decide +kernel))
  · exact (scan_exact.2.2 ":n@Int stop<why>@End at\x7bx\x7d").2.2.2.2.1
      (.named none ['s', 't', 'o', 'p'] (some ['w', 'h', 'y']) (some ['E', 'n', 'd']) none)
      (by decide +kernel)

end Token

end LineGrammar
