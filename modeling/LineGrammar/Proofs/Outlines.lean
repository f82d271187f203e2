import LineGrammar.Proofs.Brackets

/-!
# What an outline says of its expression

The walk through the outline of an expression meets its brackets in order, and between two of them the
text that stands there, trimmed, unless nothing is left of it. So nothing is lost but white space, and
nothing changes its group.

Conversely an outline is read from what it is written as, whenever its segments could have been read: each
of them is trimmed and not empty, holds no bracket, and no other segment follows it directly.
-/

namespace LineGrammar

namespace Outline

open LineGrammar.Text Brackets

/-! ## The walk through an expression -/

/-- Whether a character opens or closes a group. -/
def isBracket (c : Char) : Bool := c == '[' || c == ']'

/-- What a bracket does to the groups. -/
def ofBracket (bracket : Char) : Event := if bracket = '[' then .enter else .leave

/-- The segment of a run of text, unless the run is blank. -/
def ofRun (run : List Char) : List Event :=
  if trim run = [] then [] else [.segment (String.ofList (trim run))]

/-- Runs of text with brackets between them. -/
def interleave : List (List Char) → List Char → List Event
  | [], _ => []
  | run :: _, [] => ofRun run
  | run :: runs, bracket :: brackets => ofRun run ++ ofBracket bracket :: interleave runs brackets

/-- The walk that an expression describes: its brackets, and between two of them the text there. -/
def walk (text : List Char) : List Event :=
  interleave (text.splitOnP isBracket) (text.filter isBracket)

variable {run : List Char} {bracket : Char}

/-- A run without brackets is walked as one text. -/
theorem walk_run (plain : ∀ c ∈ run, isBracket c = false) : walk run = ofRun run := by
  have none : run.filter isBracket = [] := List.filter_eq_nil_iff.mpr (by simpa using plain)
  rw [walk, none, List.splitOnP_eq_singleton plain, interleave]

/-- The first bracket of an expression, with the text before it. -/
theorem walk_bracket (plain : ∀ c ∈ run, isBracket c = false) (is : isBracket bracket = true)
    (rest : List Char) : walk (run ++ bracket :: rest) = ofRun run ++ ofBracket bracket :: walk rest := by
  have none : run.filter isBracket = [] := List.filter_eq_nil_iff.mpr (by simpa using plain)
  rw [walk, List.filter_append, none, List.nil_append, List.filter_cons_of_pos is,
    List.splitOnP_append_cons_of_forall_mem plain bracket is, interleave, walk]

/-- Two outlines one behind the other are walked one behind the other. -/
theorem events_append (before after : Outline) :
    (before.append after).events = before.events ++ after.events := by
  induction before with
  | done => rfl
  | segment text rest ih => simp [append, events, ih]
  | optional inner rest _ ih => simp [append, events, ih]

/-- Text that is added is walked behind the rest. -/
theorem events_addText (before : Outline) (run : List Char) :
    (before.addText run).events = before.events ++ ofRun run := by
  by_cases blank : trim run = []
  · simp [addText, ofRun, blank]
  · simp [addText, ofRun, blank, events_append, events]

/-- What is met before the current group: the open groups are entered, each after what stands before. -/
def entered : List OpenGroup → List Event
  | [] => []
  | group :: groups => entered groups ++ group.before.events ++ [.enter]

/-- An outline that is read from a place on is walked through as what stands before that place, and then
as the rest of the expression. -/
theorem events_readFrom {expression : String} {rest : List Char} {position : Nat}
    {groups : List OpenGroup} {current outline : Outline} (plain : ∀ c ∈ run, isBracket c = false)
    (read : readFrom expression rest position groups current run = .ok outline) :
    outline.events = entered groups ++ current.events ++ walk (run.reverse ++ rest) := by
  have reversed {run : List Char} (plain : ∀ c ∈ run, isBracket c = false) :
      ∀ c ∈ run.reverse, isBracket c = false := fun c inside => plain c (List.mem_reverse.mp inside)
  induction rest generalizing position groups current run with
  | nil =>
    cases groups with
    | nil =>
      cases read
      rw [List.append_nil, walk_run (reversed plain), events_addText, entered, List.nil_append]
    | cons group groups => cases read
  | cons c rest ih =>
    by_cases opening : c = '['
    · subst opening
      have inner := ih (by simp) read
      rw [inner, walk_bracket (reversed plain) rfl]
      simp [entered, events_addText, events, ofBracket]
    by_cases closing : c = ']'
    · subst closing
      cases groups with
      | nil => cases read
      | cons group groups =>
        have outer := ih (by simp) read
        rw [outer, walk_bracket (reversed plain) rfl]
        simp [entered, events_append, events_addText, events, ofBracket]
    · rw [readFrom_plain expression opening closing] at read
      have noBracket : isBracket c = false := by simp [isBracket, opening, closing]
      have further := ih (List.forall_mem_cons.mpr ⟨noBracket, plain⟩) read
      rw [further, List.reverse_cons, List.append_assoc run.reverse, List.singleton_append]

/-! ## Writing an outline -/

/-- A text that can be read as one segment. -/
def IsSegment (text : String) : Prop :=
  text ≠ "" ∧ trim text.toList = text.toList ∧ ∀ c ∈ text.toList, isBracket c = false

/-- Whether an outline begins with a segment. -/
def startsWithText : Outline → Bool
  | segment _ _ => true
  | _ => false

/-- Every segment can be read as one, and no other segment follows it in its group. -/
def Proper : Outline → Prop
  | done => True
  | segment text rest => IsSegment text ∧ rest.startsWithText = false ∧ rest.Proper
  | optional inner rest => inner.Proper ∧ rest.Proper

instance (text : String) : Decidable (IsSegment text) :=
  have : Decidable (∀ c ∈ text.toList, isBracket c = false) := List.decidableBAll _ _
  inferInstanceAs (Decidable (_ ∧ _ ∧ ∀ c ∈ text.toList, isBracket c = false))

instance decidableProper : (outline : Outline) → Decidable outline.Proper
  | done => .isTrue trivial
  | segment text rest =>
    have := decidableProper rest
    inferInstanceAs (Decidable (IsSegment text ∧ rest.startsWithText = false ∧ rest.Proper))
  | optional inner rest =>
    have := decidableProper inner
    have := decidableProper rest
    inferInstanceAs (Decidable (inner.Proper ∧ rest.Proper))

/-- The run of text before a place ends there: with the expression, or at a bracket. -/
def EndsRun (rest : List Char) : Prop := ∀ c ∈ rest.head?, isBracket c = true

/-- Nothing is appended with an empty outline. -/
theorem append_done (outline : Outline) : outline.append done = outline := by
  induction outline with
  | done => rfl
  | segment text rest ih => rw [append, ih]
  | optional inner rest _ ih => rw [append, ih]

/-- Outlines are appended in either order. -/
theorem append_assoc (first second third : Outline) :
    (first.append second).append third = first.append (second.append third) := by
  induction first with
  | done => rfl
  | segment text rest ih => simp only [append, ih]
  | optional inner rest _ ih => simp only [append, ih]

/-- Nothing is added with an empty text. -/
theorem addText_nil (outline : Outline) : outline.addText [] = outline := rfl

/-- A segment is added as its text. -/
theorem addText_segment {text : String} (is : IsSegment text) (before : Outline) :
    before.addText text.toList = before.append (segment text done) := by
  obtain ⟨nonempty, trimmed, _⟩ := is
  simp [addText, trimmed, nonempty]

/-- What is written of an outline without a segment in front begins with a bracket. -/
theorem endsRun_written {outline : Outline} (bracket : outline.startsWithText = false) {rest : List Char}
    (stops : EndsRun rest) : EndsRun (outline.written ++ rest) := by
  cases outline with
  | done => exact stops
  | segment text rest => cases bracket
  | optional inner rest =>
    intro c first
    cases first
    rfl

/-- Where a run ends, its text counts as part of the current group. -/
theorem readFrom_endsRun {expression : String} {rest : List Char} (stops : EndsRun rest) (position : Nat)
    (groups : List OpenGroup) (current : Outline) (run : List Char) :
    readFrom expression rest position groups current run =
      readFrom expression rest position groups (current.addText run.reverse) [] := by
  cases rest with
  | nil => cases groups <;> rfl
  | cons c rest =>
    have is := stops c rfl
    simp only [isBracket, Bool.or_eq_true, beq_iff_eq] at is
    rcases is with rfl | rfl
    · rfl
    · cases groups <;> rfl

/-- A text without brackets goes to the run, from the first character to the last. -/
theorem readFrom_text {expression : String} {text : List Char} (plain : ∀ c ∈ text, isBracket c = false)
    (rest : List Char) (position : Nat) (groups : List OpenGroup) (current : Outline) (run : List Char) :
    readFrom expression (text ++ rest) position groups current run =
      readFrom expression rest (position + text.length) groups current (text.reverse ++ run) := by
  induction text generalizing position run with
  | nil => rfl
  | cons c text ih =>
    obtain ⟨noBracket, others⟩ := List.forall_mem_cons.mp plain
    simp only [isBracket, Bool.or_eq_false_iff, beq_eq_false_iff_ne] at noBracket
    rw [List.cons_append, readFrom_plain expression noBracket.1 noBracket.2, ih others]
    simp [Nat.add_assoc, Nat.add_comm 1]

/-- A written outline is read as part of the current group. -/
theorem readFrom_written (expression : String) {outline : Outline} (proper : outline.Proper)
    {rest : List Char} (stops : EndsRun rest) (position : Nat) (groups : List OpenGroup)
    (current : Outline) :
    readFrom expression (outline.written ++ rest) position groups current [] =
      readFrom expression rest (position + outline.written.length) groups (current.append outline) [] := by
  induction outline generalizing rest position groups current with
  | done => rw [append_done, written, List.nil_append, List.length_nil, Nat.add_zero]
  | segment text others ih =>
    obtain ⟨is, alone, proper⟩ := proper
    calc readFrom expression ((segment text others).written ++ rest) position groups current []
      _ = readFrom expression (others.written ++ rest) (position + text.toList.length) groups current
            text.toList.reverse := by
        rw [written, List.append_assoc, readFrom_text is.2.2, List.append_nil]
      _ = readFrom expression (others.written ++ rest) (position + text.toList.length) groups
            (current.append (segment text done)) [] := by
        rw [readFrom_endsRun (endsRun_written alone stops), List.reverse_reverse, addText_segment is]
      _ = _ := by
        rw [ih proper stops, append_assoc, append, append, written, List.length_append, Nat.add_assoc]
  | optional inner others ihInner ihOthers =>
    obtain ⟨properInner, properOthers⟩ := proper
    have closes : EndsRun (']' :: (others.written ++ rest)) := by
      intro c first
      cases first
      rfl
    calc readFrom expression ((optional inner others).written ++ rest) position groups current []
      _ = readFrom expression (inner.written ++ ']' :: (others.written ++ rest)) (position + 1)
            (⟨current, position⟩ :: groups) done [] := by
        simp only [written, List.append_assoc, List.cons_append, readFrom, List.reverse_nil, addText_nil]
      _ = readFrom expression (others.written ++ rest) (position + 1 + inner.written.length + 1) groups
            (current.append (optional inner done)) [] := by
        rw [ihInner properInner closes, readFrom]
        rfl
      _ = _ := by
        rw [ihOthers properOthers stops, append_assoc, append, append, written]
        congr 1
        simp only [List.length_append, List.length_cons]
        omega

/-- Every balanced expression has an outline, and the walk through it is the one that the expression
describes. Every proper outline is read from what it is written as. -/
theorem read_faithful :
    (∀ expression : String, Balanced expression.toList →
      ∃ outline, read expression = .ok outline ∧ outline.events = walk expression.toList) ∧
    (∀ outline : Outline, outline.Proper → read (String.ofList outline.written) = .ok outline) := by
  constructor
  · intro expression balanced
    obtain ⟨outline, returned⟩ := (exists_read_iff expression).mpr balanced
    refine ⟨outline, returned, ?_⟩
    have plain : ∀ c ∈ ([] : List Char), isBracket c = false := by simp
    have all := events_readFrom plain returned
    rwa [entered, events, List.nil_append, List.nil_append, List.reverse_nil, List.nil_append] at all
  · intro outline proper
    have stops : EndsRun [] := by
      intro c first
      cases first
    have all := readFrom_written (String.ofList outline.written) proper stops 0 [] done
    rw [List.append_nil] at all
    rw [read, String.toList_ofList, all]
    rfl

/-- The text before, inside and after two nested groups, read from an expression with more white space
than it needs, and from the outline as it is written. -/
theorem read_faithful_nested :
    (∃ outline, read " go [to[ the ] :place]now" = .ok outline ∧
      outline.events = [.segment "go", .enter, .segment "to", .enter, .segment "the", .leave,
        .segment ":place", .leave, .segment "now"]) ∧
    read "go[to[the]:place]now" = .ok (.segment "go" (.optional (.segment "to"
      (.optional (.segment "the" .done) (.segment ":place" .done))) (.segment "now" .done))) := by
  constructor
  · obtain ⟨outline, returned, events⟩ := read_faithful.1 " go [to[ the ] :place]now" (by decide)
    exact ⟨outline, returned, events.trans (by decide)⟩
  · exact read_faithful.2 (.segment "go" (.optional (.segment "to" (.optional (.segment "the" .done)
      (.segment ":place" .done))) (.segment "now" .done))) (by decide)

end Outline

end LineGrammar
