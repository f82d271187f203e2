import LineGrammar.Proofs.Pattern.Detachment
import LineGrammar.Proofs.Standing

/-!
# Types whose lists can be taken apart

A list is taken apart by a splitter, a pattern that is made of the fragment of its elements. Every fragment
that a registration accepts has one, also a fragment that does not stand alone. The registration asks
whether the fragment can be read in parentheses behind a character, and the splitter holds it in
parentheses too, with parentheses behind them.

So under any table of types, compilation comes to the end of its tokens unless a type is unknown. Whether
the whole pattern is read is another matter.
-/

namespace LineGrammar

open LineGrammar.Text LineGrammar.Pattern

/-- The splitter for a fragment is a pattern. -/
def Pattern.HasSplitter (fragment : String) : Prop :=
  ∃ splitter, Pattern.read (Fragment.listElement fragment) .none = .ok splitter

namespace Pattern.HasSplitter

/-- A fragment that stands alone has a splitter. -/
theorem of_standalone {fragment : String} (standalone : Standalone fragment) : HasSplitter fragment := by
  obtain ⟨splitter, isSplitter, -⟩ := standalone.splitter
  exact ⟨splitter, isSplitter⟩

/-- A fragment that can be embedded and captures nothing has a splitter. -/
theorem of_embedded {fragment : String} (embeds : Fragment.embeddedGroups fragment = .ok 0) :
    HasSplitter fragment := by
  obtain ⟨own, read, groups⟩ := Except.bind_eq_ok.mp embeds
  have behind : (Fragment.embedded fragment).toList =
      'x' :: '(' :: '?' :: ':' :: (fragment.toList ++ [')']) := by
    simp [Fragment.embedded]
  obtain ⟨level, stands⟩ :=
    Stands.of_read_behind (by decide) behind read (Except.ok.inj groups)
  obtain ⟨items, separator, -⟩ := IsUnit.separator.run
  have ends := ((Branches.cons separator (.one Spells.textEnd)).group Opens.lookAhead).spells
  have written : (Fragment.listElement fragment).toList =
      [] ++ ('(' :: '?' :: ':' :: (fragment.toList ++ [')'])) ++
        (['(', '?', '='] ++ (Fragment.listSeparator.toList ++ '|' :: [backslash, 'Z']) ++ [')']) := by
    simp [Fragment.listElement, backslash]
  obtain ⟨splitter, isSplitter, -⟩ := stands.between Spells.nil ends (Bounded.opening _) written
  exact ⟨splitter, isSplitter⟩

/-- So does a fragment that a registration accepts. -/
theorem of_accepted {name fragment : String} (accepted : TypeTable.obstacle? name fragment = none) :
    HasSplitter fragment := by
  apply of_embedded
  unfold TypeTable.obstacle? at accepted
  split at accepted
  · cases accepted
  · cases accepted
  · assumption
  · cases accepted

end Pattern.HasSplitter

namespace TypeTable

variable {types : TypeTable}

/-- Lists of every type of a table can be taken apart. -/
def Splitting (types : TypeTable) : Prop := types.Each fun _ type => HasSplitter type.pattern

/-- Lists of types that stand alone can be taken apart. -/
theorem Standing.splitting (standing : types.Standing) : types.Splitting :=
  fun name type known => .of_standalone (standing name type known)

/-- The tables that there are: one begins fresh, goes through requests, and may be copied. -/
inductive Made : TypeTable → Prop
  | fresh {types : TypeTable} (fresh : types.Fresh) : Made types
  | after {types : TypeTable} (made : Made types) (request : Request) : Made (types.after request)
  | copy {types : TypeTable} (made : Made types) : Made types.copy

/-- What holds of the types that are there from the start, and of whatever a registration accepts, holds
of every type of every table. -/
theorem Made.each {property : String → ValueType → Prop} (initial : numeric.Each property)
    (registered : ∀ name fragment conversion, obstacle? name fragment = none →
      property name ⟨name, fragment, conversion⟩) (made : types.Made) : types.Each property := by
  induction made with
  | fresh fresh =>
    rcases fresh with rfl | rfl
    · exact initial
    · exact fun name type known => nomatch known
  | after made request ih =>
    exact Each.after ih initial fun name fragment conversion _ accepted =>
      registered name fragment conversion accepted
  | copy made ih => exact ih

/-- Lists of the types of every table can be taken apart. -/
theorem Made.splitting (made : types.Made) : types.Splitting :=
  made.each (Fresh.standing (.inl rfl)).splitting fun _ _ _ accepted => .of_accepted accepted

/-- The numeric types stand under their own names. -/
theorem numeric_name_eq : numeric.Each fun name type => type.name = name :=
  fun _ _ found => (numeric_listed found).2

/-- Every type is kept under its own name. -/
theorem Made.name_eq (made : types.Made) : types.Each fun name type => type.name = name :=
  made.each numeric_name_eq fun _ _ _ _ => rfl

end TypeTable

namespace Token

variable {types : TypeTable} {token : Token}

/-- Asking for the type of a token fails only when it is unknown. -/
theorem unknownType_of_typeIn {fault : Fault} (failed : token.typeIn types = .error fault) :
    ∃ name, token.type = some name ∧ types.lookup name = none ∧ fault = .unknownType name := by
  unfold typeIn at failed
  split at failed
  · cases failed
  · rename_i name asked
    split at failed
    · cases failed
    · rename_i missing
      cases failed
      exact ⟨name, asked, missing, rfl⟩

/-- What is an element of the list of a token has a splitter. -/
theorem element_hasSplitter (splitting : types.Splitting) {type : Option ValueType}
    (typed : token.typeIn types = .ok type) : HasSplitter (token.element type) :=
  element_of (.of_standalone (.of_isUnit IsUnit.argument))
    (.of_standalone (.of_isUnit IsUnit.listArgument))
    (fun first rest => .of_standalone (.of_isUnit (IsUnit.oneOf first rest))) splitting typed

/-- Under types whose lists can be taken apart, a token fails to compile only when its type is unknown. -/
theorem unknownType_of_compiled (splitting : types.Splitting) {fault : Fault}
    (failed : token.compiled types = .error fault) :
    ∃ name, token.type = some name ∧ types.lookup name = none ∧ fault = .unknownType name := by
  unfold Token.compiled at failed
  split at failed
  · cases failed
  · cases failed
  · cases failed
  · rcases Except.bind_eq_error.mp failed with missing | ⟨type, -, made⟩
    · exact unknownType_of_typeIn missing
    · cases made
  · rcases Except.bind_eq_error.mp failed with missing | ⟨type, typed, rest⟩
    · exact unknownType_of_typeIn missing
    · obtain ⟨splitter, isSplitter⟩ := element_hasSplitter splitting typed
      rcases Except.bind_eq_error.mp rest with refused | ⟨splitter, -, made⟩
      · rw [splitterOf] at refused
        simp only [isSplitter] at refused
        cases refused
      · cases made

end Token

end LineGrammar
