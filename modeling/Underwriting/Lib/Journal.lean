import Underwriting.Lib.Lists

/-! # Journals

A component that answers one input at a time and keeps a state between them. Its
journal has an entry for each input. A rule proves a property of every entry
together with what came before it, from an invariant of the past and the state.
-/

namespace Journal

/-- One input, its answer, and the states around it. -/
structure Entry (State Input Output : Type) where
  before : State
  input : Input
  output : Output
  after : State

variable {State Input Output : Type}

/-- What one input comes to. -/
def entry (answer : State → Input → Output × State) (state : State) (input : Input) : Entry State Input Output :=
  ⟨state, input, (answer state input).1, (answer state input).2⟩

/-- The entries of a sequence of inputs. -/
def journal (answer : State → Input → Output × State) : State → List Input → List (Entry State Input Output)
  | _, [] => []
  | state, input :: rest => entry answer state input :: journal answer (answer state input).2 rest

section Rule

variable {answer : State → Input → Output × State} {order : Input → Input → Prop}
  {invariant : List (Entry State Input Output) → State → Prop}
  {property : List (Entry State Input Output) → Entry State Input Output → Prop}
  (each : ∀ past state input, invariant past state → (∀ e ∈ past, order e.input input) →
    property past (entry answer state input) ∧
      invariant (past ++ [entry answer state input]) (answer state input).2)
  {state : State} {inputs : List Input} {past earlier rest : List (Entry State Input Output)}
  {e : Entry State Input Output}
include each

theorem journal_satisfies_after (holds : invariant past state)
    (later : ∀ e ∈ past, ∀ input ∈ inputs, order e.input input) (ordered : inputs.Pairwise order)
    (split : journal answer state inputs = earlier ++ e :: rest) : property (past ++ earlier) e := by
  induction inputs generalizing past state earlier with
  | nil => simp [journal] at split
  | cons input inputs ih =>
      obtain ⟨first, ordered⟩ := List.pairwise_cons.mp ordered
      obtain ⟨now, next⟩ := each past state input holds fun e member => later e member input List.mem_cons_self
      cases earlier with
      | nil =>
          obtain ⟨rfl, -⟩ := List.cons.inj split
          rwa [List.append_nil]
      | cons head earlier =>
          obtain ⟨rfl, tail⟩ := List.cons.inj split
          have later' : ∀ e ∈ past ++ [entry answer state input], ∀ input' ∈ inputs, order e.input input' := by
            apply Lists.forall_mem_snoc
            · exact fun e member input' member' => later e member input' (List.mem_cons_of_mem _ member')
            · exact first
          have found := ih next later' ordered tail
          rwa [List.append_assoc] at found

/-- An invariant of the past and the state, kept by every input in order, proves a
    property of every entry. -/
theorem journal_satisfies (initially : invariant [] state) (ordered : inputs.Pairwise order)
    (split : journal answer state inputs = earlier ++ e :: rest) : property earlier e :=
  journal_satisfies_after each initially (fun _ member => absurd member List.not_mem_nil) ordered split

end Rule

end Journal
