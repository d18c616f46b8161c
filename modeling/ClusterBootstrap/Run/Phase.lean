/-!
# Phases of a run

A run goes through its phases in order and may fail from any that is not final.
-/

namespace ClusterBootstrap

/-- The phase of a run. -/
inductive Phase where
  | idle
  | discovering
  | located
  | assigning
  | done
  | failed
  deriving DecidableEq, Repr, Inhabited

namespace Phase

/-- The name of a phase. -/
def name : Phase → String
  | idle => "Idle"
  | discovering => "Discovering"
  | located => "Located"
  | assigning => "Assigning"
  | done => "Done"
  | failed => "Failed"

/-- The phase of a name. -/
def ofName? (name : String) : Option Phase :=
  [idle, discovering, located, assigning, done, failed].find? fun phase => phase.name = name

/-- A name is read as the phase that has it. -/
theorem ofName?_name (phase : Phase) : ofName? phase.name = some phase := by
  cases phase <;> decide

/-- No two phases have one name. -/
theorem name_injective {phase other : Phase} (h : phase.name = other.name) : phase = other := by
  have hRead := congrArg ofName? h
  rw [ofName?_name, ofName?_name] at hRead
  exact Option.some.inj hRead

/-- Whether a run ends in this phase. -/
def isTerminal : Phase → Bool
  | done | failed => true
  | _ => false

/-- Whether a phase may follow another. -/
def canAdvanceTo : Phase → Phase → Bool
  | idle, discovering => true
  | discovering, located => true
  | located, assigning => true
  | assigning, done => true
  | phase, failed => !phase.isTerminal
  | _, _ => false

/-- Moves to the next phase if that is allowed, and stays otherwise. -/
def advance (phase next : Phase) : Phase :=
  if phase.canAdvanceTo next then next else phase

end Phase

end ClusterBootstrap
