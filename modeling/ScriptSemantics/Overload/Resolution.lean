import ScriptSemantics.Overload.Candidate

/-!
# Overload resolution

The candidates of a call are compared position by position. One candidate dominates another if it
is at least as good at every position and strictly better at one. The candidate that dominates all
others is selected; otherwise the call is ambiguous between the candidates that nobody dominates.

Objects and ordinary arguments at one position compare by rank only, so dominance is not
transitive: a single candidate that nobody dominates may still fail to dominate another one, and
then ties with it.
-/

namespace ScriptSemantics

/-! ## Dominance -/

namespace Candidate

/-- The comparisons that decide between two candidates: of the objects where the call provides one,
then of the slots at each common position. -/
def comparisons (mode : ImplicitObject) (a b : Candidate) : List Ordering :=
  (match mode, a.object, b.object with
    | .provided _, some x, some y => [x.compare y]
    | _, _, _ => [])
    ++ List.zipWith Slot.compare a.slots b.slots

/-- At least as good everywhere and strictly better somewhere. -/
def dominates (mode : ImplicitObject) (a b : Candidate) : Bool :=
  let orders := comparisons mode a b
  orders.all (· != .gt) && orders.any (· == .lt)

/-- The candidates that no candidate dominates. -/
def unbeaten (mode : ImplicitObject) (viable : List Candidate) : List Candidate :=
  viable.filter fun c => !viable.any fun d => dominates mode d c

end Candidate

/-- Outcome of comparing viable candidates. -/
inductive Selection where
  | winner (candidate : Candidate)
  | tied (candidates : List Candidate)
  | empty
deriving Inhabited, Repr

/-- Select the candidate that dominates all others. A lone unbeaten candidate ties with those that
it fails to dominate. -/
def Selection.ofViable (mode : ImplicitObject) (viable : List Candidate) : Selection :=
  match viable, Candidate.unbeaten mode viable with
  | [], _ => .empty
  | _, [] => .tied viable
  | _, [best] =>
    match viable.filter fun c => !Candidate.dominates mode best c with
    | [_] => .winner best
    | rivals => .tied rivals
  | _, several => .tied several

/-! ## Resolution -/

/-- A successful match. -/
structure OverloadMatch where
  function : TypeHash
  object : Option StandardConversion
  initializations : List Initialization
deriving Inhabited, Repr

/-- Verdict of a resolution. -/
inductive ResolutionOutcome where
  | succeeded (found : OverloadMatch)
  | noViableCandidate
  | ambiguous (tied : List TypeHash)
deriving Inhabited, Repr

/-- A resolved call: the verdict, and a report on each candidate in the order given. -/
structure Resolution where
  candidates : List TypeHash
  arguments : Arguments
  reports : List (TypeHash × Viability)
  outcome : ResolutionOutcome
deriving Inhabited, Repr

namespace Resolution

/-- Match one candidate of a call. -/
def evaluate (r : Registry) (mode : ImplicitObject) (arguments : Arguments) (hash : TypeHash) :
    Except Viability Candidate :=
  match r.function? hash with
  | some f => Candidate.evaluate r mode f arguments.toList
  | none => .error .unknownFunction

/-- The report on one candidate. -/
def report (verdict : Except Viability Candidate) : Viability :=
  match verdict with
  | .ok c => .viable c.ranks
  | .error viability => viability

/-- Functions ordered by their first position among the candidates. -/
def inCandidateOrder (candidates functions : List TypeHash) : List TypeHash :=
  functions.mergeSort fun a b => candidates.idxOf a ≤ candidates.idxOf b

/-- The viable ones among some candidates. -/
def viable (r : Registry) (mode : ImplicitObject) (candidates : List TypeHash)
    (arguments : Arguments) : List Candidate :=
  candidates.filterMap fun hash => (evaluate r mode arguments hash).toOption

/-- The verdict that a selection amounts to. -/
def outcomeOf (candidates : List TypeHash) : Selection → ResolutionOutcome
  | .winner c => .succeeded
      { function := c.function, object := c.object, initializations := c.initializations }
  | .tied tied => .ambiguous (inCandidateOrder candidates (tied.map Candidate.function))
  | .empty => .noViableCandidate

/-- Resolve a call among candidates. -/
def resolve (r : Registry) (mode : ImplicitObject) (candidates : List TypeHash)
    (arguments : Arguments) : Resolution where
  candidates := candidates
  arguments := arguments
  reports := candidates.map fun hash => (hash, report (evaluate r mode arguments hash))
  outcome := outcomeOf candidates (.ofViable mode (viable r mode candidates arguments))

/-! ## Queries -/

def match? (resolution : Resolution) : Option OverloadMatch :=
  match resolution.outcome with
  | .succeeded found => some found
  | _ => none

def selected? (resolution : Resolution) : Option TypeHash :=
  resolution.match?.map OverloadMatch.function

/-- Candidates tied for best in an ambiguous call. -/
def tied (resolution : Resolution) : List TypeHash :=
  match resolution.outcome with
  | .ambiguous tied => tied
  | _ => []

/-- The match, or the error that describes why there is none. -/
def result (resolution : Resolution) : Except SemanticError OverloadMatch :=
  match resolution.outcome with
  | .succeeded found => .ok found
  | .ambiguous tied => .error (.ambiguousOverload tied resolution.arguments.dataTypes)
  | .noViableCandidate =>
    .error (.noViableCandidate resolution.candidates resolution.arguments.dataTypes)

end Resolution

end ScriptSemantics
