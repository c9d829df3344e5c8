import GridGauge.Literal.Node
import GridGauge.Literal.Token
import Std.Data.HashMap

/-!
# Readers of tokens

A reader finds a node at a place among the tokens or does not, and then
another reader may try; or it finds a flaw, and then no other does. A rule
can also be sure that the place is its own and that what is there is none of
its cases (`Outcome.settled`): then no other case of the rule is tried.

What a rule finds at a place is remembered (`Memory`), so that many rules can
look at the same place. How far the tokens have been looked at is remembered
too, for it says where an expression goes wrong.
-/

namespace GridGauge.Literal

/-- What a rule of the grammar reads. -/
inductive Rule
  | whole
  | expressions
  | expression
  | quietExpression
  | hand
  | starredExpressions
  | starredExpression
  | items
  | item
  | naming
  | named
  | misnamed
  | disjunction
  | conjunction
  | inversion
  | comparison
  | bitOr
  | bitXor
  | bitAnd
  | shift
  | sum
  | term
  | factor
  | power
  | awaited
  | primary
  | atom
  | texts
  | tuple
  | group
  | generator
  | set
  | eachOfSet
  | dictionary
  | eachOfDictionary
  | entries
  | entry
  | pair
  | clauses
  | clause
  | targets
  | target
  | plainTarget
  | arguments
  | argumentList
  | namedArguments
  | unpackedArgument
  | argumentOrStar
  | argumentOrStars
  | function
  deriving DecidableEq, Hashable, Repr

/-- What is remembered from rule to rule. -/
structure Memory where
  /-- What rules have found at places, and where it ends. -/
  found : Std.HashMap (Rule × Nat) (Option (Node × Nat)) := {}
  /-- The number of tokens that have been looked at. -/
  reach : Nat := 0
  /-- Are flaws looked for? -/
  looksForFlaws : Bool := false

/-- What comes of reading at a place. -/
inductive Outcome (α : Type)
  | found (a : α) (place : Nat)
  | absent
  /-- Nothing is there, and no other case of the rule need be tried. -/
  | settled
  | flawed (f : Flaw)

/-- A reader of something among tokens. -/
def Reader (α : Type) : Type := Tokens → Nat → Memory → Outcome α × Memory

namespace Reader

variable {α β : Type}

instance : Monad Reader where
  pure a := fun _ place m => (.found a place, m)
  bind r f := fun tokens place m =>
    match r tokens place m with
    | (.found a place, m) => f a tokens place m
    | (.absent, m) => (.absent, m)
    | (.settled, m) => (.settled, m)
    | (.flawed e, m) => (.flawed e, m)

/-- Nothing is there. -/
def absent : Reader α := fun _ _ m => (.absent, m)

/-- Nothing is there, and no other case of the rule need be tried. -/
def settled : Reader α := fun _ _ m => (.settled, m)

/-- A flaw is there. -/
def flawed (f : Flaw) : Reader α := fun _ _ m => (.flawed f, m)

/-- The first of two readers that finds something. -/
def orElse (r : Reader α) (s : Unit → Reader α) : Reader α := fun tokens place m =>
  match r tokens place m with
  | (.absent, m) => s () tokens place m
  | other => other

instance : OrElse (Reader α) := ⟨orElse⟩

/-- The cases of a rule: that it is settled that there is none shows no further. -/
def cases (r : Reader α) : Reader α := fun tokens place m =>
  match r tokens place m with
  | (.settled, m) => (.absent, m)
  | other => other

/-- The token at the place, which must have been read without a flaw. -/
def peek : Reader Token := fun tokens place m =>
  let m := { m with reach := max m.reach (place + 1) }
  match tokens.all[place]? with
  | some t => (.found t place, m)
  | none => match tokens.ending with
    | some f => (.flawed f, m)
    | none => (.absent, m)

/-- The token at the place, which is passed, if it is of a kind. -/
def token (a? : TokenKind → Option α) : Reader α := do
  match a? (← peek).kind with
  | some a => fun _ place m => (.found a (place + 1), m)
  | none => absent

/-- A sign. -/
def sign (t : Text) : Reader Unit := token fun k => if k = .sign t then some () else none

/-- A word that is no name. -/
def word (t : Text) : Reader Unit := token fun k => if k = .word t then some () else none

/-- A name. -/
def name : Reader Text := token fun
  | .name t => some t
  | _ => none

/-- Something found is only looked at. -/
def ahead (r : Reader α) : Reader Unit := fun tokens place m =>
  match r tokens place m with
  | (.found _ _, m) => (.found () place, m)
  | (.absent, m) | (.settled, m) => (.absent, m)
  | (.flawed f, m) => (.flawed f, m)

/-- Something is not there. -/
def notAhead (r : Reader α) : Reader Unit := fun tokens place m =>
  match r tokens place m with
  | (.found _ _, m) => (.absent, m)
  | (.absent, m) | (.settled, m) => (.found () place, m)
  | (.flawed f, m) => (.flawed f, m)

/-- Something, if it is there. -/
def optional (r : Reader α) : Reader (Option α) := fun tokens place m =>
  match r tokens place m with
  | (.found a place, m) => (.found (some a) place, m)
  | (.absent, m) | (.settled, m) => (.found none place, m)
  | (.flawed f, m) => (.flawed f, m)

/-- As many as there are one after the other, `fuel` bounding their number. -/
def manyUpTo (r : Reader α) : (fuel : Nat) → Reader (List α)
  | 0 => return []
  | fuel + 1 => do
    match ← optional r with
    | some a => return a :: (← manyUpTo r fuel)
    | none => return []

/-- As many as there are one after the other, each of which takes a token. -/
def many (r : Reader α) : Reader (List α) := fun tokens place m =>
  manyUpTo r (tokens.all.length + 1) tokens place m

/-- One or more. -/
def many1 (r : Reader α) : Reader (List α) := do return (← r) :: (← many r)

/-- One or more with commas between. -/
def listed (r : Reader α) : Reader (List α) := do
  let first ← r
  return first :: (← many do sign ","; r)

/-- What was found goes on: `next` is found behind it as often as it is there, each time with what
    was found before. -/
def goesOn (next : α → Reader α) (first : α) : Reader α := fun tokens place m =>
  let rec go : (fuel : Nat) → α → Reader α
    | 0, a => return a
    | fuel + 1, a => do
      match ← optional (next a) with
      | some a => go fuel a
      | none => return a
  go (tokens.all.length + 1) first tokens place m

/-- A reader that is tried only when flaws are looked for. -/
def whenLooking (r : Reader α) : Reader α := fun tokens place m =>
  if m.looksForFlaws then cases r tokens place m else (.absent, m)

/-- A reader that looks for no flaws. -/
def quietly (r : Reader α) : Reader α := fun tokens place m =>
  let (outcome, after) := r tokens place { m with looksForFlaws := false }
  (outcome, { after with looksForFlaws := m.looksForFlaws })

/-- Is the last token that was passed outside of all brackets? -/
def isOutside : Reader Bool := fun tokens place m =>
  (.found ((tokens.all[place - 1]?.map fun t => t.depth == 0).getD true) place, m)

/-- What a rule finds, remembered. -/
def remembered (rule : Rule) (r : Reader Node) : Reader Node := fun tokens place m =>
  match m.found[(rule, place)]? with
  | some (some (node, place)) => (.found node place, m)
  | some none => (.absent, m)
  | none =>
    match r tokens place m with
    | (.found node after, m) =>
      (.found node after, { m with found := m.found.insert (rule, place) (some (node, after)) })
    | (.absent, m) => (.absent, { m with found := m.found.insert (rule, place) none })
    | other => other

end Reader

end GridGauge.Literal
