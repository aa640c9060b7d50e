/-
# Pattern.Basic -- patterns and their matches in order of preference

A pattern is built from characters of a class, runs of a class, sequence, choice and
repetition.  A pattern can match the front of a text in several ways; `ends` lists
what each way leaves of the text, the preferred way first:

* a run prefers to be long;
* a sequence prefers a better match of its first part to a better match of its second;
* a choice prefers its left side;
* a repetition prefers one more round to stopping, and a round must consume something.

This is leftmost-first matching: a search that tries the ways in this order and goes
back to the next one when what follows fails finds exactly the first way for which
the rest of the pattern succeeds.  `matchesAll` asks for a way that leaves nothing;
`capture?` gives the part that a second pattern matches behind the best match of a
first one.
-/
import SparqlRequest.Text.Basic

set_option autoImplicit false

namespace SparqlRequest

/-- A pattern over texts. -/
inductive Pattern where
  /-- Nothing at all. -/
  | empty
  /-- One character of a class. -/
  | one (allowed : Char → Bool)
  /-- Any number of characters of a class, as many as possible first. -/
  | run (allowed : Char → Bool)
  /-- One pattern, then another. -/
  | seq (first second : Pattern)
  /-- Either of two patterns, the left one first. -/
  | alt (left right : Pattern)
  /-- Any number of rounds, as many as possible first. -/
  | star (round : Pattern)

namespace Pattern

/-- What the ways to match a run leave, the longest run first; `shorter` holds what
the shorter ones leave. -/
def runEnds (allowed : Char → Bool) : Text → List Text → List Text
  | [], shorter => [] :: shorter
  | c :: t, shorter =>
      if allowed c then runEnds allowed t ((c :: t) :: shorter) else (c :: t) :: shorter

/-- At most `rounds` rounds of `step`, each of which must leave less than it was
given. -/
def rounds (step : Text → List Text) : Nat → Text → List Text
  | 0, t => [t]
  | n + 1, t =>
      ((step t).filter fun rest => rest.length < t.length).flatMap (rounds step n) ++ [t]

/-- What each way to match the front of a text leaves of it, the preferred way
first.  A round consumes a character, so as many rounds as there are characters
are enough. -/
def ends : Pattern → Text → List Text
  | .empty, t => [t]
  | .one _, [] => []
  | .one allowed, c :: t => if allowed c then [t] else []
  | .run allowed, t => runEnds allowed t []
  | .seq first second, t => (ends first t).flatMap (ends second)
  | .alt left right, t => ends left t ++ ends right t
  | .star round, t => rounds (ends round) t.length t

def matchesAll (p : Pattern) (t : Text) : Bool := (ends p t).any List.isEmpty

/-- What `group` matches behind `lead`, by the first way in which both match. -/
def capture? (lead group : Pattern) (t : Text) : Option Text :=
  (ends lead t).findSome? fun rest =>
    (ends group rest).head?.map fun left => rest.take (rest.length - left.length)

/-! ## Derived patterns -/

def char (c : Char) : Pattern := .one fun d => d = c

/-- At least one character of a class. -/
def many (allowed : Char → Bool) : Pattern := .seq (.one allowed) (.run allowed)

def optional (p : Pattern) : Pattern := .alt p .empty

def sign : Pattern := .optional (.one fun c => c = '+' || c = '-')

/-- Characters of the given classes in turn. -/
def chain (classes : List (Char → Bool)) : Pattern :=
  classes.foldr (fun allowed rest => .seq (.one allowed) rest) .empty

def word (t : Text) : Pattern := chain (t.map fun c d => d = c)

/-- The patterns one after the other. -/
def all (parts : List Pattern) : Pattern := parts.foldr .seq .empty

/-- The first of the patterns that matches. -/
def any : List Pattern → Pattern
  | [] => .one fun _ => false
  | [p] => p
  | p :: q :: rest => .alt p (any (q :: rest))

end Pattern

end SparqlRequest
