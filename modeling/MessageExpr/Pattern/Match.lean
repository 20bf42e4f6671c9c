import MessageExpr.Pattern.Basic

/-!
# Matching

A pattern takes a set of places of a text to the set of places where it can end when it starts
at one of them.

## Main definitions

* `Pattern.ends` — the places where a pattern can end
* `Pattern.occursIn` — whether a pattern matches some part of a text
-/

namespace MessageExpr.Pattern

/-- The character before a place. -/
def charBefore (text : Array Char) (place : Nat) : Option Char :=
  if place = 0 then none else text[place - 1]?

/-- Two sets of places together. -/
def merge (places others : List Nat) : List Nat :=
  places ++ others.filter fun place => !places.contains place

/-- Takes a step `count` times. Once a step changes nothing, more steps do not either. -/
def iterate (step : List Nat → List Nat) : Nat → List Nat → List Nat
  | 0, places => places
  | count + 1, places =>
    -- The places left after no change are the same after any number of steps.
    let next := step places
    if next == places then places else iterate step count next

/-- Adds the places that up to `count` steps reach, where `latest` are those found last. -/
def closure (step : List Nat → List Nat) : Nat → List Nat → List Nat → List Nat
  | 0, found, _ => found
  | count + 1, found, latest =>
    -- Only the places found last can lead to new ones.
    let new := (step latest).filter fun place => !found.contains place
    if new.isEmpty then found else closure step count (found ++ new) new

/-- The places where a pattern can end when it starts at one of `places`. A repetition without a
limit finds nothing new after as many steps as there are places. -/
def ends (text : Array Char) : Pattern → List Nat → List Nat
  | empty, places => places
  | one s, places =>
    places.filterMap fun place =>
      if (text[place]?).any s.contains then some (place + 1) else none
  | assertion a, places =>
    places.filter fun place => a.holds (charBefore text place) text[place]?
  | concat p q, places => ends text q (ends text p places)
  | either p q, places => merge (ends text p places) (ends text q places)
  | repeated p least most, places =>
    let start := iterate (ends text p) least places
    let count := match most with
      | none => text.size + 1
      | some most => most - least
    closure (ends text p) count start start

/-- Whether a pattern matches some part of a text. -/
def occursIn (p : Pattern) (text : List Char) : Bool :=
  !(ends text.toArray p (List.range (text.length + 1))).isEmpty

end MessageExpr.Pattern
