import InputDeck.Value.Basic

/-!
# Domains

A variable may be declared with the values it is meant to take: a literal that is also its
default, an interval, or a set of which the first element is the default. A variable without a
declaration ranges over the unit interval and defaults to zero. A domain is advice to whoever
binds the variable; a deck takes any value.
-/

namespace InputDeck

/-- What a variable is declared to take. -/
inductive Domain where
  /-- Nothing is declared. -/
  | unconstrained
  /-- A default and nothing more. -/
  | fixed (literal : Text)
  /-- An interval, with a default of its own or without one. -/
  | range (low high : Float) (preset : Option Float)
  /-- A choice among literals. -/
  | set (items : List Text)
deriving DecidableEq

/-- The ways to declare a variable. -/
inductive DomainKind where
  | unconstrained
  | fixed
  | range
  | set
deriving DecidableEq

/-- The name of a kind of domain. -/
def DomainKind.name : DomainKind → String
  | unconstrained => "unconstrained"
  | fixed => "default value"
  | range => "range"
  | set => "set"

namespace Domain

/-- The kind of a domain. -/
def kind : Domain → DomainKind
  | unconstrained => .unconstrained
  | fixed _ => .fixed
  | range .. => .range
  | set _ => .set

/-- The value of a variable that is not bound. An interval without a default of its own defaults
to zero if it holds zero, and to its low end otherwise. -/
def defaultValue : Domain → Value
  | unconstrained => .int 0
  | fixed literal => .ofLiteral literal
  | range low high preset =>
    match preset with
    | some x => .real x
    | none => if low ≤ 0 ∧ 0 ≤ high then .real 0 else .real low
  | set items =>
    match items with
    | [] => .int 0
    | first :: _ => .ofLiteral first

/-- The ends of the interval, if the domain is one. -/
def bounds? : Domain → Option (Float × Float)
  | unconstrained => some (0, 1)
  | range low high _ => some (low, high)
  | fixed _ => none
  | set _ => none

/-- Whether a value lies in the domain. An element of a set is compared as the value it stands
for and as text. -/
def contains (domain : Domain) (v : Value) : Bool :=
  match domain with
  | fixed _ => true
  | set items => items.any fun item => (Value.ofLiteral item).same v || item == v.render
  | domain =>
    match domain.bounds?, v.toReal? with
    | some (low, high), some x => low ≤ x && x ≤ high
    | _, _ => false

/-- Domains of one kind with equal content, real numbers compared as numbers. -/
def same : Domain → Domain → Bool
  | unconstrained, unconstrained => true
  | fixed s, fixed t => s == t
  | range low high preset, range low' high' preset' =>
    low == low' && high == high'
      && (match preset, preset' with
        | none, none => true
        | some x, some y => x == y
        | _, _ => false)
  | set items, set items' => items == items'
  | _, _ => false

end Domain

end InputDeck
