import CourierDispatch.DomainName.Composition
import CourierDispatch.DomainName.PropertyTable

/-!
# Joiners

Two characters without a shape of their own say whether their neighbours join. A name may have
them only where they can be seen: behind a mark that takes a vowel away, and the one that keeps
letters apart also between letters that would join.
-/

namespace CourierDispatch.DomainName

/-- Keeps letters apart. -/
def nonJoiner : Char := '\u200c'

/-- Lets letters join. -/
def joiner : Char := '\u200d'

/-- The class of the marks that take a vowel away. -/
def vowelKiller : Nat := 9

open Property

/-- Do letters join through a character? -/
def isSeenThrough (c : Char) : Bool := within nonspacing c || within seenThrough c

/-- Do the letters around a place join, the ones before it read backwards? -/
def wouldJoin (before behind : List Char) : Bool :=
  ((before.dropWhile isSeenThrough).head?.any fun c => within joinsBoth c || within joinsNext c) &&
    (behind.dropWhile isSeenThrough).head?.any fun c => within joinsBoth c || within joinsPrevious c

/-- Can all joiners of a text be seen? What stands before it is read backwards. -/
def joinersSeen (before : List Char) : List Char → Bool
  | [] => true
  | c :: rest =>
    (if c = nonJoiner ∨ c = joiner then
      before.head?.any (Composition.markClass · = vowelKiller) ||
        (c = nonJoiner && wouldJoin before rest)
    else true) && joinersSeen (c :: before) rest

end CourierDispatch.DomainName
