import Uncomment.Pattern.CharSet
import Uncomment.Pattern.Condition

/-!
# Expressions

An expression describes texts: given ones, single characters of a set, conditions on a place, and
these one after the other, in alternation and repeated. Expressions are built by functions that keep
them simple: what is empty is left out, texts that follow each other are one text, alternatives that
are single characters are one set, and what all alternatives begin with is written once.

Results:
* `reversed_reversed`: an expression reversed twice is the expression itself.
-/

namespace Uncomment.Pattern

/-- A description of texts. -/
inductive Expression where
  | empty
  | text (cs : List Char)
  /-- One character of a set. Sets that are made with and without the flag `u` are told apart. -/
  | set (s : CharSet) (unicode : Bool)
  | condition (c : Condition)
  | sequence (es : List Expression)
  | alternatives (es : List Expression)
  /-- At least and at most so many times, and whether many are preferred; without a second number,
      any number of times. -/
  | repeated (e : Expression) (least : Nat) (most : Option Nat) (greedy : Bool)
  /-- A part whose text could be asked for, by its place in the pattern; it describes what the part
      describes. -/
  | captured (e : Expression) (place : Nat)
deriving Repr

namespace Expression

/-! ## Comparing -/

mutual

/-- Whether two expressions are the same in all their parts. -/
def same : Expression → Expression → Bool
  | empty, empty => true
  | text a, text b => a == b
  | set a u, set b v => a = b && u = v
  | condition a, condition b => a = b
  | sequence as, sequence bs => sameAll as bs
  | alternatives as, alternatives bs => sameAll as bs
  | repeated a l m g, repeated b l' m' g' => l = l' && m = m' && g = g' && a.same b
  | captured a i, captured b j => i = j && a.same b
  | _, _ => false

/-- Whether two lists of expressions are the same. -/
def sameAll : List Expression → List Expression → Bool
  | [], [] => true
  | a :: as, b :: bs => a.same b && sameAll as bs
  | _, _ => false

end

/-! ## Properties -/

mutual

/-- Whether an expression describes no text but the empty one. -/
def isZeroWidth : Expression → Bool
  | empty | condition _ => true
  | text _ | set _ _ => false
  | sequence es | alternatives es => areZeroWidth es
  | repeated e _ _ _ | captured e _ => e.isZeroWidth

/-- Whether expressions describe no text but the empty one. -/
def areZeroWidth : List Expression → Bool
  | [] => true
  | e :: es => e.isZeroWidth && areZeroWidth es

end

mutual

/-- The number of characters in the shortest text that is described; unknown where a part describes
    no text at all. -/
def shortest? : Expression → Option Nat
  | empty | condition _ => some 0
  | text cs => some cs.length
  | set s _ => if s.ranges.isEmpty then none else some 1
  | sequence es => shortestSum? 0 es
  | alternatives [] => none
  | alternatives (e :: es) => do shortestOf? (← e.shortest?) es
  | repeated e least _ _ => e.shortest?.map (least * ·)
  | captured e _ => e.shortest?

/-- The sum of a number and those of expressions. -/
def shortestSum? (n : Nat) : List Expression → Option Nat
  | [] => some n
  | e :: es =>
    match e.shortest? with
    | none => none
    | some m => shortestSum? (n + m) es

/-- The least of a number and those of expressions. -/
def shortestOf? (n : Nat) : List Expression → Option Nat
  | [] => some n
  | e :: es =>
    match e.shortest? with
    | none => none
    | some m => shortestOf? (min n m) es

end

mutual

/-- Whether every text that is described begins where a condition holds, as far as is seen without
    a look at what follows the first character. -/
def opensWith (c : Condition) : Expression → Bool
  | empty | text _ | set _ _ => false
  | condition d => c = d
  | sequence es => sequenceOpensWith c es
  | alternatives es => !es.isEmpty && allOpenWith c es
  | repeated e least _ _ => 0 < least && e.opensWith c
  | captured e _ => e.opensWith c

/-- Whether a sequence begins where a condition holds. -/
def sequenceOpensWith (c : Condition) : List Expression → Bool
  | [] => false
  | e :: es => e.opensWith c || e.isZeroWidth && sequenceOpensWith c es

/-- Whether each of some expressions begins where a condition holds. -/
def allOpenWith (c : Condition) : List Expression → Bool
  | [] => true
  | e :: es => e.opensWith c && allOpenWith c es

end

mutual

/-- Whether a condition of some kind is part of an expression. -/
def hasCondition (p : Condition → Bool) : Expression → Bool
  | empty | text _ | set _ _ => false
  | condition c => p c
  | sequence es | alternatives es => haveCondition p es
  | repeated e _ _ _ | captured e _ => e.hasCondition p

/-- Whether a condition of some kind is part of one of some expressions. -/
def haveCondition (p : Condition → Bool) : List Expression → Bool
  | [] => false
  | e :: es => e.hasCondition p || haveCondition p es

end

mutual

/-- Whether a part of an expression is captured. -/
def hasCapture : Expression → Bool
  | empty | text _ | set _ _ | condition _ => false
  | sequence es | alternatives es => haveCapture es
  | repeated e _ _ _ => e.hasCapture
  | captured _ _ => true

/-- Whether a part of one of some expressions is captured. -/
def haveCapture : List Expression → Bool
  | [] => false
  | e :: es => e.hasCapture || haveCapture es

end

/-- Whether an expression asks about words of all scripts. -/
def asksUnicodeWords : Expression → Bool :=
  hasCondition fun c => match c with
    | .unicodeWord _ => true
    | _ => false

/-! ## Reversing -/

mutual

/-- The expression that describes the same texts read backward. -/
def reversed : Expression → Expression
  | empty => empty
  | text cs => text cs.reverse
  | set s u => set s u
  | condition c => condition c.reversed
  | sequence es => sequence (reversedOnto [] es)
  | alternatives es => alternatives (reversedOnto [] es).reverse
  | repeated e least most greedy => repeated e.reversed least most greedy
  | captured e place => captured e.reversed place

/-- Expressions reversed, the last one first, in front of others. -/
def reversedOnto (done : List Expression) : List Expression → List Expression
  | [] => done
  | e :: es => reversedOnto (e.reversed :: done) es

end

theorem reversedOnto_eq (done es : List Expression) :
    reversedOnto done es = (es.map reversed).reverse ++ done := by
  induction es generalizing done with
  | nil => simp [reversedOnto]
  | cons e es ih => simp [reversedOnto, ih]

mutual

@[simp] theorem reversed_reversed : (e : Expression) → e.reversed.reversed = e
  | empty => by simp [reversed]
  | text _ => by simp [reversed]
  | set _ _ => by simp [reversed]
  | condition _ => by simp [reversed]
  | sequence es => by simp [reversed, reversedOnto_eq, map_reversed_reversed es]
  | alternatives es => by simp [reversed, reversedOnto_eq, map_reversed_reversed es]
  | repeated e _ _ _ => by simp [reversed, reversed_reversed e]
  | captured e _ => by simp [reversed, reversed_reversed e]

theorem map_reversed_reversed : (es : List Expression) →
    es.map (reversed ∘ reversed) = es
  | [] => by simp
  | e :: es => by
    simp only [List.map_cons, Function.comp_apply, reversed_reversed e, map_reversed_reversed es]

end

/-! ## Building -/

/-- One character of a set; a single character is a text. -/
def ofSet (s : CharSet) (unicode : Bool) : Expression :=
  match s.member? with
  | some c => text [c]
  | none => set s (unicode && !s.ranges.isEmpty)

/-- The expression of no text at all. -/
def nothing : Expression := ofSet {} false

/-- The repetition of an expression. What is empty is not repeated more than once, what is repeated
    no time is empty, and once is the expression itself. -/
def times (e : Expression) (least : Nat) (most : Option Nat) (greedy : Bool) : Expression :=
  let (least, most) :=
    if e.isZeroWidth then (min least 1, some (min (most.getD 1) 1)) else (least, most)
  if most = some 0 then empty
  else if least = 1 ∧ most = some 1 then e
  else repeated e least most greedy

/-- The parts of an expression that stand one after the other. -/
def parts : Expression → List Expression
  | empty => []
  | sequence es => es
  | e => [e]

/-- Joins texts that follow each other. What was done and the characters of the text before are
    given in reverse. -/
def joinTexts (done : List Expression) (cs : List Char) : List Expression → List Expression
  | [] => (flush done cs).reverse
  | text ds :: es => joinTexts done (ds.reverse ++ cs) es
  | e :: es => joinTexts (e :: flush done cs) [] es
where
  /-- Puts a text to what was done. -/
  flush (done : List Expression) (cs : List Char) : List Expression :=
    if cs.isEmpty then done else text cs.reverse :: done

/-- Expressions one after the other. -/
def ofSequence (es : List Expression) : Expression :=
  match joinTexts [] [] (es.flatMap parts) with
  | [] => empty
  | [e] => e
  | es => sequence es

/-- The choices that an expression consists of. -/
def choices : Expression → List Expression
  | alternatives es => es
  | e => [e]

/-- The text that an expression is. -/
def text? : Expression → Option (List Char)
  | text cs => some cs
  | _ => none

/-- The character that an expression is. -/
def char? : Expression → Option Char
  | text [c] => some c
  | _ => none

/-- The set that an expression is. -/
def set? : Expression → Option CharSet
  | set s _ => some s
  | _ => none

/-- The ranges of sets, all of which are given. -/
def setRanges? (es : List Expression) : Option (List CharRange) :=
  let sets := es.filterMap set?
  if sets.length = es.length then some (sets.flatMap CharSet.ranges) else none

/-- The ranges of single characters, all of which are given. -/
def charRanges? (es : List Expression) : Option (List CharRange) :=
  let chars := es.filterMap char?
  if chars.length = es.length then some (chars.map CharRange.single) else none

/-- Alternatives; single characters and sets among themselves are one set. -/
def gather (es : List Expression) : Expression :=
  match es with
  | [] => nothing
  | [e] => e
  | es =>
    match (charRanges? es).or (setRanges? es) with
    | some ranges => ofSet (.ofRanges ranges) true
    | none => alternatives es

/-- How many parts two sequences begin with that are the same. -/
def sharedLength (n : Nat) : List Expression → List Expression → Nat
  | a :: as, b :: bs => if a.same b then sharedLength (n + 1) as bs else n
  | _, _ => n

/-- What all of some alternatives begin with, where all are sequences. -/
def sharedFront : List Expression → List Expression
  | sequence as :: es =>
    es.foldl (fun front e => match e with
      | sequence bs => front.take (sharedLength 0 front bs)
      | _ => []) as
  | _ => []

/-- Alternatives. What all of them begin with is put before them. -/
def ofAlternatives (es : List Expression) : Expression :=
  let es := es.flatMap choices
  let front := if es.length ≤ 1 then [] else sharedFront es
  if front.isEmpty then gather es
  else
    let rests := es.map fun e => ofSequence (e.parts.drop front.length)
    ofSequence (front ++ [gather (rests.flatMap choices)])

end Expression

end Uncomment.Pattern
