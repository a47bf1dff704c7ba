import Uncomment.Pattern.Expression
import Uncomment.Text.Bytes

/-!
# Needles

What every match of an expression begins with is given by needles, in the order in which they are
preferred. A needle is exact if it is a whole match. Where an expression has but few needles, all of
them exact, it can be looked for by them alone, however large an automaton for it would be.

Results:
* `isPartOf_iff`: looking for a needle finds it wherever it stands.
-/

namespace Uncomment.Pattern

/-- Bytes that a match begins with, and whether they are a whole match. -/
structure Needle where
  bytes : Bytes
  exact : Bool := true
deriving DecidableEq, Repr

/-- The needles of an expression; without them a match can begin with anything. -/
abbrev Needles := Option (List Needle)

/-! ## Single needles -/

namespace Needle

/-- A needle that is no whole match. -/
def inexact (n : Needle) : Needle := { n with exact := false }

/-- A needle cut to so many bytes. -/
def cut (size : Nat) (n : Needle) : Needle :=
  if n.bytes.length ≤ size then n else ⟨n.bytes.take size, false⟩

/-- A needle and another one behind it. -/
def before (a b : Needle) : Needle := if a.exact then ⟨a.bytes ++ b.bytes, b.exact⟩ else a

/-- Makes needles that follow each other and have the same bytes one. What was done is given in
    reverse. -/
def unrepeated (done : List Needle) : List Needle → List Needle
  | [] => done.reverse
  | b :: bs =>
    match done with
    | [] => unrepeated [b] bs
    | a :: done =>
      if a.bytes = b.bytes then unrepeated (⟨a.bytes, a.exact && b.exact⟩ :: done) bs
      else unrepeated (b :: a :: done) bs

/-- Leaves out every needle that begins with one that is preferred to it. What was done is given in
    reverse. -/
def preferred (done : List Needle) : List Needle → List Needle
  | [] => done.reverse
  | b :: bs =>
    if done.any (·.bytes.isPrefixOf b.bytes) then preferred done bs else preferred (b :: done) bs

end Needle

/-! ## Needles of expressions -/

namespace Needles

/-- How many needles there may be. -/
def countLimit : Nat := 250

/-- How many bytes a needle may have. -/
def lengthLimit : Nat := 100

/-- How many characters of a set, and how many times of a repetition, are looked at. -/
def widthLimit : Nat := 10

/-- The needle of the empty text. -/
def empty : Needles := some [⟨[], true⟩]

/-- Needles none of which is a whole match. -/
def inexact (ns : Needles) : Needles := ns.map (·.map Needle.inexact)

/-- Whether nothing behind the needles can make them longer. -/
def areInexact (ns : Needles) : Bool := ns.all (·.all (!·.exact))

/-- The needles of one expression behind another. -/
def before : Needles → Needles → Needles
  | none, _ => none
  | some as, bs =>
    match bs.filter fun bs => as.length * bs.length ≤ countLimit with
    | none => if as.any (·.bytes.isEmpty) then none else some (as.map Needle.inexact)
    | some bs =>
      let longer := as.flatMap fun a => if a.exact then bs.map a.before else [a]
      some ((Needle.unrepeated [] longer).map (Needle.cut lengthLimit))

/-- The needles of one expression or another. Where they are too many, short ones may be enough. -/
def union : Needles → Needles → Needles
  | some as, some bs =>
    if as.length + bs.length ≤ countLimit then some (Needle.unrepeated [] (as ++ bs))
    else
      let as := Needle.unrepeated [] (as.map (Needle.cut 4))
      let bs := Needle.unrepeated [] (bs.map (Needle.cut 4))
      if as.length + bs.length ≤ countLimit then some (Needle.unrepeated [] (as ++ bs)) else none
  | _, _ => none

/-- The characters of a range. -/
def chars (r : CharRange) : List Char :=
  (List.range' r.first.toNat r.size).map Char.ofNat

/-- The needles of a set: its characters, where they are few. -/
def ofSet (s : CharSet) : Needles :=
  if s.ranges.foldl (fun n r => n + r.size) 0 ≤ widthLimit then
    some ((s.ranges.flatMap chars).map fun c => { bytes := String.utf8EncodeChar c })
  else none

/-- The needles of an expression so many times, behind others. -/
def power (done ns : Needles) : Nat → Needles
  | 0 => done
  | n + 1 => if done.areInexact then done else power (done.before ns) ns n

/-- The needles of a repetition. -/
def times (ns : Needles) (least : Nat) (most : Option Nat) (greedy : Bool) : Needles :=
  if least = 0 then
    let ns := if most = some 1 then ns else ns.inexact
    if greedy then ns.union empty else empty.union ns
  else
    let all := power empty ns (min least widthLimit)
    if most = some least ∧ least ≤ widthLimit then all else all.inexact

end Needles

mutual

/-- The needles of an expression. -/
def Expression.needles : Expression → Needles
  | .empty | .condition _ => .empty
  | .text cs => some [Needle.cut Needles.lengthLimit { bytes := Text.charsBytes cs }]
  | .set s _ => .ofSet s
  | .sequence es => sequenceNeedles .empty es
  | .alternatives es => unionNeedles (some []) es
  | .repeated e least most greedy => e.needles.times least most greedy
  | .captured e _ => e.needles

/-- The needles of expressions one after the other, behind others. -/
def Expression.sequenceNeedles (done : Needles) : List Expression → Needles
  | [] => done
  | e :: es => if done.areInexact then done else sequenceNeedles (done.before e.needles) es

/-- The needles of alternatives and others that are preferred to them. -/
def Expression.unionNeedles (done : Needles) : List Expression → Needles
  | [] => done
  | e :: es => if done.isNone then done else unionNeedles (done.union e.needles) es

end

/-! ## Needles that are enough -/

/-- A byte that is so common that it says little about a text. -/
def isCommon (b : UInt8) : Bool :=
  "\n\r (),-./0129:_abcdefghilmnoprstuvxy|".toUTF8.data.contains b || 0xC0 ≤ b ||
    [0x80, 0x81, 0x82, 0x83, 0x84, 0x90, 0xB1, 0xB5, 0xB6, 0xB7, 0xB9, 0xBA, 0xBB, 0xBC, 0xBD,
      0xBF].contains b

/-- The bytes that all of some needles begin with. -/
def commonFront : List Needle → Bytes
  | [] => []
  | n :: ns => ns.foldl (fun front m => shared front m.bytes) n.bytes
where
  /-- The bytes that two texts begin with. -/
  shared : Bytes → Bytes → Bytes
    | a :: as, b :: bs => if a = b then a :: shared as bs else []
    | _, _ => []

/-- Cuts needles shorter while they are too many: to so many bytes where there are more than so
    many. -/
def shorten (ns : List Needle) : List (Nat × Nat) → List Needle
  | [] => ns
  | (size, count) :: steps =>
    if ns.length ≤ count then ns
    else shorten (Needle.preferred [] (ns.map (Needle.cut size))) steps

/-- Cuts needles to what they have in common, where that is long enough to tell much. -/
def cutToFront (ns : List Needle) : List Needle :=
  let front := commonFront ns
  let few := ns.all Needle.exact && ns.length ≤ 16
  if 4 < front.length ∨ 1 < front.length ∧ !few then
    Needle.unrepeated [] (ns.map (Needle.cut front.length))
  else ns

/-- The needles by which a text is searched first. An uncommon byte that all of several needles
    begin with is enough; many needles are cut shorter, unless this makes them say too little. -/
def searched (ns : List Needle) : List Needle :=
  let kept := Needle.preferred [] ns
  let front := commonFront kept
  if 1 < ns.length ∧ front.length ≤ 3 ∧ front.head?.any (!isCommon ·) then
    Needle.unrepeated [] (kept.map (Needle.cut 1))
  else
    let kept := cutToFront kept
    let short := shorten kept [(5, 10), (4, 10), (3, 64), (2, 64), (1, 10)]
    if kept.all Needle.exact && (short.any (·.bytes.length ≤ 2) || 64 < short.length) then kept
    else short

/-- The texts that an expression describes, where they are few enough to be looked for by
    themselves. -/
def Expression.texts? (e : Expression) : Option (List Bytes) :=
  if e.hasCapture || e.hasCondition fun _ => true then none
  else
    match Needles.union (some []) e.needles with
    | none => none
    | some ns =>
      if ns.any (·.bytes.isEmpty) then none
      else
        let ns := searched ns
        if ns.isEmpty || !ns.all Needle.exact then none else some (ns.map Needle.bytes)

/-! ## Looking for needles -/

/-- Whether some bytes stand somewhere in a text. -/
def isPartOf (bytes : Bytes) : Bytes → Bool
  | [] => bytes.isEmpty
  | b :: bs => bytes.isPrefixOf (b :: bs) || isPartOf bytes bs

theorem isPartOf_iff (bytes text : Bytes) : isPartOf bytes text = true ↔ bytes <:+: text := by
  induction text with
  | nil => simp [isPartOf]
  | cons b bs ih => simp [isPartOf, ih, List.infix_cons_iff]

end Uncomment.Pattern
