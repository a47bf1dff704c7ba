import Uncomment.Pattern.Draft
import Uncomment.Pattern.SlotTable
import Uncomment.Pattern.Utf8Ranges

/-!
# Sets as parts of automata

A set of characters becomes states that read one character of it. A set of ASCII needs one state.
For any other set, states that go on in the same way are shared while a table still knows them; read
forward, sequences of bytes share their beginnings too.
-/

namespace Uncomment.Pattern.Build

/-! ## ASCII -/

/-- The part that reads a byte of some ranges. -/
def ofByteRanges (ranges : List ByteRange) : Build Part := do
  let stop ← add (.pass 0)
  let start ← add (.links (ranges.map fun r => ⟨r, stop⟩))
  pure ⟨start, stop⟩

/-- The part that reads a character of a set of ASCII. -/
def ofAscii (s : CharSet) : Build Part :=
  ofByteRanges (s.ranges.map fun r => ⟨r.first.toNat.toUInt8, r.last.toNat.toUInt8⟩)

/-! ## Forward -/

/-- The states that are known by their ways. -/
abbrev LinkTable := SlotTable (List Link) Nat

/-- The state with some ways: one that is known, or a new one. -/
def sharedLinks (ls : List Link) (table : LinkTable) : Build (Nat × LinkTable) := do
  let slot := slotOf 10000 <|
    ls.flatMap fun l => [l.range.first.toNat, l.range.last.toNat, l.target]
  match table.find? slot ls with
  | some i => pure (i, table)
  | none =>
    let i ← add (.links ls)
    pure (i, table.put slot ls i)

/-- The state from which each of some sequences of ranges leads to `stop`. Sequences that follow
    each other and begin alike begin with one way. Sequences are at most `depth` long. -/
def trunk (stop : Nat) : Nat → List (List ByteRange) → LinkTable → Build (Nat × LinkTable)
  | 0, _, table => pure (stop, table)
  | depth + 1, sequences, table => do
    let (ls, table) ← (sequences.splitBy fun a b => a.head? = b.head?).foldlM (fun
      | (ls, table), (range :: rest) :: others => do
        if rest.isEmpty then pure (⟨range, stop⟩ :: ls, table)
        else
          let (target, table) ← trunk stop depth (rest :: others.map List.tail) table
          pure (⟨range, target⟩ :: ls, table)
      | (ls, table), _ => pure (ls, table)) (([] : List Link), table)
    sharedLinks ls.reverse table

/-- The part that reads a character of a set. -/
def ofSetForward (s : CharSet) : Build Part := do
  let stop ← add (.pass 0)
  let (start, _) ← trunk stop 4 s.byteSequences {}
  pure ⟨start, stop⟩

/-! ## Backward -/

/-- The states that are known by their way. -/
abbrev LinkEndTable := SlotTable Link Nat

/-- The state with one way: one that is known, or a new one. -/
def sharedLink (l : Link) (table : LinkEndTable) : Build (Nat × LinkEndTable) := do
  let slot := slotOf 1000 [l.target, l.range.first.toNat, l.range.last.toNat]
  match table.find? slot l with
  | some i => pure (i, table)
  | none =>
    let i ← add (.link l)
    pure (i, table.put slot l i)

/-- The part that reads the bytes of a character of a set from the last to the first. -/
def ofSetBackward (s : CharSet) : Build Part := do
  let start ← choice
  let stop ← add (.pass 0)
  let _ ← s.byteSequences.foldlM (fun table sequence => do
    let (front, table) ← sequence.foldlM (fun (target, table) range =>
      sharedLink ⟨range, target⟩ table) (stop, table)
    link start front
    pure table) ({} : LinkEndTable)
  pure ⟨start, stop⟩

end Uncomment.Pattern.Build
