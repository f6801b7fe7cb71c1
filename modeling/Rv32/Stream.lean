import Rv32.Decode

/-!
# Instruction streams

Code in memory is a row of instructions of both widths, one after the other and each with its least
significant byte first.

* `fetch` : the first word of some bytes, or that they end within it;
* `Stream` : a place in such a row, with the instruction set that decodes it;
* `Stream.next?` : the item at the place and the place behind it. A word that does not decode is an
  item too and does not end the stream;
* `Stream.items` : all items from a place on.
-/

namespace Rv32

/-- What stands at the front of some bytes. -/
inductive Fetch where
  | word (w : Word)
  /-- The bytes end within the word. -/
  | cut
deriving DecidableEq

/-- The word at the front of the bytes, and the bytes behind it. The first byte tells how many bytes
the word has; none are left behind a word that is cut. -/
def fetch : List Byte → Option (Fetch × List Byte)
  | [] => none
  | [_] => some (.cut, [])
  | b₀ :: b₁ :: rest =>
    match Width.select b₀.toNat, rest with
    | .half, rest => some (.word (.half (b₁ ++ b₀)), rest)
    | .full, b₂ :: b₃ :: rest => some (.word (.full (b₃ ++ b₂ ++ b₁ ++ b₀)), rest)
    | .full, _ => some (.cut, [])

theorem length_lt_of_fetch {bs rest : List Byte} {f : Fetch} (h : fetch bs = some (f, rest)) :
    rest.length < bs.length := by
  unfold fetch at h
  split at h
  · cases h
  · cases h; simp
  · split at h <;> cases h <;> (simp only [List.length_cons, List.length_nil]; omega)

structure Stream where
  isa : Isa
  offset : Nat := 0
  rest : List Byte
deriving DecidableEq

/-- An instruction or the reason why there is none, with the offset at which it begins. -/
structure Item where
  offset : Nat
  result : Except DecodeError Instruction

namespace Stream

/-- The stream of some bytes, from their beginning. -/
def ofBytes (isa : Isa) (bytes : List Byte) : Stream := { isa, rest := bytes }

/-- What the fetched word is, at the place of the stream. -/
def result (s : Stream) : Fetch → Except DecodeError Instruction
  | .word w => s.isa.decode w
  | .cut => .error (.truncated s.offset)

def next? (s : Stream) : Option (Item × Stream) :=
  match fetch s.rest with
  | none => none
  | some (f, rest) =>
    some (⟨s.offset, s.result f⟩,
      { s with offset := s.offset + (s.rest.length - rest.length), rest })

theorem length_lt_of_next? {s t : Stream} {i : Item} (h : s.next? = some (i, t)) :
    t.rest.length < s.rest.length := by
  unfold next? at h
  split at h
  · cases h
  · next hf => cases h; exact length_lt_of_fetch hf

/-- The place behind the last item. -/
def finish (s : Stream) : Stream := { s with offset := s.offset + s.rest.length, rest := [] }

/-- All items from the place on. -/
def items (s : Stream) : List Item :=
  match _next : s.next? with
  | none => []
  | some (i, t) => i :: t.items
termination_by s.rest.length
decreasing_by exact length_lt_of_next? _next

theorem items_of_none {s : Stream} (h : s.next? = none) : s.items = [] := by
  rw [items]
  split
  · rfl
  · simp_all

theorem items_of_some {s t : Stream} {i : Item} (h : s.next? = some (i, t)) :
    s.items = i :: t.items := by
  rw [items]
  split
  · simp_all
  · simp_all

end Stream

end Rv32
