/-!
# Bytes and UTF-8

Arguments, paths, environment values, files and outputs are lists of bytes; names, settings
and messages are texts. This module goes between the two: `encode` writes the characters of a
text, `decode` reads a byte list as a sequence of characters and ill-formed pieces.

* `decode?` answers the text exactly when no piece is ill-formed;
* `lossy` shows each ill-formed piece as one replacement character.

An ill-formed piece is the longest beginning of a character that the bytes at hand still
allow, or a single byte that begins none, so a later good character is never swallowed.
-/

namespace AgeReport

/-- The bytes of an argument, a path, a file or an output. -/
abbrev Bytes := List UInt8

namespace Text

/-! ## Writing -/

/-- The bytes of a sequence of characters. -/
def encode (cs : List Char) : Bytes :=
  cs.flatMap String.utf8EncodeChar

/-- The bytes of a text. -/
def bytes (s : String) : Bytes :=
  encode s.toList

/-! ## Reading -/

/-- What stands at one place of a byte list. -/
inductive Symbol
  /-- A character. -/
  | char (c : Char)
  /-- Bytes that begin no character, or only the beginning of one. -/
  | illFormed (bytes : Bytes)
deriving DecidableEq, Repr

namespace Symbol

/-- The character, or U+FFFD in place of an ill-formed piece. -/
def shown : Symbol → Char
  | char c => c
  | illFormed _ => '\uFFFD'

end Symbol

/-- A continuation byte without further restriction. -/
def anyTail : UInt8 × UInt8 := (0x80, 0xBF)

/-- For a byte that can begin a character, the bits of the code point that it carries and the
ranges in which the bytes after it have to lie. The narrower second ranges exclude overlong
forms, surrogates and code points above U+10FFFF. -/
def lead? (b : UInt8) : Option (Nat × List (UInt8 × UInt8)) :=
  if b < 0x80 then some (b.toNat, [])
  else if b < 0xC2 then none
  else if b < 0xE0 then some (b.toNat % 32, [anyTail])
  else if b = 0xE0 then some (0, [(0xA0, 0xBF), anyTail])
  else if b = 0xED then some (13, [(0x80, 0x9F), anyTail])
  else if b < 0xF0 then some (b.toNat % 16, [anyTail, anyTail])
  else if b = 0xF0 then some (0, [(0x90, 0xBF), anyTail, anyTail])
  else if b < 0xF4 then some (b.toNat % 8, [anyTail, anyTail, anyTail])
  else if b = 0xF4 then some (4, [(0x80, 0x8F), anyTail, anyTail])
  else none

/-- Reads continuation bytes in the given ranges, six bits each; answers the code point and
what follows, or `none` and what follows the bytes that did fit. -/
def tail (bits : Nat) : List (UInt8 × UInt8) → Bytes → Option Nat × Bytes
  | [], rest => (some bits, rest)
  | _ :: _, [] => (none, [])
  | (lo, hi) :: ranges, b :: rest =>
    if lo ≤ b ∧ b ≤ hi then tail (bits * 64 + b.toNat % 64) ranges rest else (none, b :: rest)

theorem tail_length_le (bits : Nat) (ranges : List (UInt8 × UInt8)) (bs : Bytes) :
    (tail bits ranges bs).2.length ≤ bs.length := by
  induction ranges generalizing bits bs with
  | nil => simp [tail]
  | cons r ranges ih =>
    cases bs with
    | nil => simp [tail]
    | cons b rest =>
      simp only [tail]
      split
      · exact Nat.le_succ_of_le (ih _ _)
      · exact Nat.le_refl _

/-- The symbol that begins with byte `b`, and what follows it. -/
def next (b : UInt8) (bs : Bytes) : Symbol × Bytes :=
  match lead? b with
  | none => (.illFormed [b], bs)
  | some (bits, ranges) =>
    match tail bits ranges bs with
    | (some code, rest) => (.char (Char.ofNat code), rest)
    | (none, rest) => (.illFormed (b :: bs.take (bs.length - rest.length)), rest)

theorem next_length_le (b : UInt8) (bs : Bytes) : (next b bs).2.length ≤ bs.length := by
  unfold next
  split
  · exact Nat.le_refl _
  · rename_i bits ranges _
    have h := tail_length_le bits ranges bs
    split <;> simp_all

/-- The symbols of a byte list, from left to right. -/
def decode : Bytes → List Symbol
  | [] => []
  | b :: bs => (next b bs).1 :: decode (next b bs).2
termination_by bs => bs.length
decreasing_by exact Nat.lt_succ_of_le (next_length_le b bs)

/-- The characters of a byte list, or what is left of it from the first ill-formed piece on. -/
def chars : Bytes → Except Bytes (List Char)
  | [] => .ok []
  | b :: bs =>
    match next b bs with
    | (.illFormed _, _) => .error (b :: bs)
    | (.char c, _) => (chars (next b bs).2).map (c :: ·)
termination_by bs => bs.length
decreasing_by exact Nat.lt_succ_of_le (next_length_le b bs)

/-- The characters of a byte list, if all of it is well-formed. -/
def decode? (bs : Bytes) : Option (List Char) :=
  (chars bs).toOption

/-- The text of a byte list, if all of it is well-formed. -/
def text? (bs : Bytes) : Option String :=
  (decode? bs).map String.ofList

/-- The characters of a byte list, with U+FFFD for each ill-formed piece. -/
def lossyChars (bs : Bytes) : List Char :=
  (decode bs).map Symbol.shown

/-- The text of a byte list, with U+FFFD for each ill-formed piece. -/
def lossy (bs : Bytes) : String :=
  String.ofList (lossyChars bs)

/-! ## Characters below U+0080 -/

@[simp] theorem encode_nil : encode [] = [] := rfl

@[simp] theorem encode_append (cs ds : List Char) : encode (cs ++ ds) = encode cs ++ encode ds := by
  simp [encode]

theorem encode_cons_of_lt {c : Char} (h : c.toNat < 0x80) (cs : List Char) :
    encode (c :: cs) = UInt8.ofNat c.toNat :: encode cs := by
  have hc : String.utf8EncodeChar c = [UInt8.ofNat c.toNat] := if_pos (Nat.le_of_lt_succ h)
  rw [encode, List.flatMap_cons, hc]
  rfl

theorem next_of_lt {b : UInt8} (h : b < 0x80) (bs : Bytes) :
    next b bs = (.char (Char.ofNat b.toNat), bs) := by
  simp [next, lead?, h, tail]

end Text
end AgeReport
