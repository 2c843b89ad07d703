import AgeReport.Text.Hidden
import AgeReport.Text.Utf8

/-!
# Quoted texts

The form in which a text or a path is shown inside the description of a value: between double
quotes, with a backslash before a quote or a backslash, short names for the common controls, and
the number of every other character that cannot be seen on its own.

* `escape_of_plain`: a character that needs no escape stands for itself.
-/

namespace AgeReport.Text

/-- The digits of `n` to base 16, in lower case, without padding. -/
def hexDigits (n : Nat) : List Char :=
  Nat.toDigits 16 n

/-- A byte as two digits to base 16, in upper case. -/
def hexByte (b : UInt8) : List Char :=
  let digit (d : Nat) : Char := if d < 10 then Char.ofNat (48 + d) else Char.ofNat (55 + d)
  [digit (b.toNat / 16), digit (b.toNat % 16)]

/-- How a character stands between the quotes. -/
def escape (c : Char) : List Char :=
  if c = '"' then ['\\', '"']
  else if c = '\\' then ['\\', '\\']
  else if c = '\n' then ['\\', 'n']
  else if c = '\r' then ['\\', 'r']
  else if c = '\t' then ['\\', 't']
  else if c = '\x00' then ['\\', '0']
  else if isHidden c then ['\\', 'u', '\x7b'] ++ hexDigits c.toNat ++ ['\x7d']
  else [c]

/-- A text between quotes. -/
def quote (cs : List Char) : List Char :=
  '"' :: cs.flatMap escape ++ ['"']

/-- How a symbol of a byte list stands between the quotes; the bytes of an ill-formed piece are
written one by one. -/
def escapeSymbol : Symbol → List Char
  | .char c => escape c
  | .illFormed bs => bs.flatMap fun b => ['\\', 'x'] ++ hexByte b

/-- A byte list between quotes. -/
def quoteBytes (bs : Bytes) : List Char :=
  '"' :: (decode bs).flatMap escapeSymbol ++ ['"']

/-- A text between quotes, as a text. -/
def quoted (s : String) : String :=
  String.ofList (quote s.toList)

theorem escape_of_plain {c : Char} (h : isHidden c = false) (hq : c ≠ '"') (hb : c ≠ '\\') :
    escape c = [c] := by
  have hn : c ≠ '\n' := fun e => by subst e; exact absurd h (by decide)
  have hr : c ≠ '\r' := fun e => by subst e; exact absurd h (by decide)
  have ht : c ≠ '\t' := fun e => by subst e; exact absurd h (by decide)
  have h0 : c ≠ '\x00' := fun e => by subst e; exact absurd h (by decide)
  simp [escape, h, hq, hb, hn, hr, ht, h0]

end AgeReport.Text
