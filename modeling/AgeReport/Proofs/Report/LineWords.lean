import AgeReport.Proofs.Number.Numerals
import AgeReport.Proofs.Report.Layout
import AgeReport.Proofs.Text.Utf8

/-!
# The words of a line

The sentence of an entry is seven words with single spaces between them, the second the year and the
fifth the age. A word has visible characters only, so the words are found by splitting at the
spaces, and the two numbers are read back from theirs, the lowest and the highest included.

Results:
* `line_eq_intercalate`, `splitOn_eq_words_iff`: a sentence and its words.
* `number?_bytes`: a number is read back from its decimal text.
* `readLine?_line`: an entry is read back from its sentence.
* `line_invertible`: which bytes are the sentence of an entry, and that of no other.
-/

namespace AgeReport

/-! ## Numbers -/

/-- The integer that a word spells, if it lies within the bounds. -/
def number? (b : Numeral.Bounds) (word : Bytes) : Option Int := do
  let cs ← Text.decode? word
  (Numeral.read b cs).toOption

/-- A number is read back from its decimal text. -/
theorem number?_bytes {b : Numeral.Bounds} {n : Int} (hb : b.contains 0 = true)
    (hn : b.contains n = true) : number? b (Decimal.bytes n) = some n := by
  have hdecode : Text.decode? (Decimal.bytes n) = some (Decimal.ofInt n) :=
    Text.decode?_eq_some_iff.2 rfl
  have hread : Numeral.read b (Decimal.ofInt n) = .ok n :=
    (Numeral.read_eq_ok_iff hb).2 ⟨Numeral.spells_ofInt n, hn⟩
  rw [number?, hdecode, Option.bind_eq_bind, Option.bind_some, hread]
  rfl

theorem number?_year (y : Int32) : number? .year (Decimal.bytes y.toInt) = some y.toInt :=
  number?_bytes (by decide) (Numeral.contains_toInt y)

theorem number?_age (a : Int64) : number? .age (Decimal.bytes a.toInt) = some a.toInt :=
  number?_bytes (by decide) (Numeral.contains_toInt64 a)

/-! ## Words -/

/-- A visible character: no blank, no control character, and nothing beyond ASCII. -/
def isVisible (b : UInt8) : Bool :=
  0x20 < b && b < 0x7F

/-- One or more visible characters. -/
def isWord (w : Bytes) : Bool :=
  w != [] && w.all isVisible

theorem isWord_iff {w : Bytes} : isWord w = true ↔ w ≠ [] ∧ ∀ b ∈ w, isVisible b = true := by
  rw [isWord, Bool.and_eq_true, bne_iff_ne, List.all_eq_true]

theorem space_notMem_of_isWord {w : Bytes} (h : isWord w = true) : 0x20 ∉ w := fun hmem =>
  absurd ((isWord_iff.1 h).2 0x20 hmem) (by decide)

namespace Decimal

theorem isVisible_of_isDigitByte {b : UInt8} (h : isDigitByte b = true) : isVisible b = true := by
  rw [isDigitByte, digitByte?] at h
  split at h
  · rename_i hb
    rw [isVisible, Bool.and_eq_true, decide_eq_true_eq, decide_eq_true_eq]
    simp only [UInt8.le_iff_toNat_le, UInt8.lt_iff_toNat_lt, UInt8.reduceToNat] at hb ⊢
    omega
  · cases h

theorem bytes_ne_nil (n : Int) : bytes n ≠ [] := by
  cases n with
  | ofNat n =>
    obtain ⟨b, bs, hb, -⟩ := Numeral.exists_encode_of_isDigits (Numeral.isDigits_digits n)
    change Text.encode (digits n) ≠ []
    rw [hb]
    exact List.cons_ne_nil b bs
  | negSucc n =>
    change Text.encode ('-' :: digits (n + 1)) ≠ []
    rw [Text.encode_cons_of_lt (by decide)]
    exact List.cons_ne_nil _ _

/-- A decimal text is a word. -/
theorem isWord_bytes (n : Int) : isWord (bytes n) = true := by
  refine isWord_iff.2 ⟨bytes_ne_nil n, fun b hb => ?_⟩
  by_cases hsign : b = 0x2D
  · rw [hsign]
    decide
  cases hdigit : isDigitByte b with
  | true => exact isVisible_of_isDigitByte hdigit
  | false => exact absurd hb (notMem_bytes hdigit hsign n)

end Decimal

namespace AgeEntry

/-- The words of the sentence of an entry. -/
def words (e : AgeEntry) : List Bytes :=
  [Text.bytes "In", Decimal.bytes e.year.toInt, Text.bytes "I", Text.bytes "was",
    Decimal.bytes e.age.toInt, Text.bytes "years", Text.bytes "old."]

theorem line_eq_intercalate (e : AgeEntry) : e.line = [0x20].intercalate e.words := by
  have hin : Text.bytes "In " = Text.bytes "In" ++ [0x20] := rfl
  have hwas : Text.bytes " I was " =
      [0x20] ++ (Text.bytes "I" ++ ([0x20] ++ (Text.bytes "was" ++ [0x20]))) := rfl
  have hold : Text.bytes " years old." =
      [0x20] ++ (Text.bytes "years" ++ ([0x20] ++ Text.bytes "old.")) := rfl
  rw [line, hin, hwas, hold]
  simp only [words, List.intercalate_cons_cons, List.intercalate_singleton, List.append_assoc]

theorem isWord_of_mem_words (e : AgeEntry) : ∀ w ∈ e.words, isWord w = true := by
  simp only [words, List.forall_mem_cons]
  exact ⟨by decide, Decimal.isWord_bytes _, by decide, by decide, Decimal.isWord_bytes _,
    by decide, by decide, by simp⟩

/-- The words are what stands between the spaces. -/
theorem splitOn_line (e : AgeEntry) : e.line.splitOn 0x20 = e.words := by
  rw [line_eq_intercalate]
  exact List.splitOn_intercalate 0x20
    (fun w hw => space_notMem_of_isWord (e.isWord_of_mem_words w hw)) (List.cons_ne_nil _ _)

/-- No other bytes have the same words between their spaces. -/
theorem splitOn_eq_words_iff {e : AgeEntry} {bs : Bytes} :
    bs.splitOn 0x20 = e.words ↔ bs = e.line := by
  constructor
  · intro h
    rw [line_eq_intercalate, ← h, List.intercalate_splitOn]
  · rintro rfl
    exact e.splitOn_line

theorem newline_notMem_line (e : AgeEntry) : 0x0A ∉ e.line := by
  simp only [line, List.mem_append, not_or]
  exact ⟨⟨⟨⟨by decide, Decimal.newline_notMem_bytes _⟩, by decide⟩,
    Decimal.newline_notMem_bytes _⟩, by decide⟩

end AgeEntry

/-! ## Reading a sentence -/

/-- Reads an entry from the second and the fifth of seven words. -/
def readLine? (line : Bytes) : Option AgeEntry :=
  match line.splitOn 0x20 with
  | [_, year, _, _, age, _, _] => do
    return ⟨Int32.ofInt (← number? .year year), Int64.ofInt (← number? .age age)⟩
  | _ => none

/-- **An entry is read back from its sentence,** whatever its year and its age. -/
theorem readLine?_line (e : AgeEntry) : readLine? e.line = some e := by
  rw [readLine?, e.splitOn_line, AgeEntry.words]
  dsimp only
  rw [number?_year, number?_age]
  change some (⟨Int32.ofInt e.year.toInt, Int64.ofInt e.age.toInt⟩ : AgeEntry) = some e
  rw [Int32.ofInt_toInt, Int64.ofInt_toInt]

/-! ## Sentences and entries -/

namespace AgeEntry

theorem line_injective : Function.Injective line := by
  intro e f h
  have hread : readLine? e.line = readLine? f.line := congrArg readLine? h
  rw [readLine?_line, readLine?_line] at hread
  exact Option.some.inj hread

/-- **A sentence is that of one entry,** whatever its year and its age, also where no span has such
an entry. It has seven words with a single space between each two and no newline, and no other text
has these words. The second is the year and the fifth the age, in plain decimal; each number is read
back from its word, and the entry from the two. -/
theorem line_invertible (e : AgeEntry) :
    let year := Text.bytes (toString e.year.toInt)
    let age := Text.bytes (toString e.age.toInt)
    (∀ bs : Bytes, bs = e.line ↔ bs.splitOn 0x20 = [Text.bytes "In", year, Text.bytes "I",
      Text.bytes "was", age, Text.bytes "years", Text.bytes "old."]) ∧
    (∀ w ∈ e.line.splitOn 0x20, isWord w = true) ∧
    0x0A ∉ e.line ∧
    number? .year year = some e.year.toInt ∧
    number? .age age = some e.age.toInt ∧
    readLine? e.line = some e ∧
    ∀ f : AgeEntry, f.line = e.line ↔ f = e := by
  intro year age
  have hyear : Decimal.bytes e.year.toInt = year := Decimal.bytes_eq e.year.toInt
  have hage : Decimal.bytes e.age.toInt = age := Decimal.bytes_eq e.age.toInt
  refine ⟨fun bs => ?_, ?_, e.newline_notMem_line, ?_, ?_, readLine?_line e, fun f => ?_⟩
  · rw [← splitOn_eq_words_iff, words, hyear, hage]
  · rw [splitOn_line]
    exact e.isWord_of_mem_words
  · rw [← hyear]
    exact number?_year e.year
  · rw [← hage]
    exact number?_age e.age
  · exact line_injective.eq_iff

/-- The lowest year at the lowest age: the minus sign belongs to the word, and no other entry has
this sentence. -/
theorem line_invertible_lowest :
    let text := Text.bytes "In -2147483648 I was -9223372036854775808 years old."
    let e : AgeEntry := ⟨Int32.minValue, Int64.minValue⟩
    e.line = text ∧
    Text.bytes "-9223372036854775808" ∈ e.line.splitOn 0x20 ∧
    isWord (Text.bytes "-9223372036854775808") = true ∧
    readLine? text = some e ∧
    ∀ f : AgeEntry, f.line = text → f = e := by
  intro text e
  obtain ⟨hwords, hvisible, -, -, -, hread, hunique⟩ := e.line_invertible
  have htext : e.line = text := ((hwords text).2 (by decide +kernel)).symm
  have hmem : Text.bytes "-9223372036854775808" ∈ e.line.splitOn 0x20 := by
    rw [(hwords e.line).1 rfl]
    decide +kernel
  rw [htext] at hread hunique
  exact ⟨htext, hmem, hvisible _ hmem, hread, fun f hf => (hunique f).1 hf⟩

end AgeEntry
end AgeReport
