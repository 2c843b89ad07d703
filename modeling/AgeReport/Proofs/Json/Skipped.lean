import AgeReport.Proofs.Json.NumberTexts
import AgeReport.Proofs.Json.StringTexts

/-!
# Skipping values of any form

A value is skipped with a list of open brackets. Seen from a value inside of them, that list is
what the reader goes on with once the value is over: a comma leads to the next value of the
innermost bracket, a closing byte to what encloses it. A value is *skippable* if, whatever is open,
skipping goes from its beginning to there. Every value of the grammar is, by induction on it.

Results:
* `NumberText.skippable`, `StringBody.skippable`, `skippable_word`: scalars.
* `skippable_separated`: lists and objects of parts that are passed over, however many.
* `WellFormed.skippable`: any value, however deep.
* `Skippable.skipValue_eq`: a value of a member is passed over.
-/

namespace AgeReport.Json

open Decimal

variable {brackets outer : List Bracket} {bracket : Bracket} {sp sp' bs rest left v body : Bytes}
  {role : Role}

/-! ## Going on -/

/-- Goes on with what a part has left open. -/
def proceed : Except Fault (List Bracket × Bytes) → Except Fault Bytes
  | .error f => .error f
  | .ok ([], rest) => .ok rest
  | .ok (b :: outer, rest) => skipParts (b :: outer) rest

/-- Goes on in front of a part inside the given brackets. -/
def enter (brackets : List Bracket) (bs : Bytes) : Except Fault Bytes :=
  proceed (toNextValue brackets bs)

/-- Goes on behind a value inside the given brackets. -/
def resume (brackets : List Bracket) (bs : Bytes) : Except Fault Bytes :=
  proceed do
    let (brackets, rest) ← closeBrackets brackets bs
    toNextValue brackets rest

theorem skipParts_eq (brackets : List Bracket) (bs : Bytes) :
    skipParts brackets bs = proceed (skipPart brackets bs) := by
  rw [skipParts]
  split
  · rename_i h
    rw [h, proceed]
  · rename_i h
    rw [h, proceed]
  · rename_i h
    rw [h, proceed]

theorem resume_nil (bs : Bytes) : resume [] bs = .ok bs := rfl

theorem enter_object (h : skipName bs = .ok rest) (outer : List Bracket) :
    enter (.object :: outer) bs = skipParts (.object :: outer) rest := by
  rw [enter, toNextValue, h]
  rfl

theorem skipParts_blank (hsp : Blank sp) (brackets : List Bracket) (bs : Bytes) :
    skipParts brackets (sp ++ bs) = skipParts brackets bs := by
  rw [skipParts_eq, skipParts_eq, skipPart, skipPart, skipSpace_append hsp]

theorem enter_blank (hsp : Blank sp) (bracket : Bracket) (outer : List Bracket) (bs : Bytes) :
    enter (bracket :: outer) (sp ++ bs) = enter (bracket :: outer) bs := by
  cases bracket with
  | list => exact skipParts_blank hsp _ bs
  | object =>
    rw [enter, enter, toNextValue, toNextValue, skipName, skipName, skipSpace_append hsp]

theorem not_isSpace_closing (bracket : Bracket) : isSpace bracket.closing = false := by
  cases bracket <;> decide

/-- A comma leads to the next part of the innermost bracket. -/
theorem resume_comma (bracket : Bracket) (outer : List Bracket) (bs : Bytes) :
    resume (bracket :: outer) (0x2C :: bs) = enter (bracket :: outer) bs := by
  have hclose : closeBrackets (bracket :: outer) (0x2C :: bs) = .ok (bracket :: outer, bs) := by
    rw [closeBrackets, skipSpace_cons (by decide)]
    rfl
  rw [resume, hclose]
  rfl

/-- A closing byte leads out of the innermost bracket. -/
theorem resume_closing (hsp : Blank sp) (bracket : Bracket) (outer : List Bracket) (bs : Bytes) :
    resume (bracket :: outer) (sp ++ bracket.closing :: bs) = resume outer bs := by
  have hcomma : bracket.closing ≠ 0x2C := by cases bracket <;> decide
  have hclose : closeBrackets (bracket :: outer) (sp ++ bracket.closing :: bs) =
      closeBrackets outer bs := by
    rw [closeBrackets, skipSpace_append_cons hsp (not_isSpace_closing bracket)]
    simp only [hcomma, ↓reduceIte]
  rw [resume, hclose, resume]

theorem resume_blank (hsp : Blank sp) (bracket : Bracket) (outer : List Bracket) (bs : Bytes) :
    resume (bracket :: outer) (sp ++ bs) = resume (bracket :: outer) bs := by
  rw [resume, resume, closeBrackets, closeBrackets, skipSpace_append hsp]

/-! ## Single parts -/

theorem skipParts_of_scalar (h : skipOpening (skipSpace bs) = .ok (.scalar rest))
    (brackets : List Bracket) : skipParts brackets bs = resume brackets rest := by
  rw [skipParts_eq, skipPart, h]
  rfl

theorem skipParts_of_empty (h : skipOpening (skipSpace bs) = .ok (.bracket bracket left))
    (hleft : skipSpace left = bracket.closing :: rest) (brackets : List Bracket) :
    skipParts brackets bs = resume brackets rest := by
  rw [skipParts_eq, skipPart, h, ok_bind]
  dsimp only
  rw [hleft]
  exact congrArg proceed (if_pos rfl)

theorem skipParts_of_opening {p : Bytes}
    (h : skipOpening (skipSpace bs) = .ok (.bracket bracket left)) (hp : Begun p)
    (hleft : skipSpace left = p ++ rest) (brackets : List Bracket) :
    skipParts brackets bs = enter (bracket :: brackets) (p ++ rest) := by
  obtain ⟨c, p, rfl, -, hclosing⟩ := hp.exists_cons
  rw [skipParts_eq, skipPart, h, ok_bind]
  dsimp only
  rw [hleft]
  exact congrArg proceed (if_neg (hclosing bracket))

/-- A value that is passed over wherever it stands. -/
structure Skippable (v : Bytes) : Prop where
  begun : Begun v
  passed : ∀ brackets rest, Delimited rest → skipParts brackets (v ++ rest) = resume brackets rest

/-- A part of a bracket that is passed over. -/
structure SkippablePart (bracket : Bracket) (p : Bytes) : Prop where
  begun : Begun p
  passed : ∀ outer rest, Delimited rest →
    enter (bracket :: outer) (p ++ rest) = resume (bracket :: outer) rest

/-- The value of a member is passed over. -/
theorem Skippable.skipValue_eq (h : Skippable v) (hsp : Blank sp) (hrest : Delimited rest) :
    skipValue (sp ++ (v ++ rest)) = .ok rest := by
  rw [skipValue, skipParts_blank hsp, h.passed [] rest hrest, resume_nil]

/-! ## Scalars -/

theorem skippable_of_scalar (hv : Begun v)
    (h : ∀ rest, Delimited rest → skipOpening (v ++ rest) = .ok (.scalar rest)) : Skippable v := by
  refine ⟨hv, fun brackets rest hrest => skipParts_of_scalar ?_ brackets⟩
  have hskip := skipSpace_of_begun hv blank_nil rest
  rw [List.nil_append] at hskip
  rw [hskip]
  exact h rest hrest

theorem readWord_append (word rest : Bytes) : readWord word (word ++ rest) = .ok rest := by
  induction word with
  | nil => rfl
  | cons w word ih => rw [List.cons_append, readWord, if_pos rfl, ih]

theorem skippable_word {w : String} (hw : w ∈ ["null", "true", "false"]) :
    Skippable (Text.bytes w) := by
  have hnull : Text.bytes "null" = 0x6E :: nullTail := by decide
  have htrue : Text.bytes "true" = 0x74 :: trueTail := by decide
  have hfalse : Text.bytes "false" = 0x66 :: falseTail := by decide
  simp only [List.mem_cons, List.not_mem_nil, or_false] at hw
  rcases hw with rfl | rfl | rfl
  · rw [hnull]
    refine skippable_of_scalar (begun_cons (by decide) _) fun rest _ => ?_
    rw [List.cons_append, skipOpening, if_pos rfl, readWord_append]
    rfl
  · rw [htrue]
    refine skippable_of_scalar (begun_cons (by decide) _) fun rest _ => ?_
    rw [List.cons_append, skipOpening, if_neg (by decide), if_pos rfl, readWord_append]
    rfl
  · rw [hfalse]
    refine skippable_of_scalar (begun_cons (by decide) _) fun rest _ => ?_
    rw [List.cons_append, skipOpening, if_neg (by decide), if_neg (by decide), if_pos rfl,
      readWord_append]
    rfl

theorem NumberText.skippable (hv : NumberText v) : Skippable v :=
  skippable_of_scalar hv.begun fun _ => hv.skipOpening_eq

theorem StringBody.skippable (hbody : StringBody body) :
    Skippable (0x22 :: (body ++ [0x22])) := by
  refine skippable_of_scalar (begun_cons (by decide) _) fun rest _ => ?_
  have hstring := hbody.skipString_eq rest
  rw [List.cons_append, List.append_assoc, List.singleton_append, skipOpening]
  simp only [hstring]
  rfl

/-! ## Lists and objects -/

/-- How a value, or a part with the blanks around it, is passed over. -/
def Passed : Role → Bytes → Prop
  | .value, v => Skippable v
  | .part bracket, p => ∃ sp q, p = sp ++ q ∧ Blank sp ∧ SkippablePart bracket q

theorem Skippable.element (h : Skippable v) (hsp : Blank sp) : SkippablePart .list (v ++ sp) := by
  refine ⟨h.begun.append sp, fun outer rest hrest => ?_⟩
  rw [List.append_assoc]
  refine (h.passed (.list :: outer) _ (delimited_append hsp hrest)).trans ?_
  exact resume_blank hsp .list outer rest

theorem readColon_blank (hsp : Blank sp) (bs : Bytes) : readColon (sp ++ 0x3A :: bs) = .ok bs := by
  rw [readColon, skipSpace_append_cons hsp (by decide)]
  rfl

theorem skipName_text (hbody : StringBody body) (hsp : Blank sp) (bs : Bytes) :
    skipName (0x22 :: (body ++ 0x22 :: (sp ++ 0x3A :: bs))) = .ok bs := by
  rw [skipName, skipSpace_cons (by decide)]
  simp only [↓reduceIte]
  rw [hbody.skipString_eq]
  exact readColon_blank hsp bs

theorem Skippable.member (h : Skippable v) (hbody : StringBody body) (hsp : Blank sp)
    (hsp' : Blank sp') {after : Bytes} (hafter : Blank after) :
    SkippablePart .object (0x22 :: (body ++ 0x22 :: (sp ++ 0x3A :: (sp' ++ (v ++ after))))) := by
  refine ⟨begun_cons (by decide) _, fun outer rest hrest => ?_⟩
  have hname := skipName_text hbody hsp (sp' ++ (v ++ (after ++ rest)))
  have htext : 0x22 :: (body ++ 0x22 :: (sp ++ 0x3A :: (sp' ++ (v ++ after)))) ++ rest =
      0x22 :: (body ++ 0x22 :: (sp ++ 0x3A :: (sp' ++ (v ++ (after ++ rest))))) := by simp
  rw [htext, enter_object hname, skipParts_blank hsp',
    h.passed _ _ (delimited_append hafter hrest)]
  exact resume_blank hafter .object outer rest

/-- What stands behind a part does not go on with it. -/
theorem delimited_separated (parts : List Bytes) (hsp : Blank sp) (bracket : Bracket)
    (rest : Bytes) :
    Delimited (parts.flatMap (0x2C :: ·) ++ (sp ++ bracket.closing :: rest)) := by
  cases parts with
  | nil =>
    rw [List.flatMap_nil, List.nil_append]
    exact delimited_append hsp (delimited_closing bracket rest)
  | cons p parts => exact delimited_cons (.inr (.inl rfl)) _

theorem resume_separated {parts : List Bytes} (hparts : ∀ p ∈ parts, Passed (.part bracket) p)
    (hsp : Blank sp) (outer : List Bracket) (rest : Bytes) :
    resume (bracket :: outer) (parts.flatMap (0x2C :: ·) ++ (sp ++ bracket.closing :: rest)) =
      resume outer rest := by
  induction parts with
  | nil => exact resume_closing hsp bracket outer rest
  | cons p parts ih =>
    obtain ⟨sp', q, rfl, hsp', hq⟩ := hparts p List.mem_cons_self
    have htail := ih fun r hr => hparts r (List.mem_cons_of_mem _ hr)
    -- past the comma and the part, and then the same brackets are open
    rw [List.flatMap_cons, List.cons_append, List.cons_append, List.append_assoc, List.append_assoc,
      resume_comma, enter_blank hsp',
      hq.passed _ _ (delimited_separated parts hsp bracket rest)]
    exact htail

theorem skipOpening_opening (bracket : Bracket) (bs : Bytes) :
    skipOpening (skipSpace (bracket.opening :: bs)) = .ok (.bracket bracket bs) := by
  cases bracket <;> rfl

/-- A list or an object is passed over if each of its parts is. -/
theorem skippable_separated {parts : List Bytes} (hparts : ∀ p ∈ parts, Passed (.part bracket) p)
    (hsp : Blank sp) :
    Skippable (bracket.opening :: (separated parts ++ (sp ++ [bracket.closing]))) := by
  refine ⟨?_, fun brackets rest hrest => ?_⟩
  · cases bracket with
    | list => exact begun_cons (by decide) _
    | object => exact begun_cons (by decide) _
  cases parts with
  | nil =>
    have htext : bracket.opening :: (separated [] ++ (sp ++ [bracket.closing])) ++ rest =
        bracket.opening :: (sp ++ bracket.closing :: rest) := by simp [separated_nil]
    rw [htext]
    exact skipParts_of_empty (skipOpening_opening bracket _)
      (skipSpace_append_cons hsp (not_isSpace_closing bracket) rest) brackets
  | cons p parts =>
    obtain ⟨sp', q, rfl, hsp', hq⟩ := hparts p List.mem_cons_self
    have htext : bracket.opening :: (separated ((sp' ++ q) :: parts) ++ (sp ++ [bracket.closing])) ++
        rest = bracket.opening :: (sp' ++ (q ++
          (parts.flatMap (0x2C :: ·) ++ (sp ++ bracket.closing :: rest)))) := by
      simp [separated_cons]
    rw [htext]
    refine (skipParts_of_opening (skipOpening_opening bracket _) hq.begun
      (skipSpace_of_begun hq.begun hsp' _) brackets).trans ?_
    rw [hq.passed _ _ (delimited_separated parts hsp bracket rest)]
    exact resume_separated (fun r hr => hparts r (List.mem_cons_of_mem _ hr)) hsp brackets rest

/-! ## Values -/

/-- Values and parts are passed over, however deep they are nested. -/
theorem WellFormed.passed (h : WellFormed role v) : Passed role v := by
  induction h with
  | word hw => exact skippable_word hw
  | number hv => exact hv.skippable
  | string hbody => exact hbody.skippable
  | group bracket parts _ hsp ih => exact skippable_separated ih hsp
  | element hbefore _ hafter ih => exact ⟨_, _, rfl, hbefore, ih.element hafter⟩
  | member hbefore hbody hsp hsp' _ hafter ih =>
    exact ⟨_, _, rfl, hbefore, ih.member hbody hsp hsp' hafter⟩

/-- **Any value is passed over.** -/
theorem WellFormed.skippable (h : WellFormed .value v) : Skippable v :=
  h.passed

end AgeReport.Json
