/-
Quoted text, written and read back. `readText_writeText`: whatever characters a text has, and whichever
of the four forms it gets, a reader finds it again and stops at the end of its line.
-/
import Mathlib.Tactic
import BufferScope.Toml.Writer

namespace BufferScope.Toml

/-! ## Characters -/

theorem isText_of_not_isControl {c : Char} (plain : isControl c = false) (inLine : c ≠ '\n') : isText c = true := by
  simpa [isControl, inLine] using plain

theorem ne_return_of_not_isControl {c : Char} (plain : isControl c = false) : c ≠ '\r' := by
  rintro rfl
  cases plain

/-- A control character has a code of two hexadecimal digits. -/
theorem toNat_lt_of_isControl {c : Char} (control : isControl c = true) : c.toNat < 128 := by
  unfold isControl isText at control
  simp only [Bool.and_eq_true, Bool.not_eq_true', Bool.or_eq_false_iff, Bool.and_eq_false_iff, decide_eq_false_iff_not,
    not_not] at control
  obtain ⟨⟨-, low | delete⟩, -⟩ := control
  · have low : c.toNat < ' '.toNat := Nat.lt_of_not_le low
    exact low.trans (by decide)
  · rw [delete]
    decide

theorem hexDigit?_hexDigit {n : Nat} (digit : n < 16) : Text.hexDigit? (hexDigit n) = some n := by
  have each : ∀ n : Fin 16, Text.hexDigit? (hexDigit n) = some n.val := by decide
  exact each ⟨n, digit⟩

/-- A character is found under the four digits of its code. -/
theorem readCode_hexDigit {c : Char} (small : c.toNat < 128) (rest : List Char) :
    readCode 4 ('0' :: '0' :: hexDigit (c.toNat / 16) :: hexDigit (c.toNat % 16) :: rest) = some (c, rest) := by
  have zero : Text.hexDigit? '0' = some 0 := rfl
  have high := hexDigit?_hexDigit (n := c.toNat / 16) (by omega)
  have low := hexDigit?_hexDigit (n := c.toNat % 16) (by omega)
  have code : 16 * (16 * (16 * (16 * 0 + 0) + 0) + c.toNat / 16) + c.toNat % 16 = c.toNat := by omega
  have valid : c.toNat.isValidChar := .inl (by omega)
  unfold readCode
  simp only [List.take, List.length, List.foldlM, zero, high, low, Option.map_some, bind, Option.bind, code, ne_eq,
    not_true_eq_false, if_false, if_pos valid, Char.ofNat_toNat, List.drop, pure]

/-- A character within double quotes stands for itself, or is spelled after a backslash. -/
theorem escaped_cases (c : Char) :
    (escaped c = [c] ∧ isText c = true ∧ c ≠ '"' ∧ c ≠ '\\' ∧ c ≠ '\r') ∨
    ∃ spelled, escaped c = '\\' :: spelled ∧
      ∀ rest, readEscape (spelled ++ rest) = some (c, rest) ∧ afterLineEnd (spelled ++ rest) = none := by
  unfold escaped
  split
  · exact .inr ⟨_, rfl, fun rest => ⟨rfl, rfl⟩⟩
  · exact .inr ⟨_, rfl, fun rest => ⟨rfl, rfl⟩⟩
  · exact .inr ⟨_, rfl, fun rest => ⟨rfl, rfl⟩⟩
  · exact .inr ⟨_, rfl, fun rest => ⟨rfl, rfl⟩⟩
  · exact .inr ⟨_, rfl, fun rest => ⟨rfl, rfl⟩⟩
  · exact .inr ⟨_, rfl, fun rest => ⟨rfl, rfl⟩⟩
  · exact .inr ⟨_, rfl, fun rest => ⟨rfl, rfl⟩⟩
  · split
    · next control =>
      exact .inr ⟨_, rfl, fun rest => ⟨readCode_hexDigit (toNat_lt_of_isControl control) rest, rfl⟩⟩
    · next plain =>
      have plain : isControl c = false := by simpa using plain
      exact .inl ⟨rfl, isText_of_not_isControl plain ‹_›, ‹_›, ‹_›, ‹_›⟩

/-! ## Double quotes on one line -/

theorem readBasic_escaped (c : Char) (rest : List Char) :
    readBasic (escaped c ++ rest) = (readBasic rest).map fun (text, rest) => (c :: text, rest) := by
  rcases escaped_cases c with ⟨same, text, notQuote, notSlash, -⟩ | ⟨spelled, same, reads⟩
  · rw [same, List.singleton_append, readBasic, if_pos text]
    · exact notQuote
    · exact notSlash
  · rw [same, List.cons_append, readBasic]
    split
    · next absent => rw [(reads rest).1] at absent; cases absent
    · next found => rw [(reads rest).1] at found; cases found; rfl

theorem readBasic_writeBasic (text rest : List Char) :
    readBasic (writeBasic false 0 text ++ '"' :: rest) = some (text, rest) := by
  induction text with
  | nil => rw [writeBasic, List.nil_append, readBasic]
  | cons c text ih =>
    have spelled : writeBasic false 0 (c :: text) = escaped c ++ writeBasic false 0 text := by
      simp [writeBasic, freeQuotes]
    rw [spelled, List.append_assoc, readBasic_escaped, ih]
    rfl

/-! ## Apostrophes on one line -/

theorem readLiteral_append {text : List Char}
    (plain : ∀ c ∈ text, isControl c = false ∧ c ≠ '\x27' ∧ c ≠ '\n')
    (rest : List Char) : readLiteral (text ++ '\x27' :: rest) = some (text, rest) := by
  induction text with
  | nil => rfl
  | cons c text ih =>
    obtain ⟨noControl, noQuote, inLine⟩ := plain c List.mem_cons_self
    rw [List.cons_append, readLiteral, if_pos (isText_of_not_isControl noControl inLine),
      ih fun d later => plain d (List.mem_cons_of_mem _ later)]
    · rfl
    · exact noQuote

/-! ## Runs of quotes -/

theorem le_longestRun (quote : Char) (text : List Char) : ∀ run, run ≤ longestRun quote run text := by
  induction text with
  | nil => exact fun _ => Nat.le_refl _
  | cons c rest ih =>
    intro run
    unfold longestRun
    split
    · exact (Nat.le_succ run).trans (ih _)
    · exact Nat.le_max_left ..

theorem longestRun_le_succ (quote : Char) (text : List Char) : ∀ run,
    longestRun quote run text ≤ longestRun quote (run + 1) text := by
  induction text with
  | nil => exact fun run => Nat.le_succ run
  | cons c rest ih =>
    intro run
    unfold longestRun
    split
    · exact ih _
    · omega

theorem ne_of_longestRun_eq_zero {quote : Char} {text : List Char} (none : longestRun quote 0 text = 0) :
    ∀ c ∈ text, c ≠ quote := by
  induction text with
  | nil => exact List.forall_mem_nil _
  | cons c rest ih =>
    unfold longestRun at none
    split at none
    · have := le_longestRun quote rest (0 + 1)
      omega
    · next other =>
      rintro d (_ | ⟨_, later⟩)
      · exact other
      · exact ih (by omega) d later

theorem longestRun_le_cons (quote c : Char) (text : List Char) :
    longestRun quote 0 text ≤ longestRun quote 0 (c :: text) := by
  rw [longestRun]
  split
  · exact longestRun_le_succ quote text 0
  · exact Nat.le_max_right ..

theorem three_le_longestRun (quote : Char) (text : List Char) :
    3 ≤ longestRun quote 0 (quote :: quote :: quote :: text) := by
  simp only [longestRun, if_true]
  exact le_longestRun quote text 3

/-! ## Between three quotes -/

/-- Up to two quotes before the closing ones belong to the text. -/
theorem closing_replicate {quote : Char} (notLineEnd : quote ≠ '\n') {n : Nat} (few : n ≤ 2) (rest : List Char) :
    closing quote (List.replicate n quote ++ '\n' :: rest) = (List.replicate n quote, '\n' :: rest) := by
  have differs : ('\n' == quote) = false := by simpa using fun same => notLineEnd same.symm
  obtain rfl | rfl | rfl : n = 0 ∨ n = 1 ∨ n = 2 := by omega
  · cases rest <;> simp [closing, differs]
  · simp [closing, List.replicate, differs]
  · simp [closing, List.replicate]

theorem readLiteralLines_plain {c : Char} {cs : List Char} (inside : ¬['\x27', '\x27', '\x27'] <+: c :: cs)
    (noControl : isControl c = false) :
    readLiteralLines (c :: cs) = (readLiteralLines cs).map fun (text, rest) => (c :: text, rest) := by
  rw [readLiteralLines, if_pos]
  · by_cases lineEnd : c = '\n'
    · simp [lineEnd]
    · simp [isText_of_not_isControl noControl lineEnd]
  · rintro rest rfl rfl
    exact inside ⟨rest, rfl⟩
  · rintro rest rfl rfl
    cases noControl

/-- Text between three apostrophes is read up to its end, which may be an apostrophe itself. -/
theorem readLiteralLines_append {text : List Char} (rest : List Char) (noControl : ∀ c ∈ text, isControl c = false)
    (few : longestRun '\x27' 0 text ≤ 2) :
    readLiteralLines (text ++ '\x27' :: '\x27' :: '\x27' :: '\n' :: rest) = some (text, '\n' :: rest) := by
  induction text with
  | nil => exact congrArg some (closing_replicate (by decide) (Nat.zero_le 2) rest)
  | cons c text ih =>
    by_cases closes : ['\x27', '\x27', '\x27'] <+: c :: (text ++ '\x27' :: '\x27' :: '\x27' :: '\n' :: rest)
    · -- the closing apostrophes follow one or two that end the text, since three would be a longer run
      obtain ⟨after, same⟩ := closes
      match text with
      | [] =>
        cases same
        exact congrArg some (closing_replicate (by decide) (n := 1) (by decide) rest)
      | [d] =>
        cases same
        exact congrArg some (closing_replicate (by decide) (n := 2) (by decide) rest)
      | d :: e :: text =>
        cases same
        have := three_le_longestRun '\x27' text
        omega
    · rw [List.cons_append, readLiteralLines_plain closes (noControl c List.mem_cons_self),
        ih (fun d later => noControl d (List.mem_cons_of_mem _ later)) ((longestRun_le_cons ..).trans few)]
      rfl

theorem readBasicLines_plain {c : Char} {cs : List Char} (inside : ¬['"', '"', '"'] <+: c :: cs)
    (notSlash : c ≠ '\\') (notReturn : c ≠ '\r') (text : c = '\n' ∨ isText c = true) :
    readBasicLines (c :: cs) = (readBasicLines cs).map fun (text, rest) => (c :: text, rest) := by
  rw [readBasicLines, if_pos (by simpa using text)]
  · rintro rest rfl rfl
    exact inside ⟨rest, rfl⟩
  · exact notSlash
  · rintro rest rfl
    exact absurd rfl notReturn

/-- Up to two quotes in a row belong to the text, if another character follows. -/
theorem readBasicLines_replicate {n : Nat} (few : n ≤ 2) {d : Char} (other : d ≠ '"') (cs : List Char) :
    readBasicLines (List.replicate n '"' ++ d :: cs) =
      (readBasicLines (d :: cs)).map fun (text, rest) => (List.replicate n '"' ++ text, rest) := by
  have quote : ∀ cs, ¬['"', '"', '"'] <+: '"' :: cs →
      readBasicLines ('"' :: cs) = (readBasicLines cs).map fun (text, rest) => ('"' :: text, rest) :=
    fun cs inside => readBasicLines_plain inside (by decide) (by decide) (.inr (by decide))
  obtain rfl | rfl | rfl : n = 0 ∨ n = 1 ∨ n = 2 := by omega
  · simp
  · exact quote _ (by simp [List.cons_prefix_cons, other.symm])
  · refine (quote ('"' :: d :: cs) (by simp [List.cons_prefix_cons, other.symm])).trans ?_
    rw [quote _ (by simp [List.cons_prefix_cons, other.symm]), Option.map_map]
    rfl

/-- A character that was written is read, after up to two quotes. -/
theorem readBasicLines_escaped {n : Nat} (few : n ≤ 2) (c : Char) (rest : List Char) :
    readBasicLines (List.replicate n '"' ++ (escaped c ++ rest)) =
      (readBasicLines rest).map fun (text, rest) => (List.replicate n '"' ++ c :: text, rest) := by
  rcases escaped_cases c with ⟨same, text, notQuote, notSlash, notReturn⟩ | ⟨spelled, same, reads⟩
  · rw [same, List.singleton_append, readBasicLines_replicate few notQuote,
      readBasicLines_plain (by simp [List.cons_prefix_cons, notQuote.symm]) notSlash notReturn (.inr text),
        Option.map_map]
    rfl
  · have step : readBasicLines ('\\' :: (spelled ++ rest)) =
        (readBasicLines rest).map fun (text, rest) => (c :: text, rest) := by
      rw [readBasicLines]
      split
      · next ended => rw [(reads rest).2] at ended; cases ended
      · split
        · next absent => rw [(reads rest).1] at absent; cases absent
        · next found => rw [(reads rest).1] at found; cases found; rfl
    rw [same, List.cons_append, readBasicLines_replicate few (by decide), step, Option.map_map]
    rfl

/-- Text between three double quotes is read up to its end. The quotes just before are read with it. -/
theorem readBasicLines_writeBasic (text rest : List Char) : ∀ run ≤ 2,
    readBasicLines (List.replicate run '"' ++ (writeBasic true run text ++ '"' :: '"' :: '"' :: '\n' :: rest)) =
      some (List.replicate run '"' ++ text, '\n' :: rest) := by
  -- on the text, for every run of quotes before it: a quote that stands for itself joins that run
  induction text with
  | nil =>
    intro run few
    have shifted : List.replicate run '"' ++ '"' :: '"' :: '"' :: '\n' :: rest =
        '"' :: '"' :: '"' :: (List.replicate run '"' ++ '\n' :: rest) := by
      obtain rfl | rfl | rfl : run = 0 ∨ run = 1 ∨ run = 2 := by omega
      all_goals rfl
    rw [writeBasic, List.nil_append, List.append_nil, shifted, readBasicLines]
    exact congrArg some (closing_replicate (by decide) few rest)
  | cons c text ih =>
    intro run few
    rw [writeBasic]
    split
    · next quote =>
      simp only [freeQuotes, if_true, Bool.and_eq_true, decide_eq_true_eq] at quote
      obtain ⟨rfl, below⟩ := quote
      have longer := ih (run + 1) below
      rw [List.replicate_succ', List.append_assoc, List.append_assoc] at longer
      exact longer
    · split
      · next lineEnd =>
        simp only [Bool.true_and, decide_eq_true_eq] at lineEnd
        rw [lineEnd, List.cons_append, readBasicLines_replicate few (by decide),
          readBasicLines_plain (by simp [List.cons_prefix_cons]) (by decide) (by decide) (.inl rfl)]
        have fresh := ih 0 (by decide)
        rw [List.replicate_zero, List.nil_append, List.nil_append] at fresh
        rw [fresh]
        rfl
      · have fresh := ih 0 (by decide)
        rw [List.replicate_zero, List.nil_append, List.nil_append] at fresh
        rw [List.append_assoc, readBasicLines_escaped few, fresh]
        rfl

/-! ## The four forms -/

/-- Text on one line is told from text between three quotes by what follows the first quote. -/
theorem readText_quote {cs : List Char} (single : ¬['"', '"'] <+: cs) : readText ('"' :: cs) = readBasic cs := by
  rw [readText]
  rintro rest rfl
  exact single ⟨rest, rfl⟩

theorem readText_apostrophe {cs : List Char} (single : ¬['\x27', '\x27'] <+: cs) :
    readText ('\x27' :: cs) = readLiteral cs := by
  rw [readText]
  rintro rest rfl
  exact single ⟨rest, rfl⟩

/-- The first character of what is written for a character within quotes. -/
theorem exists_escaped_eq_cons (c : Char) :
    ∃ d spelled, escaped c = d :: spelled ∧ d ≠ '"' ∧ d ≠ '\n' ∧ d ≠ '\r' := by
  rcases escaped_cases c with ⟨same, text, notQuote, -, notReturn⟩ | ⟨spelled, same, -⟩
  · refine ⟨c, [], same, notQuote, ?_, notReturn⟩
    rintro rfl
    cases text
  · exact ⟨'\\', spelled, same, by decide, by decide, by decide⟩

theorem readText_basic (text rest : List Char) :
    readText (TextForm.basic.write text ++ '\n' :: rest) = some (text, '\n' :: rest) := by
  have shape : TextForm.basic.write text ++ '\n' :: rest = '"' :: (writeBasic false 0 text ++ '"' :: '\n' :: rest) := by
    simp [TextForm.write]
  rw [shape, readText_quote, readBasic_writeBasic]
  cases text with
  | nil => simp [writeBasic, List.cons_prefix_cons]
  | cons c text =>
    obtain ⟨d, spelled, same, notQuote, -⟩ := exists_escaped_eq_cons c
    simp [writeBasic, freeQuotes, same, List.cons_prefix_cons, notQuote.symm]

theorem readText_literal {text : List Char}
    (plain : ∀ c ∈ text, isControl c = false ∧ c ≠ '\x27' ∧ c ≠ '\n')
    (rest : List Char) : readText (TextForm.literal.write text ++ '\n' :: rest) = some (text, '\n' :: rest) := by
  have shape : TextForm.literal.write text ++ '\n' :: rest = '\x27' :: (text ++ '\x27' :: '\n' :: rest) := by
    simp [TextForm.write]
  rw [shape, readText_apostrophe, readLiteral_append plain]
  cases text with
  | nil => simp [List.cons_prefix_cons]
  | cons c text => simp [List.cons_prefix_cons, (plain c List.mem_cons_self).2.1.symm]

/-- The line end that may follow three quotes is dropped again, and no other is. -/
theorem dropFirstLineEnd_append (text : List Char) {body : List Char}
    (start : '\n' ∉ text → ∀ c, body.head? = some c → c ≠ '\n' ∧ c ≠ '\r') :
    dropFirstLineEnd ((if text.contains '\n' then ['\n'] else []) ++ body) = body := by
  by_cases lines : '\n' ∈ text
  · simp [lines, dropFirstLineEnd]
  · have start := start lines
    simp only [List.contains_eq_mem, lines, decide_false, Bool.false_eq_true, if_false, List.nil_append]
    unfold dropFirstLineEnd
    split
    · exact absurd rfl (start _ rfl).1
    · exact absurd rfl (start _ rfl).2
    · rfl

theorem readText_basicLines (text rest : List Char) :
    readText (TextForm.basicLines.write text ++ '\n' :: rest) = some (text, '\n' :: rest) := by
  have shape : TextForm.basicLines.write text ++ '\n' :: rest = '"' :: '"' :: '"' ::
      ((if text.contains '\n' then ['\n'] else []) ++
        (writeBasic true 0 text ++ '"' :: '"' :: '"' :: '\n' :: rest)) := by
    simp [TextForm.write, opening]
  rw [shape, readText, dropFirstLineEnd_append]
  · exact readBasicLines_writeBasic text rest 0 (by decide)
  · intro oneLine c first
    cases text with
    | nil => cases first; decide
    | cons d text =>
      rw [writeBasic] at first
      split at first
      · cases first
        next quote => simp_all
      · obtain ⟨e, spelled, same, -, notLineEnd, notReturn⟩ := exists_escaped_eq_cons d
        split at first
        · next lineEnd => simp_all
        · rw [same] at first
          cases first
          exact ⟨notLineEnd, notReturn⟩

theorem readText_literalLines {text : List Char} (noControl : ∀ c ∈ text, isControl c = false)
    (few : longestRun '\x27' 0 text ≤ 2) (rest : List Char) :
    readText (TextForm.literalLines.write text ++ '\n' :: rest) = some (text, '\n' :: rest) := by
  have shape : TextForm.literalLines.write text ++ '\n' :: rest = '\x27' :: '\x27' :: '\x27' ::
      ((if text.contains '\n' then ['\n'] else []) ++ (text ++ '\x27' :: '\x27' :: '\x27' :: '\n' :: rest)) := by
    simp [TextForm.write, opening]
  rw [shape, readText, dropFirstLineEnd_append]
  · exact readLiteralLines_append rest noControl few
  · intro oneLine c first
    cases text with
    | nil => cases first; decide
    | cons d text =>
      cases first
      refine ⟨fun same => oneLine (same ▸ List.mem_cons_self),
        ne_return_of_not_isControl (noControl c List.mem_cons_self)⟩

/-- A text is read back from the form that it is written in. -/
theorem readText_writeText (text rest : List Char) :
    readText (writeText text ++ '\n' :: rest) = some (text, '\n' :: rest) := by
  have plain : text.any isControl = false → ∀ c ∈ text, isControl c = false := by
    intro none c member
    simpa using List.any_eq_false.mp none c member
  unfold writeText TextForm.for
  dsimp only
  split
  · exact readText_basic text rest
  split
  · next free =>
    simp only [Bool.and_eq_true, Bool.not_eq_true', decide_eq_true_eq, List.contains_eq_mem,
      decide_eq_false_iff_not] at free
    obtain ⟨⟨control, apostrophes⟩, oneLine⟩ := free
    refine readText_literal
      (fun c member => ⟨plain control c member, ne_of_longestRun_eq_zero apostrophes c member, ?_⟩) rest
    rintro rfl
    exact oneLine member
  split
  · exact readText_basicLines text rest
  split
  · next few =>
    simp only [Bool.and_eq_true, Bool.not_eq_true', decide_eq_true_eq] at few
    exact readText_literalLines (plain few.1) few.2 rest
  split
  · exact readText_basicLines text rest
  · exact readText_basic text rest

end BufferScope.Toml
