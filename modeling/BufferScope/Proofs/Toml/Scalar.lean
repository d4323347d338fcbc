/-
Keys and values on a line, written and read back: a reader finds the key up to the sign after it, and
the value up to the end of its line.
-/
import BufferScope.Proofs.Toml.Number
import BufferScope.Proofs.Toml.Text

namespace BufferScope.Toml

/-! ## Stretches of characters -/

/-- A stretch of characters of a kind ends before the first of another kind. -/
theorem span_append {kind : Char → Bool} {word rest : List Char} (inside : ∀ c ∈ word, kind c = true)
    (stop : ∀ c, rest.head? = some c → kind c = false) : (word ++ rest).span kind = (word, rest) := by
  rw [List.span_eq_takeWhile_dropWhile, List.takeWhile_append_of_pos inside, List.dropWhile_append_of_pos inside]
  cases rest with
  | nil => simp
  | cons c rest => simp [stop c rfl]

theorem dropBlanks_cons {c : Char} (space : c ≠ ' ') (tab : c ≠ '\t') (rest : List Char) :
    dropBlanks (c :: rest) = c :: rest := by
  simp [dropBlanks, space, tab]

/-! ## Keys -/

/-- A name that a key can have without quotes. -/
def IsBareName (name : String) : Prop := name.toList ≠ [] ∧ ∀ c ∈ name.toList, isBare c = true

instance (name : String) : Decidable (IsBareName name) :=
  decidable_of_iff (name.toList ≠ [] ∧ name.toList.all isBare = true) (by simp [IsBareName])

theorem IsBareName.exists_toList_eq_cons {name : String} (bare : IsBareName name) :
    ∃ c rest, name.toList = c :: rest ∧ isBare c = true := by
  obtain ⟨nonempty, each⟩ := bare
  obtain ⟨c, rest, same⟩ := List.exists_cons_of_ne_nil nonempty
  exact ⟨c, rest, same, each c (same ▸ List.mem_cons_self)⟩

theorem readName_append {name : String} (bare : IsBareName name) {rest : List Char}
    (stop : ∀ c, rest.head? = some c → isBare c = false) : readName (name.toList ++ rest) = some (name, rest) := by
  obtain ⟨c, tail, same, first⟩ := bare.exists_toList_eq_cons
  have span := span_append bare.2 stop
  unfold readName
  split
  · next quote => rw [same] at quote; cases quote; cases first
  · next quote => rw [same] at quote; cases quote; cases first
  · simp only [span, bare.1, if_false, String.ofList_toList]

/-- A key of one bare name is read up to what follows it and the blanks after it. -/
theorem readKey_append {name : String} (bare : IsBareName name) {rest : List Char}
    (stop : ∀ c, rest.head? = some c → isBare c = false) (single : ∀ tail, dropBlanks rest ≠ '.' :: tail) :
    readKey (name.toList ++ rest) = some ([name], dropBlanks rest) := by
  obtain ⟨c, tail, same, first⟩ := bare.exists_toList_eq_cons
  have kept : dropBlanks (name.toList ++ rest) = name.toList ++ rest := by
    rw [same, List.cons_append]
    exact dropBlanks_cons (by rintro rfl; cases first) (by rintro rfl; cases first) _
  unfold readKey maxDepth
  rw [readNames, kept, readName_append bare stop]
  simp only [bind, Option.bind]

/-! ## Values -/

/-- Whether a scalar is read as it stands: a number must be one of at most 128 bits. -/
def Scalar.Fits : Scalar → Prop
  | .whole n => n < 2 ^ 128
  | _ => True

theorem readWord_append {word : List Char} (inside : word.all (fun c => !endsWord c) = true) (rest : List Char) :
    readWord (word ++ '\n' :: rest) = some (word, '\n' :: rest) := by
  have span : (word ++ '\n' :: rest).span (fun c => !endsWord c) = (word, '\n' :: rest) :=
    span_append (List.all_eq_true.mp inside) fun c first => by cases first; rfl
  unfold readWord
  rw [span]
  dsimp only
  split
  · next ended => cases ended
  · rfl

theorem readScalar_word {c : Char} (word : List Char)
    (inside : (c :: word).all (fun d => !endsWord d) = true) {v : Value} (value : ofWord (c :: word) = some v)
    (rest : List Char) :
    readScalar (c :: word ++ '\n' :: rest) = some (v, '\n' :: rest) := by
  have first := List.all_eq_true.mp inside c List.mem_cons_self
  unfold readScalar
  split
  · next quote => cases quote; cases first
  · next quote => cases quote; cases first
  · rw [readWord_append inside rest]
    simp only [bind, Option.bind, value]

theorem exists_writeText_eq_cons (text : List Char) :
    ∃ c rest, writeText text = c :: rest ∧ (c = '"' ∨ c = '\x27') := by
  unfold writeText
  cases TextForm.for text with
  | basic => exact ⟨_, _, rfl, .inl rfl⟩
  | literal => exact ⟨_, _, rfl, .inr rfl⟩
  | basicLines => exact ⟨_, _, rfl, .inl rfl⟩
  | literalLines => exact ⟨_, _, rfl, .inr rfl⟩

theorem ofWord_toDigits {n : Nat} (small : n < 2 ^ 128) : ofWord (Nat.toDigits 10 n) = some (.whole n) := by
  have each : ∀ c ∈ Nat.toDigits 10 n, c.isDigit = true := fun c member =>
    Nat.isDigit_of_mem_toDigits (by decide) (by decide) member
  unfold ofWord
  split
  · next name =>
    have letters := congrArg String.toList name
    rw [String.toList_ofList] at letters
    exact absurd (each 't' (letters ▸ by decide)) (by decide)
  · next name =>
    have letters := congrArg String.toList name
    rw [String.toList_ofList] at letters
    exact absurd (each 'f' (letters ▸ by decide)) (by decide)
  · rw [readNumeral_toDigits small]
    rfl

theorem endsWord_of_isDigit {c : Char} (digit : c.isDigit = true) : endsWord c = false := by
  have other : ∀ d : Char, d.isDigit = false → c ≠ d := by
    rintro d none rfl
    rw [digit] at none
    cases none
  unfold endsWord
  simp [other]

theorem readScalar_write (s : Scalar) (fits : s.Fits) (rest : List Char) :
    readScalar (s.write ++ '\n' :: rest) = some (s.toValue, '\n' :: rest) := by
  cases s with
  | text s =>
    have read := readText_writeText s.toList rest
    obtain ⟨c, tail, same, quote⟩ := exists_writeText_eq_cons s.toList
    rw [Scalar.write]
    rw [same, List.cons_append] at read ⊢
    rcases quote with rfl | rfl
    · rw [readScalar, read, Option.map_some]
      exact congrArg (fun text => some (Value.text text, '\n' :: rest)) String.ofList_toList
    · rw [readScalar, read, Option.map_some]
      exact congrArg (fun text => some (Value.text text, '\n' :: rest)) String.ofList_toList
  | whole n =>
    have value := ofWord_toDigits fits
    have inside : (Nat.toDigits 10 n).all (fun c => !endsWord c) = true := by
      refine List.all_eq_true.mpr fun c member => ?_
      rw [endsWord_of_isDigit (Nat.isDigit_of_mem_toDigits (by decide) (by decide) member)]
      rfl
    rw [Scalar.write]
    obtain ⟨c, word, same⟩ := List.exists_cons_of_ne_nil (Nat.toDigits_ne_nil (n := n) (b := 10))
    rw [same] at value inside ⊢
    exact readScalar_word word inside value rest
  | boolean b =>
    cases b with
    | true => exact readScalar_word ['r', 'u', 'e'] (by decide) rfl rest
    | false => exact readScalar_word ['a', 'l', 's', 'e'] (by decide) rfl rest

/-- What is written for a scalar does not begin like an array, a table or a blank. -/
theorem exists_write_eq_cons (s : Scalar) :
    ∃ c rest, s.write = c :: rest ∧ c ≠ '[' ∧ c ≠ '\x7b' ∧ c ≠ ' ' ∧ c ≠ '\t' := by
  cases s with
  | text s =>
    obtain ⟨c, rest, same, quote⟩ := exists_writeText_eq_cons s.toList
    refine ⟨c, rest, same, ?_⟩
    rcases quote with rfl | rfl <;> decide
  | whole n =>
    obtain ⟨c, rest, same⟩ := List.exists_cons_of_ne_nil (Nat.toDigits_ne_nil (n := n) (b := 10))
    have digit : c.isDigit = true := Nat.isDigit_of_mem_toDigits (by decide) (by decide) (same ▸ List.mem_cons_self)
    refine ⟨c, rest, same, ?_, ?_, ?_, ?_⟩
    all_goals
      rintro rfl
      cases digit
  | boolean b =>
    cases b with
    | true => exact ⟨'t', ['r', 'u', 'e'], rfl, by decide, by decide, by decide, by decide⟩
    | false => exact ⟨'f', ['a', 'l', 's', 'e'], rfl, by decide, by decide, by decide, by decide⟩

/-- A scalar is a value of any depth. -/
theorem readValue_write (s : Scalar) (fits : s.Fits) (depth : Nat) (rest : List Char) :
    readValue depth (s.write ++ '\n' :: rest) = some (s.toValue, '\n' :: rest) := by
  have read := readScalar_write s fits rest
  obtain ⟨c, tail, same, notArray, notTable, -⟩ := exists_write_eq_cons s
  cases depth with
  | zero => exact read
  | succ depth =>
    rw [same, List.cons_append] at read ⊢
    rw [readValue, read]
    · intro rest array
      cases array
      exact notArray rfl
    · intro rest table
      cases table
      exact notTable rfl

/-! ## Entries -/

theorem readEntry_write {key : String} (bare : IsBareName key) (s : Scalar) (fits : s.Fits) (rest : List Char) :
    readEntry (some ∘ dropBlanks) (readValue maxDepth) (key.toList ++ (" = ".toList ++ (s.write ++ '\n' :: rest))) =
      some (([key], s.toValue), '\n' :: rest) := by
  obtain ⟨c, tail, same, -, -, space, tab⟩ := exists_write_eq_cons s
  have value : dropBlanks (' ' :: (s.write ++ '\n' :: rest)) = s.write ++ '\n' :: rest := by
    rw [same]
    exact dropBlanks_cons space tab _
  have name : readKey (key.toList ++ ' ' :: '=' :: ' ' :: (s.write ++ '\n' :: rest)) =
      some ([key], '=' :: ' ' :: (s.write ++ '\n' :: rest)) :=
    readKey_append bare (fun c first => by cases first; rfl) (fun tail point => by cases point)
  have sign : dropBlanks ('=' :: ' ' :: (s.write ++ '\n' :: rest)) = '=' :: ' ' :: (s.write ++ '\n' :: rest) :=
    dropBlanks_cons (by decide) (by decide) _
  show readEntry _ _ (key.toList ++ ' ' :: '=' :: ' ' :: (s.write ++ '\n' :: rest)) = _
  unfold readEntry
  simp only [bind, Option.bind, name, Function.comp_apply, sign, value, readValue_write s fits]

end BufferScope.Toml
