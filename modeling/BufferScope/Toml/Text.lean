/-
Quoted text in documents. Text in double quotes has escapes, text in apostrophes has none, and
either may run over several lines between three quotes.
-/
import BufferScope.Text.Hexadecimal

namespace BufferScope.Toml

/-- Whether a character may stand in a line of text: a tab, or no control character. -/
def isText (c : Char) : Bool := c = '\t' || (' ' ≤ c && c ≠ '\x7f')

/-! ## Escapes -/

/-- The character whose code is spelled by the next `count` hexadecimal digits. -/
def readCode (count : Nat) (cs : List Char) : Option (Char × List Char) := do
  let digits := cs.take count
  if digits.length ≠ count then none
  let code ← digits.foldlM (fun n c => (Text.hexDigit? c).map (16 * n + ·)) 0
  if code.isValidChar then some (Char.ofNat code, cs.drop count) else none

/-- The character that an escape stands for, after its backslash. -/
def readEscape : List Char → Option (Char × List Char)
  | 'b' :: rest => some ('\x08', rest)
  | 't' :: rest => some ('\t', rest)
  | 'n' :: rest => some ('\n', rest)
  | 'f' :: rest => some ('\x0c', rest)
  | 'r' :: rest => some ('\r', rest)
  | 'e' :: rest => some ('\x1b', rest)
  | '"' :: rest => some ('"', rest)
  | '\\' :: rest => some ('\\', rest)
  | 'x' :: rest => readCode 2 rest
  | 'u' :: rest => readCode 4 rest
  | 'U' :: rest => readCode 8 rest
  | _ => none

theorem length_of_readCode {count : Nat} {cs rest : List Char} {c : Char}
    (h : readCode count cs = some (c, rest)) : rest.length ≤ cs.length := by
  unfold readCode at h
  simp only [bind, Option.bind] at h
  grind

theorem length_of_readEscape {cs rest : List Char} {c : Char} (h : readEscape cs = some (c, rest)) :
    rest.length < cs.length := by
  unfold readEscape at h
  split at h <;> first | (cases h; simp) | exact Nat.lt_succ_of_le (length_of_readCode h) | cases h

/-! ## One line -/

/-- Text up to the closing double quote. -/
def readBasic (cs : List Char) : Option (List Char × List Char) :=
  match cs with
  | [] => none
  | '"' :: rest => some ([], rest)
  | '\\' :: rest =>
    match escape : readEscape rest with
    | none => none
    | some (c, rest') =>
      have := length_of_readEscape escape
      (readBasic rest').map fun (text, rest) => (c :: text, rest)
  | c :: rest => if isText c then (readBasic rest).map fun (text, rest) => (c :: text, rest) else none
termination_by cs.length

/-- Text up to the closing apostrophe. -/
def readLiteral : List Char → Option (List Char × List Char)
  | [] => none
  | '\x27' :: rest => some ([], rest)
  | c :: rest => if isText c then (readLiteral rest).map fun (text, rest) => (c :: text, rest) else none

/-! ## Several lines -/

/-- The end of text between three quotes. Up to two more quotes before the closing ones belong to
the text. -/
def closing (quote : Char) (rest : List Char) : List Char × List Char :=
  let extra := (rest.take 2).takeWhile (· == quote)
  (extra, rest.drop extra.length)

/-- Drops blanks and line ends. -/
def dropSpace : List Char → List Char
  | ' ' :: rest => dropSpace rest
  | '\t' :: rest => dropSpace rest
  | '\n' :: rest => dropSpace rest
  | '\r' :: '\n' :: rest => dropSpace rest
  | rest => rest

/-- The text after a backslash that ends its line: blanks and line ends up to the next character do
not count. -/
def afterLineEnd (cs : List Char) : Option (List Char) :=
  match cs.dropWhile fun c => c == ' ' || c == '\t' with
  | '\n' :: rest => some (dropSpace rest)
  | '\r' :: '\n' :: rest => some (dropSpace rest)
  | _ => none

theorem length_dropSpace (cs : List Char) : (dropSpace cs).length ≤ cs.length := by
  fun_induction dropSpace cs <;> simp <;> omega

theorem length_of_afterLineEnd {cs rest : List Char} (h : afterLineEnd cs = some rest) :
    rest.length < cs.length := by
  unfold afterLineEnd at h
  have dropped := (List.dropWhile_sublist (l := cs) fun c => c == ' ' || c == '\t').length_le
  split at h
  · next eq =>
    cases h
    have := length_dropSpace (by assumption)
    rw [eq] at dropped
    simp at dropped
    omega
  · next eq =>
    cases h
    have := length_dropSpace (by assumption)
    rw [eq] at dropped
    simp at dropped
    omega
  · cases h

/-- Text up to three closing double quotes. -/
def readBasicLines (cs : List Char) : Option (List Char × List Char) :=
  match cs with
  | [] => none
  | '"' :: '"' :: '"' :: rest => some (closing '"' rest)
  | '\\' :: rest =>
    match lineEnd : afterLineEnd rest with
    | some rest' =>
      have := length_of_afterLineEnd lineEnd
      readBasicLines rest'
    | none =>
      match escape : readEscape rest with
      | none => none
      | some (c, rest') =>
        have := length_of_readEscape escape
        (readBasicLines rest').map fun (text, rest) => (c :: text, rest)
  | '\r' :: '\n' :: rest => (readBasicLines rest).map fun (text, rest) => ('\r' :: '\n' :: text, rest)
  | c :: rest =>
    if c = '\n' || isText c then (readBasicLines rest).map fun (text, rest) => (c :: text, rest) else none
termination_by cs.length

/-- Text up to three closing apostrophes. -/
def readLiteralLines : List Char → Option (List Char × List Char)
  | [] => none
  | '\x27' :: '\x27' :: '\x27' :: rest => some (closing '\x27' rest)
  | '\r' :: '\n' :: rest => (readLiteralLines rest).map fun (text, rest) => ('\r' :: '\n' :: text, rest)
  | c :: rest =>
    if c = '\n' || isText c then (readLiteralLines rest).map fun (text, rest) => (c :: text, rest) else none

/-- Drops the line end that may follow three opening quotes. -/
def dropFirstLineEnd : List Char → List Char
  | '\n' :: rest => rest
  | '\r' :: '\n' :: rest => rest
  | rest => rest

/-- Quoted text of any of the four forms. -/
def readText : List Char → Option (List Char × List Char)
  | '"' :: '"' :: '"' :: rest => readBasicLines (dropFirstLineEnd rest)
  | '\x27' :: '\x27' :: '\x27' :: rest => readLiteralLines (dropFirstLineEnd rest)
  | '"' :: rest => readBasic rest
  | '\x27' :: rest => readLiteral rest
  | _ => none

end BufferScope.Toml
