import MessageContract.Contents.Basic
import MessageContract.Date.Pattern
import MessageContract.Proofs.Outcome

/-!
The grammar of date patterns. A pattern is made of escaped quotes, closed sections of
quoted text, characters that are no letters, and runs of one letter each that name a field.
Exactly such patterns have a format, in which each part is written for itself.
-/

namespace MessageContract.Date

/-- The letters of which a run is a field. -/
def fieldLetters : List Char :=
  ['y', 'u', 'M', 'd', 'D', 'H', 'h', 'm', 's', 'S', 'a', 'E', 'X', 'Z', 'z']

/-- What stands in a format for a run of a letter. -/
def specifier (letter : Char) (count : Nat) : String :=
  match letter with
  | 'y' => if count = 2 then "%y" else "%Y"
  | 'u' => "%Y"
  | 'M' =>
      if count = 1 then "%-m" else if count = 2 then "%m" else if count = 3 then "%b" else "%B"
  | 'd' => if count = 1 then "%-d" else "%d"
  | 'D' => "%j"
  | 'H' => if count = 1 then "%-H" else "%H"
  | 'h' => if count = 1 then "%-I" else "%I"
  | 'm' => if count = 1 then "%-M" else "%M"
  | 's' => if count = 1 then "%-S" else "%S"
  | 'S' => if count ≤ 3 then "%3f" else if count ≤ 6 then "%6f" else "%9f"
  | 'a' => "%p"
  | 'E' => if count ≤ 3 then "%a" else "%A"
  | 'X' => if 3 ≤ count then "%:z" else "%z"
  | 'Z' => "%z"
  | 'z' => "%Z"
  | _ => ""

/-- The text in which a character is written twice. -/
def doubled (c : Char) (text : List Char) : List Char :=
  text.flatMap fun d => if d = c then [d, d] else [d]

theorem doubled_cons (c d : Char) (text : List Char) :
    doubled c (d :: text) = doubled c [d] ++ doubled c text := by
  simp only [doubled, List.flatMap_cons, List.flatMap_nil, List.append_nil]

theorem doubled_self (c : Char) : doubled c [c] = [c, c] := by
  simp [doubled]

theorem doubled_ne {c d : Char} (hne : d ≠ c) : doubled c [d] = [d] := by
  simp [doubled, hne]

theorem head?_doubled (c : Char) (text : List Char) : (doubled c text).head? = text.head? := by
  cases text with
  | nil => rfl
  | cons d rest =>
      rw [doubled_cons]
      by_cases hd : d = c
      · rw [hd, doubled_self]
        rfl
      · rw [doubled_ne hd]
        rfl

/-- A part of a pattern. -/
inductive Piece where
  /-- Two adjacent quotes. -/
  | quote
  /-- A section between quotes, of which this is the text. -/
  | quoted (text : List Char)
  | plain (c : Char)
  | run (letter : Char) (count : Nat)

/-- What stands in a format for a part of a pattern. -/
def Piece.format : Piece → List Char
  | .quote => ['\'']
  | .quoted text => doubled '%' text
  | .plain c => doubled '%' [c]
  | .run letter count => (specifier letter count).toList

def Piece.tokens : Piece → List Token
  | .quote => [.literal '\'']
  | .quoted text => text.map .literal
  | .plain c => [.literal c]
  | .run letter count => [.field letter count]

/-- A pattern begins with a part, and this is the rest. A section is closed by the first
quote in it that no other follows, and a run is all of its letter that there is. -/
inductive Begins : List Char → Piece → List Char → Prop
  | quote (rest : List Char) : Begins ('\'' :: '\'' :: rest) .quote rest
  | quoted {first : Char} {text rest : List Char} (hopen : first ≠ '\'')
      (hclosed : rest.head? ≠ some '\'') :
      Begins ('\'' :: (doubled '\'' (first :: text) ++ '\'' :: rest)) (.quoted (first :: text)) rest
  | plain {c : Char} {rest : List Char} (hquote : c ≠ '\'') (hletter : isLetter c = false) :
      Begins (c :: rest) (.plain c) rest
  | run {letter : Char} {count : Nat} {rest : List Char} (hletter : letter ∈ fieldLetters)
      (hcount : 0 < count) (hmaximal : rest.head? ≠ some letter) :
      Begins (List.replicate count letter ++ rest) (.run letter count) rest

/-- A pattern begins with some parts, one after another, and this is the rest. -/
inductive Splits : List Char → List Piece → List Char → Prop
  | done (rest : List Char) : Splits rest [] rest
  | cons {chars next rest : List Char} {piece : Piece} {pieces : List Piece}
      (hfirst : Begins chars piece next) (h : Splits next pieces rest) :
      Splits chars (piece :: pieces) rest

/-- The rest of a pattern begins with no part, but with a section that is not closed or with
a letter that names no field. -/
inductive Stops (pattern : String) : List Char → MatcherFault → Prop
  | openQuote {text : List Char} (hopen : text.head? ≠ some '\'') :
      Stops pattern ('\'' :: doubled '\'' text) (.openQuote pattern)
  | unknownLetter {letter : Char} {chars : List Char} (hletter : isLetter letter = true)
      (hunknown : letter ∉ fieldLetters) :
      Stops pattern (letter :: chars) (.unknownLetter letter pattern)

theorem directive?_isNone_iff {letter : Char} {count : Nat} :
    (directive? letter count).isNone ↔ letter ∉ fieldLetters := by
  unfold directive? fieldLetters
  split <;> simp_all

theorem isLetter_of_mem {letter : Char} (hletter : letter ∈ fieldLetters) :
    isLetter letter = true := by
  have hall : fieldLetters.all isLetter = true := rfl
  exact List.all_eq_true.mp hall letter hletter

theorem ne_quote_of_isLetter {letter : Char} (hletter : isLetter letter = true) :
    letter ≠ '\'' := by
  rintro rfl
  exact absurd hletter (by decide)

theorem formatChars_literal (c : Char) : (Token.literal c).formatChars = doubled '%' [c] := by
  by_cases hc : c = '%'
  · rw [hc, doubled_self]
    rfl
  · simp [doubled_ne hc, Token.formatChars, Token.item?, Item.write, hc]

theorem formatChars_field {letter : Char} (hletter : letter ∈ fieldLetters) (count : Nat) :
    (Token.field letter count).formatChars = (specifier letter count).toList := by
  simp only [fieldLetters, List.mem_cons, List.not_mem_nil, or_false] at hletter
  rcases hletter with rfl | rfl | rfl | rfl | rfl | rfl | rfl | rfl | rfl | rfl | rfl | rfl |
    rfl | rfl | rfl
  all_goals
    simp only [Token.formatChars, Token.item?, directive?, specifier, Option.map_some]
    repeat' split
  all_goals rfl

theorem formatChars_literals (text : List Char) :
    (text.map Token.literal).flatMap Token.formatChars = doubled '%' text := by
  induction text with
  | nil => rfl
  | cons c text ih =>
      rw [List.map_cons, List.flatMap_cons, ih, formatChars_literal, ← doubled_cons]

theorem formatChars_of_begins {chars rest : List Char} {piece : Piece}
    (h : Begins chars piece rest) : piece.tokens.flatMap Token.formatChars = piece.format := by
  cases h with
  | quote => rfl
  | quoted => exact formatChars_literals _
  | plain => exact formatChars_literals [_]
  | run hletter _ _ =>
      rw [Piece.tokens, List.flatMap_singleton, formatChars_field hletter]
      rfl

theorem formatChars_of_splits {chars rest : List Char} {pieces : List Piece}
    (h : Splits chars pieces rest) :
    (pieces.flatMap Piece.tokens).flatMap Token.formatChars = pieces.flatMap Piece.format := by
  induction h with
  | done => rfl
  | cons hfirst _ ih =>
      rw [List.flatMap_cons, List.flatMap_append, formatChars_of_begins hfirst, ih,
        List.flatMap_cons]

/-! Any pattern can be split until its end or until something else begins. -/

/-- What follows the quote that opens a section. -/
inductive Section : List Char → Prop
  | closed (text : List Char) {rest : List Char} (hclosed : rest.head? ≠ some '\'') :
      Section (doubled '\'' text ++ '\'' :: rest)
  | unclosed (text : List Char) : Section (doubled '\'' text)

theorem Section.cons (c : Char) {chars : List Char} (h : Section chars) :
    Section (doubled '\'' [c] ++ chars) := by
  cases h with
  | closed text hclosed =>
      rw [← List.append_assoc, ← doubled_cons]
      exact .closed (c :: text) hclosed
  | unclosed text =>
      rw [← doubled_cons]
      exact .unclosed (c :: text)

theorem isSection : ∀ chars : List Char, Section chars
  | [] => .unclosed []
  | c :: rest => by
      by_cases hc : c = '\''
      · subst hc
        match rest with
        | [] => exact .closed [] (by simp)
        | d :: others =>
            by_cases hd : d = '\''
            · subst hd
              exact (isSection others).cons '\''
            · exact .closed [] (by simpa using hd)
      · have hsection := (isSection rest).cons c
        rwa [doubled_ne hc] at hsection

theorem exists_run (letter : Char) (chars : List Char) :
    ∃ count rest, chars = List.replicate count letter ++ rest ∧ rest.head? ≠ some letter := by
  induction chars with
  | nil => exact ⟨0, [], rfl, by simp⟩
  | cons c chars ih =>
      by_cases hc : c = letter
      · obtain ⟨count, rest, rfl, hrest⟩ := ih
        exact ⟨count + 1, rest, by rw [hc, List.replicate_succ, List.cons_append], hrest⟩
      · exact ⟨0, c :: chars, rfl, by simpa using hc⟩

theorem length_lt_of_begins {chars rest : List Char} {piece : Piece}
    (h : Begins chars piece rest) : rest.length < chars.length := by
  cases h with
  | quote | quoted | plain =>
      simp only [List.length_cons, List.length_append]
      omega
  | run _ hcount _ =>
      rw [List.length_append, List.length_replicate]
      omega

theorem begins_or_stops (pattern : String) (c : Char) (chars : List Char) :
    (∃ piece rest, Begins (c :: chars) piece rest) ∨ ∃ fault, Stops pattern (c :: chars) fault := by
  by_cases hquote : c = '\''
  · subst hquote
    by_cases hnext : chars.head? = some '\''
    · obtain ⟨rest, rfl⟩ := List.head?_eq_some_iff.mp hnext
      exact .inl ⟨_, rest, .quote rest⟩
    cases isSection chars with
    | @closed text rest hclosed =>
        cases text with
        | nil => exact absurd rfl hnext
        | cons first text =>
            have hopen : first ≠ '\'' := by
              rintro rfl
              exact hnext rfl
            exact .inl ⟨_, rest, .quoted hopen hclosed⟩
    | unclosed text =>
        rw [head?_doubled] at hnext
        exact .inr ⟨_, .openQuote hnext⟩
  cases hletter : isLetter c with
  | false => exact .inl ⟨_, chars, .plain hquote hletter⟩
  | true =>
      by_cases hknown : c ∈ fieldLetters
      · obtain ⟨count, rest, rfl, hmaximal⟩ := exists_run c chars
        exact .inl ⟨_, rest, .run hknown (Nat.succ_pos count) hmaximal⟩
      · exact .inr ⟨_, .unknownLetter hletter hknown⟩

theorem splits_or_stops (pattern : String) (chars : List Char) :
    ∃ pieces rest, Splits chars pieces rest ∧ (rest = [] ∨ ∃ fault, Stops pattern rest fault) := by
  induction hlength : chars.length using Nat.strong_induction_on generalizing chars with
  | _ length ih =>
      subst hlength
      cases chars with
      | nil => exact ⟨[], [], .done [], .inl rfl⟩
      | cons c chars =>
          rcases begins_or_stops pattern c chars with ⟨piece, next, hfirst⟩ | hstops
          · obtain ⟨pieces, rest, hsplits, hend⟩ := ih _ (length_lt_of_begins hfirst) next rfl
            exact ⟨piece :: pieces, rest, .cons hfirst hsplits, hend⟩
          · exact ⟨[], _, .done _, .inr hstops⟩

namespace Pattern

variable {pattern : String} {quoted : Bool}

theorem read_escaped (chars : List Char) :
    read pattern quoted ('\'' :: '\'' :: chars) =
      (.literal '\'' :: ·) <$> read pattern quoted chars := by
  rw [read]
  rfl

theorem read_quote {chars : List Char} (hnext : chars.head? ≠ some '\'') :
    read pattern quoted ('\'' :: chars) = read pattern (!quoted) chars := by
  rw [read.eq_3, if_pos (by rfl)]
  rintro rest - rfl
  exact hnext rfl

theorem read_literal {c : Char} {chars : List Char} (hquote : c ≠ '\'')
    (hliteral : quoted = true ∨ isLetter c = false) :
    read pattern quoted (c :: chars) = (.literal c :: ·) <$> read pattern quoted chars := by
  rw [read.eq_3 _ _ _ _ (fun _ hc => absurd hc hquote), if_neg (by simpa using hquote),
    if_pos (by simpa using hliteral)]
  rfl

theorem read_unknown {letter : Char} {chars : List Char} (hletter : isLetter letter = true)
    (hunknown : letter ∉ fieldLetters) :
    read pattern false (letter :: chars) = .error (.unknownLetter letter pattern) := by
  have hquote := ne_quote_of_isLetter hletter
  rw [read.eq_3 _ _ _ _ (fun _ hc => absurd hc hquote), if_neg (by simpa using hquote),
    if_neg (by simp [hletter]), if_pos (directive?_isNone_iff.mpr hunknown)]

theorem read_letter {letter : Char} {chars : List Char} (hletter : letter ∈ fieldLetters) :
    read pattern false (letter :: chars) =
      Token.consLetter letter <$> read pattern false chars := by
  have hquote := ne_quote_of_isLetter (isLetter_of_mem hletter)
  rw [read.eq_3 _ _ _ _ (fun _ hc => absurd hc hquote), if_neg (by simpa using hquote),
    if_neg (by simp [isLetter_of_mem hletter]), if_neg]
  · rfl
  · rw [directive?_isNone_iff]
    exact not_not.mpr hletter

theorem read_doubled (c : Char) (chars : List Char) :
    read pattern true (doubled '\'' [c] ++ chars) =
      (.literal c :: ·) <$> read pattern true chars := by
  by_cases hc : c = '\''
  · rw [hc, doubled_self]
    exact read_escaped chars
  · rw [doubled_ne hc]
    exact read_literal hc (.inl rfl)

theorem read_section {chars : List Char} (hclosed : chars.head? ≠ some '\'') (text : List Char) :
    read pattern true (doubled '\'' text ++ '\'' :: chars) =
      (text.map .literal ++ ·) <$> read pattern false chars := by
  induction text with
  | nil => exact (read_quote hclosed).trans (id_map _).symm
  | cons c text ih =>
      rw [doubled_cons, List.append_assoc, read_doubled, ih, Functor.map_map]
      rfl

/-- In a section that is not closed, the end of the pattern comes too early. -/
theorem read_openQuote (text : List Char) :
    read pattern true (doubled '\'' text) = .error (.openQuote pattern) := by
  induction text with
  | nil => rfl
  | cons c text ih =>
      rw [doubled_cons, read_doubled, ih]
      rfl

theorem consLetter_eq_cons (letter : Char) (tokens : List Token) :
    ∃ count rest, Token.consLetter letter tokens = .field letter count :: rest := by
  unfold Token.consLetter
  split
  · split_ifs with hsame
    · rw [hsame]
      exact ⟨_, _, rfl⟩
    · exact ⟨_, _, rfl⟩
  · exact ⟨_, _, rfl⟩

theorem not_field_of_read_quoted {chars : List Char} (hnext : chars.head? ≠ some '\'')
    {letter : Char} {count : Nat} {rest : List Token} :
    read pattern true chars ≠ .ok (.field letter count :: rest) := by
  intro h
  cases chars with
  | nil => cases h
  | cons c chars =>
      rw [read_literal (by simpa using hnext) (.inl rfl)] at h
      obtain ⟨tokens, -, h⟩ := Outcome.map_eq_ok.mp h
      cases h

/-- A field comes first only if its letter does. -/
theorem head?_of_read {chars : List Char} {letter : Char} {count : Nat} {rest : List Token}
    (h : read pattern false chars = .ok (.field letter count :: rest)) :
    chars.head? = some letter := by
  cases chars with
  | nil => cases h
  | cons c chars =>
      by_cases hquote : c = '\''
      · subst hquote
        by_cases hnext : chars.head? = some '\''
        · obtain ⟨others, rfl⟩ := List.head?_eq_some_iff.mp hnext
          rw [read_escaped] at h
          obtain ⟨tokens, -, h⟩ := Outcome.map_eq_ok.mp h
          cases h
        · rw [read_quote hnext] at h
          exact absurd h (not_field_of_read_quoted hnext)
      cases hletter : isLetter c with
      | false =>
          rw [read_literal hquote (.inr hletter)] at h
          obtain ⟨tokens, -, h⟩ := Outcome.map_eq_ok.mp h
          cases h
      | true =>
          by_cases hknown : c ∈ fieldLetters
          · rw [read_letter hknown] at h
            obtain ⟨tokens, -, h⟩ := Outcome.map_eq_ok.mp h
            obtain ⟨_, _, hfirst⟩ := consLetter_eq_cons c tokens
            rw [hfirst] at h
            cases h
            rfl
          · rw [read_unknown hletter hknown] at h
            cases h

theorem consLetter_of_read {chars : List Char} {letter : Char} {tokens : List Token}
    (hmaximal : chars.head? ≠ some letter) (hread : read pattern false chars = .ok tokens) :
    Token.consLetter letter tokens = .field letter 1 :: tokens := by
  unfold Token.consLetter
  split
  · rw [if_neg]
    rintro rfl
    exact hmaximal (head?_of_read hread)
  · rfl

theorem read_run {letter : Char} {count : Nat} {chars : List Char}
    (hletter : letter ∈ fieldLetters) (hcount : 0 < count) (hmaximal : chars.head? ≠ some letter) :
    read pattern false (List.replicate count letter ++ chars) =
      (.field letter count :: ·) <$> read pattern false chars := by
  induction count, hcount using Nat.le_induction with
  | base =>
      change read pattern false (letter :: chars) = _
      rw [read_letter hletter]
      cases hread : read pattern false chars with
      | error fault => rfl
      | ok tokens => exact congrArg Except.ok (consLetter_of_read hmaximal hread)
  | succ count _ ih =>
      rw [List.replicate_succ, List.cons_append, read_letter hletter, ih, Functor.map_map]
      simp only [Token.consLetter, if_pos]

theorem read_of_begins {chars rest : List Char} {piece : Piece} (h : Begins chars piece rest) :
    read pattern false chars = (piece.tokens ++ ·) <$> read pattern false rest := by
  cases h with
  | quote => exact read_escaped rest
  | @quoted first text _ hopen hclosed =>
      have hnext : (doubled '\'' (first :: text) ++ '\'' :: rest).head? ≠ some '\'' := by
        rw [List.head?_append, head?_doubled]
        simpa using hopen
      rw [read_quote hnext]
      exact read_section hclosed (first :: text)
  | plain hquote hletter => exact read_literal hquote (.inr hletter)
  | run hletter hcount hmaximal => exact read_run hletter hcount hmaximal

theorem read_of_splits {chars rest : List Char} {pieces : List Piece}
    (h : Splits chars pieces rest) :
    read pattern false chars =
      (pieces.flatMap Piece.tokens ++ ·) <$> read pattern false rest := by
  induction h with
  | done => exact (id_map _).symm
  | cons hfirst _ ih =>
      rw [read_of_begins hfirst, ih, Functor.map_map]
      simp only [List.flatMap_cons, List.append_assoc]

theorem read_of_stops {rest : List Char} {fault : MatcherFault} (h : Stops pattern rest fault) :
    read pattern false rest = .error fault := by
  cases h with
  | openQuote hopen =>
      rw [read_quote (by rwa [head?_doubled])]
      exact read_openQuote _
  | unknownLetter hletter hunknown => exact read_unknown hletter hunknown

theorem toFormat_of_splits {pieces : List Piece} (h : Splits pattern.toList pieces []) :
    toFormat pattern = .ok (String.ofList (pieces.flatMap Piece.format)) := by
  have htokens : tokens pattern = .ok (pieces.flatMap Piece.tokens) := by
    rw [tokens, read_of_splits h]
    exact congrArg Except.ok (List.append_nil _)
  rw [toFormat, htokens, Outcome.ok_bind, formatChars_of_splits h]
  rfl

theorem toFormat_of_stops {pieces : List Piece} {rest : List Char} {fault : MatcherFault}
    (h : Splits pattern.toList pieces rest) (hstops : Stops pattern rest fault) :
    toFormat pattern = .error fault := by
  rw [toFormat, tokens, read_of_splits h, read_of_stops hstops]
  rfl

/-- A pattern that can be split to its end stops nowhere. -/
theorem not_stops_of_splits {all pieces : List Piece} {rest : List Char} {fault : MatcherFault}
    (hall : Splits pattern.toList all []) (h : Splits pattern.toList pieces rest) :
    ¬Stops pattern rest fault := by
  intro hstops
  cases (toFormat_of_splits hall).symm.trans (toFormat_of_stops h hstops)

theorem toFormat_eq_ok_iff {format : String} :
    toFormat pattern = .ok format ↔
      ∃ pieces, Splits pattern.toList pieces [] ∧
        format = String.ofList (pieces.flatMap Piece.format) := by
  constructor
  · intro h
    obtain ⟨pieces, rest, hsplits, rfl | ⟨fault, hstops⟩⟩ :=
      splits_or_stops pattern pattern.toList
    · rw [toFormat_of_splits hsplits] at h
      exact ⟨pieces, hsplits, (Except.ok.inj h).symm⟩
    · rw [toFormat_of_stops hsplits hstops] at h
      cases h
  · rintro ⟨pieces, hsplits, rfl⟩
    exact toFormat_of_splits hsplits

theorem toFormat_eq_error_iff {fault : MatcherFault} :
    toFormat pattern = .error fault ↔
      ∃ pieces rest, Splits pattern.toList pieces rest ∧ Stops pattern rest fault := by
  constructor
  · intro h
    obtain ⟨pieces, rest, hsplits, rfl | ⟨found, hstops⟩⟩ :=
      splits_or_stops pattern pattern.toList
    · rw [toFormat_of_splits hsplits] at h
      cases h
    · rw [toFormat_of_stops hsplits hstops] at h
      obtain rfl := Except.error.inj h
      exact ⟨pieces, rest, hsplits, hstops⟩
  · rintro ⟨pieces, rest, hsplits, hstops⟩
    exact toFormat_of_stops hsplits hstops

/-- A pattern has a format if and only if it can be split to its end, and its format is
that of its parts, one after another. If not, the fault is where the parts end: a section
that is not closed, or a letter that names no field. -/
theorem toFormat_eq_ok_iff_splits (pattern : String) :
    (∀ format, toFormat pattern = .ok format ↔
      ∃ pieces, Splits pattern.toList pieces [] ∧
        format = String.ofList (pieces.flatMap Piece.format)) ∧
    (∀ fault, toFormat pattern = .error fault ↔
      ∃ pieces rest, Splits pattern.toList pieces rest ∧ Stops pattern rest fault) ∧
    ((∃ fault, Contents.liftMatcher (toFormat pattern) = .error (.invalidMatcher fault)) ↔
      ¬∃ pieces, Splits pattern.toList pieces []) := by
  refine ⟨fun _ => toFormat_eq_ok_iff, fun _ => toFormat_eq_error_iff, ?_⟩
  have haccepted : (∃ pieces, Splits pattern.toList pieces []) ↔
      ∃ format, toFormat pattern = .ok format := by
    constructor
    · rintro ⟨pieces, hsplits⟩
      exact ⟨_, toFormat_of_splits hsplits⟩
    · rintro ⟨format, h⟩
      obtain ⟨pieces, hsplits, -⟩ := toFormat_eq_ok_iff.mp h
      exact ⟨pieces, hsplits⟩
  rw [haccepted]
  cases toFormat pattern <;> simp [Contents.liftMatcher]

example : toFormat "h 'o''clock' a, 100%" = .ok "%-I o'clock %p, 100%%" := rfl

end Pattern

end MessageContract.Date
