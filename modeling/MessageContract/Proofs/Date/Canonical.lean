import MessageContract.Concrete
import MessageContract.Proofs.Date.Grammar

/-!
The canonical instant in a date pattern. It is rendered through a format with percent
directives, in which each part of the pattern is read back as what it was written for,
whatever stands around it: text is never taken for a directive, and every field is one.
So each pattern that has a format is rendered part by part.
-/

namespace MessageContract.Date

/-- What a run of a letter is for midnight of Saturday, the first of January 2000, in UTC. -/
def canonicalField (letter : Char) (count : Nat) : String :=
  match letter with
  | 'y' => if count = 2 then "00" else "2000"
  | 'u' => "2000"
  | 'M' =>
      if count = 1 then "1" else if count = 2 then "01" else if count = 3 then "Jan" else "January"
  | 'd' => if count = 1 then "1" else "01"
  | 'D' => "001"
  | 'H' => if count = 1 then "0" else "00"
  | 'h' => "12"
  | 'm' => if count = 1 then "0" else "00"
  | 's' => if count = 1 then "0" else "00"
  | 'S' => if count ≤ 3 then "000" else if count ≤ 6 then "000000" else "000000000"
  | 'a' => "AM"
  | 'E' => if count ≤ 3 then "Sat" else "Saturday"
  | 'X' => if 3 ≤ count then "+00:00" else "+0000"
  | 'Z' => "+0000"
  | 'z' => "UTC"
  | _ => ""

/-- What a part of a pattern is rendered as. -/
def Piece.text : Piece → List Char
  | .quote => ['\'']
  | .quoted text => text
  | .plain c => [c]
  | .run letter count => (canonicalField letter count).toList

/-- The pattern that is a text between quotes. -/
def inQuotes (text : String) : String :=
  String.ofList ('\'' :: (doubled '\'' text.toList ++ ['\'']))

namespace Directive

theorem ofLetters?_letters (d : Directive) : ofLetters? d.letters = some d := by
  cases d <;> rfl

/-- A directive has one letter, or one after a modifier, and none that is a percent sign. -/
theorem letters_cases (d : Directive) :
    (∃ c, d.letters = [c] ∧ c ≠ '%' ∧ Item.isModifier c = false) ∨
      ∃ modifier c, d.letters = [modifier, c] ∧ modifier ≠ '%' ∧
        Item.isModifier modifier = true := by
  cases d with
  | plainMonth | plainDay | plainHour | plainHalfDayHour | plainMinute | plainSecond
  | millisecond | microsecond | nanosecond | colonOffset =>
      exact .inr ⟨_, _, rfl, by decide, rfl⟩
  | _ => exact .inl ⟨_, rfl, by decide, rfl⟩

end Directive

namespace Item

theorem parse_directive (d : Directive) (rest : List Char) :
    parse ('%' :: d.letters ++ rest) = (parse rest).map (.directive d :: ·) := by
  have hletters := d.ofLetters?_letters
  rcases d.letters_cases with ⟨c, hd, hpercent, hplain⟩ | ⟨modifier, c, hd, hpercent, hmodifier⟩
  · rw [hd] at hletters ⊢
    change parse ('%' :: c :: rest) = _
    -- what follows a single letter is looked at, and does not matter
    cases rest with
    | nil => rw [parse.eq_3 _ hpercent, hplain, hletters]; rfl
    | cons next rest =>
        rw [parse.eq_4 _ _ _ hpercent, hplain, hletters]
        cases parse (next :: rest) <;> rfl
  · rw [hd] at hletters ⊢
    change parse ('%' :: modifier :: c :: rest) = _
    rw [parse.eq_4 _ _ _ hpercent, if_pos hmodifier, hletters]
    cases parse rest <;> rfl

theorem parse_literal {c : Char} (hpercent : c ≠ '%') (rest : List Char) :
    parse (c :: rest) = (parse rest).map (.literal c :: ·) := by
  rw [parse.eq_5 _ _ (fun _ hc => absurd hc hpercent) (fun _ _ hc => absurd hc hpercent),
    if_neg (by simpa using hpercent)]

/-- An item is read back, whatever follows it. -/
theorem parse_write (item : Item) (rest : List Char) :
    parse (item.write ++ rest) = (parse rest).map (item :: ·) := by
  cases item with
  | directive d => exact parse_directive d rest
  | literal c =>
      by_cases hpercent : c = '%'
      · rw [hpercent]
        exact parse.eq_2 rest
      · have hwrite : (literal c).write = [c] := by simp [write, hpercent]
        rw [hwrite]
        exact parse_literal hpercent rest

theorem parse_flatMap_write (items : List Item) : parse (items.flatMap write) = some items := by
  induction items with
  | nil => rfl
  | cons item items ih => rw [List.flatMap_cons, parse_write, ih, Option.map_some]

end Item

/-! Each part of a pattern stands in the format for items that are rendered as its text. -/

theorem render_directive {letter : Char} (hletter : letter ∈ fieldLetters) (count : Nat) :
    (directive? letter count).map (Directive.render .canonical) =
      some (canonicalField letter count).toList := by
  simp only [fieldLetters, List.mem_cons, List.not_mem_nil, or_false] at hletter
  rcases hletter with rfl | rfl | rfl | rfl | rfl | rfl | rfl | rfl | rfl | rfl | rfl | rfl |
    rfl | rfl | rfl
  all_goals
    simp only [directive?, canonicalField, Option.map_some]
    repeat' split
  all_goals rfl

/-- The items of a text are its characters, those that are percent signs too. -/
theorem doubled_eq_flatMap_write (text : List Char) :
    doubled '%' text = (text.map Item.literal).flatMap Item.write := by
  rw [← formatChars_literals, List.flatMap_map, List.flatMap_map]
  rfl

theorem flatMap_render_literal (t : Instant) (text : List Char) :
    (text.map Item.literal).flatMap (Item.render t) = text := by
  rw [List.flatMap_map]
  exact List.flatMap_singleton' text

theorem exists_items_of_begins {chars rest : List Char} {piece : Piece}
    (h : Begins chars piece rest) :
    ∃ items : List Item, piece.format = items.flatMap Item.write ∧
      items.flatMap (Item.render .canonical) = piece.text := by
  cases h with
  | quote => exact ⟨[.literal '\''], rfl, rfl⟩
  | quoted => exact ⟨_, doubled_eq_flatMap_write _, flatMap_render_literal _ _⟩
  | plain => exact ⟨_, doubled_eq_flatMap_write [_], flatMap_render_literal _ [_]⟩
  | @run letter count _ hletter _ _ =>
      obtain ⟨d, hd, hrendered⟩ := Option.map_eq_some_iff.mp (render_directive hletter count)
      refine ⟨[.directive d], ?_, ?_⟩
      · rw [Piece.format, ← formatChars_field hletter, Token.formatChars, Token.item?, hd,
          List.flatMap_singleton]
        rfl
      · rw [List.flatMap_singleton]
        exact hrendered

theorem exists_items_of_splits {chars rest : List Char} {pieces : List Piece}
    (h : Splits chars pieces rest) :
    ∃ items : List Item, pieces.flatMap Piece.format = items.flatMap Item.write ∧
      items.flatMap (Item.render .canonical) = pieces.flatMap Piece.text := by
  induction h with
  | done => exact ⟨[], rfl, rfl⟩
  | cons hfirst _ ih =>
      obtain ⟨first, hwritten, hrendered⟩ := exists_items_of_begins hfirst
      obtain ⟨others, hothersWritten, hothersRendered⟩ := ih
      refine ⟨first ++ others, ?_, ?_⟩
      · rw [List.flatMap_cons, List.flatMap_append, hwritten, hothersWritten]
      · rw [List.flatMap_cons, List.flatMap_append, hrendered, hothersRendered]

namespace Pattern

variable {pattern : String}

/-- A pattern that can be split is rendered part by part. -/
theorem canonical_of_splits {pieces : List Piece} (h : Splits pattern.toList pieces []) :
    canonical pattern = .ok (String.ofList (pieces.flatMap Piece.text)) := by
  obtain ⟨items, hwritten, hrendered⟩ := exists_items_of_splits h
  rw [canonical, toFormat_of_splits h, Outcome.ok_bind, String.toList_ofList, hwritten,
    Item.parse_flatMap_write, ← hrendered]
  rfl

theorem canonical_of_toFormat {format : String} (h : toFormat pattern = .ok format) :
    ∃ text, canonical pattern = .ok text := by
  obtain ⟨pieces, hsplits, -⟩ := toFormat_eq_ok_iff.mp h
  exact ⟨_, canonical_of_splits hsplits⟩

/-- A pattern is refused for want of a format and for nothing else. -/
theorem canonical_eq_error_iff {fault : MatcherFault} :
    canonical pattern = .error fault ↔ toFormat pattern = .error fault := by
  cases hformat : toFormat pattern with
  | ok format =>
      obtain ⟨text, htext⟩ := canonical_of_toFormat hformat
      simp [htext]
  | error found =>
      rw [canonical, hformat]
      rfl

/-- It is refused where its parts end. -/
theorem canonical_eq_error_iff_stops {fault : MatcherFault} :
    canonical pattern = .error fault ↔
      ∃ pieces rest, Splits pattern.toList pieces rest ∧ Stops pattern rest fault :=
  canonical_eq_error_iff.trans toFormat_eq_error_iff

theorem canonical_ne_badFormat (other : String) :
    canonical pattern ≠ .error (.badFormat other) := by
  rw [Ne, canonical_eq_error_iff_stops]
  rintro ⟨pieces, rest, -, hstops⟩
  cases hstops

theorem splits_inQuotes {text : String} {first : Char} {others : List Char}
    (htext : text.toList = first :: others) (hopen : first ≠ '\'') :
    Splits (inQuotes text).toList [.quoted text.toList] [] := by
  rw [inQuotes, String.toList_ofList, htext]
  exact .cons (.quoted hopen (by simp)) (.done [])

/-- A pattern that has a format is rendered: the format has items alone, and the value is
the text of the pattern's parts, one after another. No other fault is ever found than
that there is no format. A text between quotes is rendered as that text. -/
theorem canonical_renders_parts (pattern : String) :
    (∀ format, toFormat pattern = .ok format →
      (∃ items, Item.parse format.toList = some items) ∧
      (∃ pieces, Splits pattern.toList pieces []) ∧
      ∀ pieces, Splits pattern.toList pieces [] → ∀ default,
        canonicalDate (some pattern) default =
          .ok (.string (String.ofList (pieces.flatMap Piece.text)))) ∧
    (∀ fault, canonical pattern = .error fault ↔ toFormat pattern = .error fault) ∧
    (∀ other, canonical pattern ≠ .error (.badFormat other)) ∧
    ∀ text : String, text ≠ "" → text.toList.head? ≠ some '\'' → ∀ default,
      canonicalDate (some (inQuotes text)) default = .ok (.string text) := by
  have hrendered (p : String) (pieces : List Piece) (hsplits : Splits p.toList pieces [])
      (default : String) : canonicalDate (some p) default =
        .ok (.string (String.ofList (pieces.flatMap Piece.text))) := by
    rw [canonicalDate, Option.getD_some, canonical_of_splits hsplits]
  refine ⟨?_, fun _ => canonical_eq_error_iff, canonical_ne_badFormat, ?_⟩
  · intro format hformat
    obtain ⟨pieces, hsplits, rfl⟩ := toFormat_eq_ok_iff.mp hformat
    obtain ⟨items, hwritten, -⟩ := exists_items_of_splits hsplits
    refine ⟨⟨items, ?_⟩, ⟨pieces, hsplits⟩, hrendered pattern⟩
    rw [String.toList_ofList, hwritten, Item.parse_flatMap_write]
  · intro text hsome hfirst default
    obtain ⟨first, others, htext⟩ :=
      List.exists_cons_of_ne_nil (mt String.toList_eq_nil_iff.mp hsome)
    have hopen : first ≠ '\'' := by
      rintro rfl
      exact hfirst (by rw [htext]; rfl)
    rw [hrendered _ _ (splits_inQuotes htext hopen), List.flatMap_singleton, Piece.text,
      String.ofList_toList]

/-- A field, a percent sign and a section with letters and a quote in it; and a text that
looks like a directive. -/
theorem canonical_renders_parts_beside_percent :
    toFormat "h% 'o''clock'" = .ok "%-I%% o'clock" ∧
      canonicalDate (some "h% 'o''clock'") defaultTimeFormat = .ok (.string "12% o'clock") ∧
      canonicalDate (some "'%Y d''é'") defaultDateFormat = .ok (.string "%Y d'é") := by
  have hformat : toFormat "h% 'o''clock'" = .ok "%-I%% o'clock" := rfl
  have hsection : Begins "'o''clock'".toList (.quoted "o'clock".toList) [] :=
    @Begins.quoted 'o' "'clock".toList [] (by decide) (by decide)
  have hsplits : Splits "h% 'o''clock'".toList
      [.run 'h' 1, .plain '%', .plain ' ', .quoted "o'clock".toList] [] :=
    .cons (.run (by decide : 'h' ∈ fieldLetters) Nat.one_pos (by decide))
      (.cons (.plain (by decide) rfl) (.cons (.plain (by decide) rfl) (.cons hsection (.done []))))
  obtain ⟨hrendered, -, -, hquoted⟩ := canonical_renders_parts "h% 'o''clock'"
  obtain ⟨-, -, htext⟩ := hrendered _ hformat
  exact ⟨hformat, htext _ hsplits _, hquoted "%Y d'é" (by decide) (by decide) _⟩

end Pattern

end MessageContract.Date
