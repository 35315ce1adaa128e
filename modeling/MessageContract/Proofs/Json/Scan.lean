import MessageContract.Json.Reader
import MessageContract.Proofs.Outcome
import MessageContract.Proofs.Text.Utf8

/-!
What scans make of the bytes before them. `Gives` leaves out where these bytes
stand in the text: a scan gives a result and leaves bytes, or it fails, and both
from every line and column. The scans of tokens are followed here byte by byte;
what is made of them is followed in terms of `Gives` alone.
-/

namespace MessageContract.Json.Scan

variable {α β σ : Type}

/-- A run ends with a result and the bytes that are left, or it fails. -/
def Ends (run : Except Error α × Cursor) : Option (α × List UInt8) → Prop
  | some (a, rest) => ∃ line column, run = (.ok a, ⟨rest, line, column⟩)
  | none => ∃ e after, run = (.error e, after)

/-- What a scan makes of bytes, wherever they stand. -/
def Gives (scan : Scan α) (before : List UInt8) (outcome : Option (α × List UInt8)) : Prop :=
  ∀ line column, Ends (scan ⟨before, line, column⟩) outcome

theorem gives_pure (a : α) (before : List UInt8) :
    Gives (pure a) before (some (a, before)) := by
  intro line column
  exact ⟨line, column, rfl⟩

theorem gives_bind {scan : Scan α} {next : α → Scan β} {before rest : List UInt8} {a : α}
    {outcome : Option (β × List UInt8)} (hscan : Gives scan before (some (a, rest)))
    (hnext : Gives (next a) rest outcome) : Gives (scan >>= next) before outcome := by
  intro line column
  obtain ⟨line', column', hrun⟩ := hscan line column
  have hafter := hnext line' column'
  rw [Outcome.run_bind, hrun]
  exact hafter

theorem gives_bind_none {scan : Scan α} {next : α → Scan β} {before : List UInt8}
    (hscan : Gives scan before none) : Gives (scan >>= next) before none := by
  intro line column
  obtain ⟨e, after, hrun⟩ := hscan line column
  exact ⟨e, after, by rw [Outcome.run_bind, hrun]⟩

/-- What comes next is looked at only for a result that there is. -/
theorem gives_bind_option {scan : Scan α} {next : α → Scan β} {before rest : List UInt8}
    {result : Option α} {outcome : α → Option (β × List UInt8)}
    (hscan : Gives scan before (result.map (·, rest)))
    (hnext : ∀ a, result = some a → Gives (next a) rest (outcome a)) :
    Gives (scan >>= next) before (result.bind outcome) := by
  cases result with
  | none => exact gives_bind_none hscan
  | some a => exact gives_bind hscan (hnext a rfl)

/-- A scan whose result is worked on, whatever it comes to. -/
theorem gives_map {scan : Scan α} {before rest : List UInt8} {result : Option α}
    (hscan : Gives scan before (result.map (·, rest))) (f : α → β) :
    Gives (do return f (← scan)) before ((result.map f).map (·, rest)) := by
  cases result with
  | none => exact gives_bind_none hscan
  | some a => exact gives_bind hscan (gives_pure _ _)

theorem gives_raise (fault : Fault) (before : List UInt8) :
    Gives (raise fault : Scan α) before none := by
  intro _ _
  exact ⟨_, _, rfl⟩

theorem gives_fail (fault : Fault) (before : List UInt8) :
    Gives (fail fault : Scan α) before none := by
  intro _ _
  exact ⟨_, _, rfl⟩

theorem gives_failAhead (fault : Fault) (before : List UInt8) :
    Gives (failAhead fault : Scan α) before none := by
  intro _ _
  exact ⟨_, _, rfl⟩

theorem gives_located {scan : Scan α} {before : List UInt8}
    {outcome : Option (α × List UInt8)} (hscan : Gives scan before outcome) :
    Gives (located scan) before outcome := by
  intro line column
  have hrun := hscan line column
  cases outcome with
  | none =>
      obtain ⟨e, after, hrun⟩ := hrun
      exact ⟨_, _, by rw [located, hrun]⟩
  | some result =>
      obtain ⟨line', column', hrun⟩ := hrun
      exact ⟨line', column', by rw [located, hrun]⟩

theorem gives_peek (before : List UInt8) : Gives peek before (some (before.head?, before)) := by
  intro line column
  exact ⟨line, column, rfl⟩

/-- A scan that looks at the cursor does the same at every place. -/
theorem gives_get {next : Cursor → Scan α} {before : List UInt8}
    {outcome : Option (α × List UInt8)}
    (hnext : ∀ line column, Gives (next ⟨before, line, column⟩) before outcome) :
    Gives (get >>= next) before outcome := by
  intro line column
  exact hnext line column line column

theorem gives_discard (byte : UInt8) (rest : List UInt8) :
    Gives discard (byte :: rest) (some ((), rest)) := by
  intro line column
  have hrun : discard ⟨byte :: rest, line, column⟩ =
      (.ok (), Cursor.advance ⟨byte :: rest, line, column⟩) := rfl
  rw [hrun, Cursor.advance]
  dsimp only
  split
  case h_1 heq => cases heq
  case h_2 heq =>
    obtain ⟨-, rfl⟩ := List.cons.inj heq
    exact ⟨_, _, rfl⟩
  case h_3 heq =>
    obtain ⟨-, rfl⟩ := List.cons.inj heq
    exact ⟨_, _, rfl⟩

theorem gives_next (byte : UInt8) (rest : List UInt8) :
    Gives next (byte :: rest) (some (some byte, rest)) :=
  gives_bind (gives_peek _) (gives_bind (gives_discard byte rest) (gives_pure _ _))

/-- A loop that gives its result with enough fuel gives it. -/
theorem gives_withFuel {loop : Fuel → Scan α} {before : List UInt8}
    {outcome : Option (α × List UInt8)}
    (hloop : ∀ fuel : Fuel, before.length < fuel.length → Gives (loop fuel) before outcome) :
    Gives (withFuel loop) before outcome := by
  intro line column
  exact hloop (0 :: before) (by simp) line column

/-! White space. -/

/-- Nothing but white space. -/
def Blank (bytes : List UInt8) : Prop :=
  ∀ byte ∈ bytes, isSpace byte = true

/-- The bytes do not start with white space. -/
def Inked (bytes : List UInt8) : Prop :=
  ∀ byte, bytes.head? = some byte → isSpace byte = false

theorem inked_cons {byte : UInt8} (hbyte : isSpace byte = false) (rest : List UInt8) :
    Inked (byte :: rest) := by
  intro other hother
  rw [List.head?_cons, Option.some.injEq] at hother
  rw [← hother, hbyte]

theorem blank_nil : Blank [] := by
  intro _ hbyte
  exact absurd hbyte List.not_mem_nil

theorem gives_skipSpace {space rest : List UInt8} (hspace : Blank space) (hrest : Inked rest)
    {fuel : Fuel} (hfuel : (space ++ rest).length < fuel.length) :
    Gives (skipSpace fuel) (space ++ rest) (some ((), rest)) := by
  induction space generalizing fuel with
  | nil =>
      cases fuel with
      | nil => simp at hfuel
      | cons _ fuel =>
          rw [List.nil_append, skipSpace]
          apply gives_bind (gives_peek _)
          cases rest with
          | nil => exact gives_pure _ _
          | cons byte rest =>
              dsimp only [List.head?_cons]
              rw [if_neg (by simp [hrest byte rfl])]
              exact gives_pure _ _
  | cons byte space ih =>
      cases fuel with
      | nil => simp at hfuel
      | cons _ fuel =>
          rw [List.cons_append, skipSpace]
          apply gives_bind (gives_peek _)
          dsimp only [List.head?_cons]
          rw [if_pos (hspace byte List.mem_cons_self)]
          have hblank : Blank space := by
            intro b hb
            exact hspace b (List.mem_cons_of_mem _ hb)
          have hfuelRest : (space ++ rest).length < fuel.length := by simpa using hfuel
          exact gives_bind (gives_discard _ _) (ih hblank hfuelRest)

theorem gives_ahead {space rest : List UInt8} (hspace : Blank space) (hrest : Inked rest) :
    Gives ahead? (space ++ rest) (some (rest.head?, rest)) :=
  gives_bind (gives_withFuel fun _ hfuel => gives_skipSpace hspace hrest hfuel) (gives_peek _)

theorem gives_ahead_cons {byte : UInt8} (hbyte : isSpace byte = false) (rest : List UInt8) :
    Gives ahead? (byte :: rest) (some (some byte, byte :: rest)) :=
  gives_ahead blank_nil (inked_cons hbyte rest)

/-! Words. -/

theorem gives_word (letters rest : List UInt8) :
    Gives (word letters) (letters ++ rest) (some ((), rest)) := by
  induction letters with
  | nil => exact gives_pure _ _
  | cons letter letters ih =>
      rw [List.cons_append, word]
      apply gives_bind (gives_next _ _)
      dsimp only
      rw [if_pos (beq_self_eq_true letter)]
      exact ih

/-! Strings. A written string is read back: every byte of it is passed as it is,
or is an escape for the byte that it stands for. -/

theorem gives_stringBytes_end (fuel : Fuel) (done rest : List UInt8)
    (hfuel : (0x22 :: rest).length < fuel.length) :
    Gives (stringBytes fuel done) (0x22 :: rest) (some (done.reverse, rest)) := by
  cases fuel with
  | nil => simp at hfuel
  | cons _ fuel =>
      rw [stringBytes]
      exact gives_bind (gives_next _ _) (gives_pure _ _)

/-- A byte that stands for itself within a string. -/
def IsPlainByte (byte : UInt8) : Prop :=
  byte ≠ 0x22 ∧ byte ≠ 0x5C ∧ ¬ byte < 0x20

theorem gives_stringBytes_plain {bytes rest : List UInt8} (hplain : ∀ b ∈ bytes, IsPlainByte b)
    {outcome : Option (List UInt8 × List UInt8)} {fuel : Fuel} {done : List UInt8}
    (hfuel : (bytes ++ rest).length < fuel.length)
    (hrest : ∀ fuel : Fuel, rest.length < fuel.length →
      Gives (stringBytes fuel (bytes.reverse ++ done)) rest outcome) :
    Gives (stringBytes fuel done) (bytes ++ rest) outcome := by
  induction bytes generalizing fuel done with
  | nil => exact hrest fuel hfuel
  | cons byte bytes ih =>
      cases fuel with
      | nil => simp at hfuel
      | cons _ fuel =>
          obtain ⟨hquote, hslash, hcontrol⟩ := hplain byte List.mem_cons_self
          rw [List.cons_append, stringBytes]
          apply gives_bind (gives_next _ _)
          dsimp only
          rw [beq_false_of_ne hquote, beq_false_of_ne hslash, if_neg Bool.false_ne_true,
            if_neg Bool.false_ne_true, if_neg hcontrol]
          apply ih (fun b hb => hplain b (List.mem_cons_of_mem _ hb)) (by simpa using hfuel)
          intro fuel hlength
          have hafter := hrest fuel hlength
          rwa [List.reverse_cons, List.append_assoc, List.singleton_append] at hafter

theorem gives_stringBytes_escape {escaped plain rest : List UInt8}
    (hescape : Gives escape (escaped ++ rest) (some (plain, rest)))
    {outcome : Option (List UInt8 × List UInt8)} {fuel : Fuel} {done : List UInt8}
    (hfuel : (0x5C :: (escaped ++ rest)).length < fuel.length)
    (hrest : ∀ fuel : Fuel, rest.length < fuel.length →
      Gives (stringBytes fuel (plain.reverse ++ done)) rest outcome) :
    Gives (stringBytes fuel done) (0x5C :: (escaped ++ rest)) outcome := by
  cases fuel with
  | nil => simp at hfuel
  | cons _ fuel =>
      rw [stringBytes]
      apply gives_bind (gives_next _ _)
      refine gives_bind hescape (hrest fuel ?_)
      simp only [List.length_cons, List.length_append] at hfuel
      omega

theorem gives_shortEscape {letter plain : UInt8} (hshort : shortEscape? letter = some plain)
    (hletter : letter ≠ 0x75) (rest : List UInt8) :
    Gives escape (letter :: rest) (some ([plain], rest)) := by
  apply gives_bind (gives_next _ _)
  dsimp only
  rw [beq_false_of_ne hletter, if_neg Bool.false_ne_true, hshort]
  exact gives_pure _ _

theorem gives_hexEscape {a b c d : UInt8} {w x y z : Nat} (ha : hexDigit? a = some w)
    (hb : hexDigit? b = some x) (hc : hexDigit? c = some y) (hd : hexDigit? d = some z)
    (rest : List UInt8) :
    Gives hexEscape (a :: b :: c :: d :: rest)
      (some (((w * 16 + x) * 16 + y) * 16 + z, rest)) := by
  apply gives_get
  intro line column
  dsimp only
  refine gives_bind (gives_discard _ _) (gives_bind (gives_discard _ _)
    (gives_bind (gives_discard _ _) (gives_bind (gives_discard _ _) ?_)))
  rw [ha, hb, hc, hd]
  exact gives_pure _ _

theorem hexDigit?_hexDigit :
    ∀ d : Fin 16, (Utf8.encodeChar (hexDigit d)).map hexDigit? = [some d.val] := by
  decide

theorem exists_hexByte {d : Nat} (hd : d < 16) :
    ∃ byte, Utf8.encodeChar (hexDigit d) = [byte] ∧ hexDigit? byte = some d := by
  have hread := hexDigit?_hexDigit ⟨d, hd⟩
  rw [List.map_eq_singleton_iff] at hread
  exact hread

theorem gives_unicodeEscape {c : Char} (hc : c.toNat < 0x20) (rest : List UInt8) :
    Gives unicodeEscape
      (Utf8.encodeChars ['0', '0', hexDigit (c.toNat / 16), hexDigit (c.toNat % 16)] ++ rest)
      (some (c, rest)) := by
  obtain ⟨high, hhigh, hhighValue⟩ := exists_hexByte (d := c.toNat / 16) (by omega)
  obtain ⟨low, hlow, hlowValue⟩ := exists_hexByte (d := c.toNat % 16) (by omega)
  have hbytes : Utf8.encodeChars ['0', '0', hexDigit (c.toNat / 16), hexDigit (c.toNat % 16)] ++
      rest = 0x30 :: 0x30 :: high :: low :: rest := by
    have hzero : Utf8.encodeChar '0' = [0x30] := by decide
    simp only [Utf8.encodeChars, List.flatMap_cons, List.flatMap_nil, hzero, hhigh, hlow]
    rfl
  have hvalue : ((0 * 16 + 0) * 16 + c.toNat / 16) * 16 + c.toNat % 16 = c.toNat := by omega
  have hzeroDigit : hexDigit? 0x30 = some 0 := rfl
  have hescape := gives_hexEscape hzeroDigit hzeroDigit hhighValue hlowValue rest
  rw [hvalue] at hescape
  rw [hbytes]
  apply gives_bind hescape
  have hnotLow : isLowSurrogate c.toNat = false := by
    simp only [isLowSurrogate, Bool.and_eq_false_iff, decide_eq_false_iff_not]
    omega
  have hnotHigh : isHighSurrogate c.toNat = false := by
    simp only [isHighSurrogate, Bool.and_eq_false_iff, decide_eq_false_iff_not]
    omega
  rw [hnotLow, hnotHigh, Char.ofNat_toNat]
  exact gives_pure _ _

/-- A control character without a short escape is escaped by its number. -/
theorem gives_controlEscape {c : Char} (hc : c.toNat < 0x20) (rest : List UInt8) :
    Gives escape
      (0x75 :: (Utf8.encodeChars ['0', '0', hexDigit (c.toNat / 16), hexDigit (c.toNat % 16)] ++
        rest)) (some (Utf8.encodeChar c, rest)) := by
  apply gives_bind (gives_next _ _)
  dsimp only
  rw [if_pos (beq_self_eq_true _)]
  exact gives_bind (gives_unicodeEscape hc rest) (gives_pure _ _)

theorem isPlainByte_of_high {byte : UInt8} (hbyte : 0x80 ≤ byte.toNat) : IsPlainByte byte := by
  refine ⟨?_, ?_, ?_⟩
  · rintro rfl
    exact absurd hbyte (by decide)
  · rintro rfl
    exact absurd hbyte (by decide)
  · rw [UInt8.lt_iff_toNat_lt]
    change ¬ byte.toNat < 0x20
    omega

/-- The bytes of a character that is not escaped stand for themselves. -/
theorem isPlainByte_of_mem_encodeChar {c : Char} (hquote : c ≠ '"') (hslash : c ≠ '\\')
    (hcontrol : ¬ c.toNat < 0x20) {byte : UInt8} (hbyte : byte ∈ Utf8.encodeChar c) :
    IsPlainByte byte := by
  have hscalar := Utf8.isScalar c
  have hhigh {n : Nat} (hn : 0x80 ≤ n) (hlt : n < 256) : IsPlainByte (UInt8.ofNat n) :=
    isPlainByte_of_high (by rwa [Utf8.toNat_ofNat_of_lt hlt])
  unfold Utf8.encodeChar at hbyte
  dsimp only at hbyte
  split at hbyte
  case isTrue hone =>
    have hlt : c.toNat < 256 := by omega
    have hne {d : Char} (hd : d.toNat < 256) (hcd : c ≠ d) :
        UInt8.ofNat c.toNat ≠ UInt8.ofNat d.toNat := by
      intro heq
      have hnat := congrArg UInt8.toNat heq
      rw [Utf8.toNat_ofNat_of_lt hlt, Utf8.toNat_ofNat_of_lt hd] at hnat
      exact hcd (by rw [← Char.ofNat_toNat c, hnat, Char.ofNat_toNat])
    rw [List.mem_singleton.mp hbyte]
    refine ⟨hne (by decide) hquote, hne (by decide) hslash, ?_⟩
    rw [UInt8.lt_iff_toNat_lt, Utf8.toNat_ofNat_of_lt hlt]
    exact hcontrol
  case isFalse hone =>
    split at hbyte
    · simp only [List.mem_cons, List.not_mem_nil, or_false] at hbyte
      rcases hbyte with rfl | rfl <;> exact hhigh (by omega) (by omega)
    · split at hbyte
      · simp only [List.mem_cons, List.not_mem_nil, or_false] at hbyte
        rcases hbyte with rfl | rfl | rfl <;> exact hhigh (by omega) (by omega)
      · simp only [List.mem_cons, List.not_mem_nil, or_false] at hbyte
        rcases hbyte with rfl | rfl | rfl | rfl <;> exact hhigh (by omega) (by omega)

theorem encodeChars_cons (c : Char) (cs : List Char) :
    Utf8.encodeChars (c :: cs) = Utf8.encodeChar c ++ Utf8.encodeChars cs := rfl

theorem encodeChars_append (as bs : List Char) :
    Utf8.encodeChars (as ++ bs) = Utf8.encodeChars as ++ Utf8.encodeChars bs :=
  List.flatMap_append

/-- A character of a string is read from what is written for it. -/
theorem gives_stringBytes_char (c : Char) {rest : List UInt8}
    {outcome : Option (List UInt8 × List UInt8)} {fuel : Fuel} {done : List UInt8}
    (hfuel : (Utf8.encodeChars (escapeChar c) ++ rest).length < fuel.length)
    (hrest : ∀ fuel : Fuel, rest.length < fuel.length →
      Gives (stringBytes fuel ((Utf8.encodeChar c).reverse ++ done)) rest outcome) :
    Gives (stringBytes fuel done) (Utf8.encodeChars (escapeChar c) ++ rest) outcome := by
  have hshort (letter plain : UInt8) (hchar : Utf8.encodeChar c = [plain])
      (hbytes : Utf8.encodeChars (escapeChar c) = [0x5C, letter])
      (hescape : shortEscape? letter = some plain) (hletter : letter ≠ 0x75) :
      Gives (stringBytes fuel done) (Utf8.encodeChars (escapeChar c) ++ rest) outcome := by
    rw [hbytes] at hfuel ⊢
    rw [hchar] at hrest
    exact gives_stringBytes_escape (gives_shortEscape hescape hletter rest) hfuel hrest
  by_cases hnamed : c ∈ ['"', '\\', '\n', '\r', '\t', '\x08', '\x0c']
  · simp only [List.mem_cons, List.not_mem_nil, or_false] at hnamed
    rcases hnamed with rfl | rfl | rfl | rfl | rfl | rfl | rfl
    · exact hshort 0x22 0x22 rfl rfl rfl (by decide)
    · exact hshort 0x5C 0x5C rfl rfl rfl (by decide)
    · exact hshort 0x6E 0x0A rfl rfl rfl (by decide)
    · exact hshort 0x72 0x0D rfl rfl rfl (by decide)
    · exact hshort 0x74 0x09 rfl rfl rfl (by decide)
    · exact hshort 0x62 0x08 rfl rfl rfl (by decide)
    · exact hshort 0x66 0x0C rfl rfl rfl (by decide)
  · simp only [List.mem_cons, List.not_mem_nil, or_false, not_or] at hnamed
    obtain ⟨hquote, hslash, hnewline, hreturn, htab, hback, hfeed⟩ := hnamed
    by_cases hcontrol : c.toNat < 0x20
    · have hescaped : escapeChar c =
          ['\\', 'u', '0', '0', hexDigit (c.toNat / 16), hexDigit (c.toNat % 16)] := by
        simp [escapeChar, hquote, hslash, hnewline, hreturn, htab, hback, hfeed, hcontrol]
      have hbytes : Utf8.encodeChars (escapeChar c) = 0x5C :: 0x75 :: Utf8.encodeChars
          ['0', '0', hexDigit (c.toNat / 16), hexDigit (c.toNat % 16)] := by
        rw [hescaped]
        rfl
      rw [hbytes] at hfuel ⊢
      exact gives_stringBytes_escape (gives_controlEscape hcontrol rest) hfuel hrest
    · have hescaped : escapeChar c = [c] := by
        simp [escapeChar, hquote, hslash, hnewline, hreturn, htab, hback, hfeed, hcontrol]
      have hbytes : Utf8.encodeChars (escapeChar c) = Utf8.encodeChar c := by
        rw [hescaped, encodeChars_cons]
        exact List.append_nil _
      rw [hbytes] at hfuel ⊢
      exact gives_stringBytes_plain
        (fun _ => isPlainByte_of_mem_encodeChar hquote hslash hcontrol) hfuel hrest

theorem gives_stringBytes (cs : List Char) (rest : List UInt8) {fuel : Fuel}
    {done : List UInt8}
    (hfuel : (Utf8.encodeChars (cs.flatMap escapeChar) ++ 0x22 :: rest).length < fuel.length) :
    Gives (stringBytes fuel done) (Utf8.encodeChars (cs.flatMap escapeChar) ++ 0x22 :: rest)
      (some (done.reverse ++ Utf8.encodeChars cs, rest)) := by
  induction cs generalizing fuel done with
  | nil =>
      have hend := gives_stringBytes_end fuel done rest hfuel
      rwa [← List.append_nil done.reverse] at hend
  | cons c cs ih =>
      rw [List.flatMap_cons, encodeChars_append, List.append_assoc] at hfuel ⊢
      apply gives_stringBytes_char c hfuel
      intro fuel hlength
      have hrest : Gives (stringBytes fuel ((Utf8.encodeChar c).reverse ++ done))
          (Utf8.encodeChars (cs.flatMap escapeChar) ++ 0x22 :: rest)
          (some (((Utf8.encodeChar c).reverse ++ done).reverse ++ Utf8.encodeChars cs, rest)) :=
        ih hlength
      rwa [List.reverse_append, List.reverse_reverse, List.append_assoc,
        ← encodeChars_cons] at hrest

/-- A written string is read back. -/
theorem gives_quoted (text : String) (rest : List UInt8) :
    Gives Scan.quoted (Utf8.encodeChars (Json.quoted text) ++ rest) (some (text, rest)) := by
  have hbytes : Utf8.encodeChars (Json.quoted text) ++ rest =
      0x22 :: (Utf8.encodeChars (text.toList.flatMap escapeChar) ++ 0x22 :: rest) := by
    rw [Json.quoted, List.cons_append, encodeChars_cons, encodeChars_append, List.append_assoc,
      List.append_assoc]
    rfl
  rw [hbytes]
  have hbody : Gives (withFuel fun fuel => stringBytes fuel [])
      (Utf8.encodeChars (text.toList.flatMap escapeChar) ++ 0x22 :: rest)
      (some (([] : List UInt8).reverse ++ Utf8.encodeChars text.toList, rest)) := by
    apply gives_withFuel
    intro fuel hfuel
    exact gives_stringBytes text.toList rest hfuel
  apply gives_bind (gives_discard _ _)
  apply gives_bind hbody
  rw [List.reverse_nil, List.nil_append]
  have hdecode : Utf8.decode (Utf8.encodeChars text.toList) = some text := Utf8.decode_encode text
  rw [hdecode]
  exact gives_pure _ _

end MessageContract.Json.Scan
