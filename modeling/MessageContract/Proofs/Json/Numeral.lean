import MessageContract.Proofs.Json.Scan

/-!
Reading numbers. A numeral is read to its end, and what comes of it does not
depend on what follows it, as long as that cannot belong to a number: each part
of the reader settles its part of the numeral.
-/

namespace MessageContract.Json.Scan

variable {α β : Type}

/-- The bytes do not go on with a number. -/
def Delimits (bytes : List UInt8) : Prop :=
  ∀ byte, bytes.head? = some byte →
    digit? byte = none ∧ byte ≠ 0x2E ∧ isExponentMark (some byte) = false

/-- The scan reads the text and nothing else; what comes of it does not depend on
what follows. -/
def Settles (scan : Scan α) (text : List UInt8) : Prop :=
  ∃ result : Option α, ∀ rest, Delimits rest →
    Gives scan (text ++ rest) (result.map (·, rest))

/-- The same of a loop, given enough fuel. -/
def LoopSettles (loop : Fuel → Scan α) (text : List UInt8) : Prop :=
  ∃ result : Option α, ∀ rest (fuel : Fuel), Delimits rest →
    (text ++ rest).length < fuel.length → Gives (loop fuel) (text ++ rest) (result.map (·, rest))

theorem settles_withFuel {loop : Fuel → Scan α} {text : List UInt8}
    (hloop : LoopSettles loop text) : Settles (withFuel loop) text := by
  obtain ⟨result, hresult⟩ := hloop
  refine ⟨result, ?_⟩
  intro rest hrest
  exact gives_withFuel fun fuel hfuel => hresult rest fuel hrest hfuel

theorem settles_fail (fault : Fault) (text : List UInt8) :
    Settles (fail fault : Scan α) text :=
  ⟨none, fun _ _ => gives_fail _ _⟩

theorem settles_pure (a : α) : Settles (pure a) [] :=
  ⟨some a, fun _ _ => gives_pure _ _⟩

theorem settles_discard {scan : Scan α} {byte : UInt8} {text : List UInt8}
    (hscan : Settles scan text) : Settles (discard >>= fun _ => scan) (byte :: text) := by
  obtain ⟨result, hresult⟩ := hscan
  refine ⟨result, ?_⟩
  intro rest hrest
  exact gives_bind (gives_discard _ _) (hresult rest hrest)

theorem settles_peek_cons {next : Option UInt8 → Scan α} {byte : UInt8} {text : List UInt8}
    (hnext : Settles (next (some byte)) (byte :: text)) :
    Settles (peek >>= next) (byte :: text) := by
  obtain ⟨result, hresult⟩ := hnext
  refine ⟨result, ?_⟩
  intro rest hrest
  exact gives_bind (gives_peek _) (hresult rest hrest)

/-- At the end of the text the scan sees what delimits it. -/
theorem settles_peek_nil {next : Option UInt8 → Scan α} {scan : Scan α}
    (hnext : ∀ rest, Delimits rest → next rest.head? = scan) (hscan : Settles scan []) :
    Settles (peek >>= next) [] := by
  obtain ⟨result, hresult⟩ := hscan
  refine ⟨result, ?_⟩
  intro rest hrest
  apply gives_bind (gives_peek _)
  rw [List.nil_append, hnext rest hrest]
  exact hresult rest hrest

theorem settles_next_cons {next : Option UInt8 → Scan α} {byte : UInt8} {text : List UInt8}
    (hnext : Settles (next (some byte)) text) :
    Settles (Scan.next >>= next) (byte :: text) := by
  obtain ⟨result, hresult⟩ := hnext
  refine ⟨result, ?_⟩
  intro rest hrest
  exact gives_bind (gives_next _ _) (hresult rest hrest)

/-! Digits. -/

def IsDigits (bytes : List UInt8) : Prop :=
  ∀ byte ∈ bytes, (digit? byte).isSome

theorem isDigits_cons {byte : UInt8} {bytes : List UInt8} :
    IsDigits (byte :: bytes) ↔ (∃ d, digit? byte = some d) ∧ IsDigits bytes := by
  rw [IsDigits, List.forall_mem_cons, Option.isSome_iff_exists]
  rfl

theorem gives_peekDigit (before : List UInt8) :
    Gives peekDigit? before (some (before.head?.bind digit?, before)) :=
  gives_bind (gives_peek _) (gives_pure _ _)

theorem peekDigit_none {rest : List UInt8} (hrest : Delimits rest) :
    rest.head?.bind digit? = none := by
  cases hhead : rest.head? with
  | none => rfl
  | some byte => exact (hrest byte hhead).1

theorem settles_float (negative : Bool) (significand : Nat) (exponent : Int) :
    Settles (float negative significand exponent) [] := by
  unfold float
  cases Binary64.ofDecimal? negative significand exponent with
  | some x => exact settles_pure _
  | none => exact settles_fail _ _

/-- Digits are passed up to a byte that is none. -/
theorem gives_skipDigits {digits rest : List UInt8} (hdigits : IsDigits digits)
    (hrest : rest.head?.bind digit? = none) {fuel : Fuel}
    (hfuel : (digits ++ rest).length < fuel.length) :
    Gives (skipDigits fuel) (digits ++ rest) (some ((), rest)) := by
  induction digits generalizing fuel with
  | nil =>
      cases fuel with
      | nil => simp at hfuel
      | cons _ fuel =>
          rw [List.nil_append, skipDigits]
          apply gives_bind (gives_peekDigit _)
          rw [hrest, if_neg (by simp)]
          exact gives_pure _ _
  | cons byte digits ih =>
      cases fuel with
      | nil => simp at hfuel
      | cons _ fuel =>
          rw [List.cons_append, skipDigits]
          apply gives_bind (gives_peekDigit _)
          obtain ⟨⟨d, hd⟩, hdigitsRest⟩ := isDigits_cons.mp hdigits
          rw [List.head?_cons, Option.bind_some, hd, if_pos Option.isSome_some]
          have hfuelRest : (digits ++ rest).length < fuel.length := by simpa using hfuel
          exact gives_bind (gives_discard _ _) (ih hdigitsRest hfuelRest)

/-- What follows digits does not start with one. -/
def NoDigit (text : List UInt8) : Prop :=
  ∀ rest, Delimits rest → (text ++ rest).head?.bind digit? = none

theorem settles_skipDigits {scan : Scan α} {digits text : List UInt8}
    (hdigits : IsDigits digits) (htext : NoDigit text) (hscan : Settles scan text) :
    Settles (withFuel skipDigits >>= fun _ => scan) (digits ++ text) := by
  obtain ⟨result, hresult⟩ := hscan
  refine ⟨result, ?_⟩
  intro rest hrest
  rw [List.append_assoc]
  exact gives_bind (gives_withFuel fun fuel hfuel =>
    gives_skipDigits hdigits (htext rest hrest) hfuel) (hresult rest hrest)

theorem noDigit_nil : NoDigit [] := by
  intro _ hrest
  exact peekDigit_none hrest

theorem noDigit_cons {byte : UInt8} (hbyte : digit? byte = none) (text : List UInt8) :
    NoDigit (byte :: text) := by
  intro _ _
  exact hbyte

/-- A loop over digits: it goes on at each digit, and ends where there is none. -/
theorem loopSettles_cons {loop : Fuel → Scan α} {byte : UInt8} {text : List UInt8}
    {next : Fuel → Option Nat → Scan α}
    (hloop : ∀ first fuel, loop (first :: fuel) = (peekDigit? >>= next fuel))
    (hnext : ∃ result : Option α, ∀ rest (fuel : Fuel), Delimits rest →
      (text ++ rest).length < fuel.length →
        Gives (next fuel (digit? byte)) (byte :: (text ++ rest)) (result.map (·, rest))) :
    LoopSettles loop (byte :: text) := by
  obtain ⟨result, hresult⟩ := hnext
  refine ⟨result, ?_⟩
  intro rest fuel hrest hfuel
  cases fuel with
  | nil => simp at hfuel
  | cons first fuel =>
      rw [hloop]
      exact gives_bind (gives_peekDigit _) (hresult rest fuel hrest (by simpa using hfuel))

theorem loopSettles_noDigit {loop : Fuel → Scan α} {text : List UInt8} (htext : NoDigit text)
    {next : Fuel → Option Nat → Scan α} {scan : Scan α}
    (hloop : ∀ first fuel, loop (first :: fuel) = (peekDigit? >>= next fuel))
    (hnext : ∀ fuel, next fuel none = scan) (hscan : Settles scan text) :
    LoopSettles loop text := by
  obtain ⟨result, hresult⟩ := hscan
  refine ⟨result, ?_⟩
  intro rest fuel hrest hfuel
  cases fuel with
  | nil => simp at hfuel
  | cons first fuel =>
      rw [hloop]
      apply gives_bind (gives_peekDigit _)
      rw [htext rest hrest, hnext]
      exact hresult rest hrest

/-! The parts of a numeral. -/

section Parts

variable (negative : Bool) (significand : Nat)

theorem settles_hugeExponent (negativeExponent : Bool) {digits : List UInt8}
    (hdigits : IsDigits digits) :
    Settles (hugeExponent negative negativeExponent significand) digits := by
  unfold hugeExponent
  split
  · exact settles_fail _ _
  · have hskip := settles_skipDigits hdigits noDigit_nil (settles_float negative 0 0)
    rwa [List.append_nil] at hskip

theorem loopSettles_exponentDigits (negativeExponent : Bool) (scale : Int)
    {digits : List UInt8} (hdigits : IsDigits digits) (exponent : Nat) :
    LoopSettles (fun fuel =>
      exponentDigits negative negativeExponent significand scale fuel exponent) digits := by
  induction digits generalizing exponent with
  | nil =>
      exact loopSettles_noDigit noDigit_nil (fun _ _ => rfl) (fun _ => rfl)
        (settles_float negative significand _)
  | cons byte digits ih =>
      obtain ⟨⟨d, hd⟩, hrest⟩ := isDigits_cons.mp hdigits
      apply loopSettles_cons (fun _ _ => rfl)
      rw [hd]
      by_cases hhuge : exponentBound ≤ exponent * 10 + d
      · obtain ⟨result, hresult⟩ :=
          settles_hugeExponent negative significand negativeExponent hrest
        refine ⟨result, ?_⟩
        intro rest fuel hdelimits _
        apply gives_bind (gives_discard _ _)
        rw [if_pos hhuge]
        exact hresult rest hdelimits
      · obtain ⟨result, hresult⟩ := ih hrest (exponent * 10 + d)
        refine ⟨result, ?_⟩
        intro rest fuel hdelimits hfuel
        apply gives_bind (gives_discard _ _)
        rw [if_neg hhuge]
        exact hresult rest fuel hdelimits hfuel

/-- The exponent of a numeral, which may be absent: its letter, a sign and digits. -/
inductive IsExponent : List UInt8 → Prop where
  | absent : IsExponent []
  | signed {mark sign digit : UInt8} {digits : List UInt8}
      (hmark : isExponentMark (some mark) = true) (hsign : sign = 0x2B ∨ sign = 0x2D)
      (hdigits : IsDigits (digit :: digits)) : IsExponent (mark :: sign :: digit :: digits)

theorem digit?_of_isExponentMark {byte : UInt8} (hmark : isExponentMark (some byte) = true) :
    digit? byte = none := by
  simp only [isExponentMark, Bool.or_eq_true, beq_iff_eq, Option.some.injEq] at hmark
  rcases hmark with rfl | rfl <;> rfl

theorem noDigit_of_isExponent {text : List UInt8} (htext : IsExponent text) : NoDigit text := by
  cases htext with
  | absent => exact noDigit_nil
  | signed hmark => exact noDigit_cons (digit?_of_isExponentMark hmark) _

theorem settles_exponent (scale : Int) {mark sign digit : UInt8} {digits : List UInt8}
    (hsign : sign = 0x2B ∨ sign = 0x2D) (hdigits : IsDigits (digit :: digits)) :
    Settles (exponent negative significand scale) (mark :: sign :: digit :: digits) := by
  obtain ⟨⟨d, hd⟩, hrest⟩ := isDigits_cons.mp hdigits
  refine settles_discard (settles_peek_cons ?_)
  have hboth : (some sign == some 0x2B || some sign == some 0x2D) = true := by
    rcases hsign with rfl | rfl <;> rfl
  rw [if_pos hboth]
  refine settles_discard (settles_next_cons ?_)
  dsimp only
  rw [hd]
  exact settles_withFuel (loopSettles_exponentDigits negative significand _ scale hrest d)

theorem settles_scaled (scale : Int) {text : List UInt8} (htext : IsExponent text) :
    Settles (scaled negative significand scale) text := by
  cases htext with
  | absent =>
      refine settles_peek_nil (fun rest hrest => ?_) (settles_float negative significand scale)
      cases hhead : rest.head? with
      | none => rfl
      | some byte => rw [(hrest byte hhead).2.2, if_neg Bool.false_ne_true]
  | signed hmark hsign hdigits =>
      apply settles_peek_cons
      rw [if_pos hmark]
      exact settles_exponent negative significand scale hsign hdigits

theorem loopSettles_fractionDigits (base : Int) {digits text : List UInt8}
    (hdigits : IsDigits digits) (htext : IsExponent text) (significand count : Nat)
    (hcount : digits = [] → count ≠ 0) :
    LoopSettles (fun fuel => fractionDigits negative base fuel significand count)
      (digits ++ text) := by
  induction digits generalizing significand count with
  | nil =>
      exact loopSettles_noDigit (noDigit_of_isExponent htext) (fun _ _ => rfl)
        (fun _ => if_neg (hcount rfl)) (settles_scaled negative significand _ htext)
  | cons byte digits ih =>
      obtain ⟨⟨d, hd⟩, hrest⟩ := isDigits_cons.mp hdigits
      apply loopSettles_cons (fun _ _ => rfl)
      rw [hd]
      by_cases hfull : significandBound ≤ significand * 10 + d
      · -- What does not fit is passed, this digit included.
        obtain ⟨result, hresult⟩ := settles_skipDigits hdigits (noDigit_of_isExponent htext)
          (settles_scaled negative significand (base - count) htext)
        refine ⟨result, ?_⟩
        intro rest fuel hdelimits _
        dsimp only
        rw [if_pos hfull]
        exact hresult rest hdelimits
      · obtain ⟨result, hresult⟩ :=
          ih hrest (significand * 10 + d) (count + 1) fun _ => Nat.succ_ne_zero count
        refine ⟨result, ?_⟩
        intro rest fuel hdelimits hfuel
        dsimp only
        rw [if_neg hfull]
        exact gives_bind (gives_discard _ _) (hresult rest fuel hdelimits hfuel)

/-- The fraction of a numeral, which may be absent: the point and digits. -/
inductive IsFraction : List UInt8 → Prop where
  | absent : IsFraction []
  | pointed {digits : List UInt8} (hdigits : IsDigits digits) (hnonempty : digits ≠ []) :
      IsFraction (0x2E :: digits)

theorem settles_fraction (base : Int) {digits text : List UInt8} (hdigits : IsDigits digits)
    (hnonempty : digits ≠ []) (htext : IsExponent text) :
    Settles (fraction negative significand base) (0x2E :: (digits ++ text)) :=
  settles_discard (settles_withFuel (loopSettles_fractionDigits negative base hdigits htext
    significand 0 fun hempty => absurd hempty hnonempty))

theorem noDigit_of_isFraction {point text : List UInt8} (hpoint : IsFraction point)
    (htext : IsExponent text) : NoDigit (point ++ text) := by
  cases hpoint with
  | absent => exact noDigit_of_isExponent htext
  | pointed => exact noDigit_cons rfl _

theorem ne_point_of_isExponentMark {byte : UInt8} (hmark : isExponentMark (some byte) = true) :
    (some byte == some (0x2E : UInt8)) = false := by
  simp only [isExponentMark, Bool.or_eq_true, beq_iff_eq, Option.some.injEq] at hmark
  rcases hmark with rfl | rfl <;> rfl

theorem head?_ne_point {rest : List UInt8} (hrest : Delimits rest) :
    (rest.head? == some 0x2E) = false := by
  cases hhead : rest.head? with
  | none => rfl
  | some byte =>
      have hne := (hrest byte hhead).2.1
      simpa using hne

theorem head?_isExponentMark {rest : List UInt8} (hrest : Delimits rest) :
    isExponentMark rest.head? = false := by
  cases hhead : rest.head? with
  | none => rfl
  | some byte => exact (hrest byte hhead).2.2

theorem loopSettles_longInteger {digits point text : List UInt8} (hdigits : IsDigits digits)
    (hpoint : IsFraction point) (htext : IsExponent text) (dropped : Nat) :
    LoopSettles (fun fuel => longInteger negative significand fuel dropped)
      (digits ++ (point ++ text)) := by
  induction digits generalizing dropped with
  | nil =>
      rw [List.nil_append]
      refine loopSettles_noDigit (noDigit_of_isFraction hpoint htext) (fun _ _ => rfl)
        (fun _ => if_neg (by simp)) ?_
      cases hpoint with
      | pointed hpointed hnonempty =>
          exact settles_peek_cons (settles_fraction negative significand _ hpointed hnonempty htext)
      | absent =>
          rw [List.nil_append]
          have hscaled := settles_scaled negative significand dropped htext
          cases htext with
          | absent =>
              refine settles_peek_nil (fun rest hrest => ?_) hscaled
              rw [head?_ne_point hrest, if_neg Bool.false_ne_true]
          | signed hmark =>
              apply settles_peek_cons
              rw [ne_point_of_isExponentMark hmark, if_neg Bool.false_ne_true]
              exact hscaled
  | cons byte digits ih =>
      obtain ⟨⟨d, hd⟩, hrest⟩ := isDigits_cons.mp hdigits
      apply loopSettles_cons (fun _ _ => rfl)
      rw [hd]
      obtain ⟨result, hresult⟩ := ih hrest (dropped + 1)
      exact ⟨result, fun rest fuel hdelimits hfuel =>
        gives_bind (gives_discard _ _) (hresult rest fuel hdelimits hfuel)⟩

theorem settles_afterInteger {point text : List UInt8} (hpoint : IsFraction point)
    (htext : IsExponent text) : Settles (afterInteger negative significand) (point ++ text) := by
  cases hpoint with
  | pointed hpointed hnonempty =>
      exact settles_peek_cons (settles_fraction negative significand _ hpointed hnonempty htext)
  | absent =>
      rw [List.nil_append]
      cases htext with
      | absent =>
          have hplain : Settles (if !negative then return .integer significand
              else if 0 < significand && significand ≤ UInt64.size / 2 then return .integer (-significand)
              else float true significand 0) [] := by
            split
            · exact settles_pure _
            · split
              · exact settles_pure _
              · exact settles_float _ _ _
          refine settles_peek_nil (fun rest hrest => ?_) hplain
          rw [head?_ne_point hrest, head?_isExponentMark hrest, if_neg Bool.false_ne_true,
            if_neg Bool.false_ne_true]
      | signed hmark hsign hdigits =>
          apply settles_peek_cons
          rw [ne_point_of_isExponentMark hmark, if_neg Bool.false_ne_true, if_pos hmark]
          exact settles_exponent negative significand 0 hsign hdigits

theorem loopSettles_integerDigits {digits point text : List UInt8} (hdigits : IsDigits digits)
    (hpoint : IsFraction point) (htext : IsExponent text) (significand : Nat) :
    LoopSettles (fun fuel => integerDigits negative fuel significand)
      (digits ++ (point ++ text)) := by
  induction digits generalizing significand with
  | nil =>
      rw [List.nil_append]
      exact loopSettles_noDigit (noDigit_of_isFraction hpoint htext) (fun _ _ => rfl)
        (fun _ => rfl) (settles_afterInteger negative significand hpoint htext)
  | cons byte digits ih =>
      obtain ⟨⟨d, hd⟩, hrest⟩ := isDigits_cons.mp hdigits
      apply loopSettles_cons (fun _ _ => rfl)
      rw [hd]
      by_cases hlong : significandBound ≤ significand * 10 + d
      · obtain ⟨result, hresult⟩ := settles_withFuel
          (loopSettles_longInteger negative significand hdigits hpoint htext 0)
        refine ⟨result, ?_⟩
        intro rest fuel hdelimits _
        dsimp only
        rw [if_pos hlong]
        exact hresult rest hdelimits
      · obtain ⟨result, hresult⟩ := ih hrest (significand * 10 + d)
        refine ⟨result, ?_⟩
        intro rest fuel hdelimits hfuel
        dsimp only
        rw [if_neg hlong]
        exact gives_bind (gives_discard _ _) (hresult rest fuel hdelimits hfuel)

/-- The integer part of a numeral: zero, or digits that a zero does not lead. -/
inductive IsInteger : List UInt8 → Prop where
  | zero : IsInteger [0x30]
  | led {digit : UInt8} {digits : List UInt8} (hdigit : digit ≠ 0x30)
      (hdigits : IsDigits (digit :: digits)) : IsInteger (digit :: digits)

theorem digit?_eq_zero {byte : UInt8} (h : digit? byte = some 0) : byte = 0x30 := by
  unfold digit? at h
  split at h
  case isTrue hrange =>
    rw [Bool.and_eq_true, decide_eq_true_eq, decide_eq_true_eq, UInt8.le_iff_toNat_le] at hrange
    have hlow : 0x30 ≤ byte.toNat := hrange.1
    have hvalue : byte.toNat - 0x30 = 0 := Option.some.inj h
    exact UInt8.toNat_inj.mp (by change byte.toNat = 0x30; omega)
  case isFalse => cases h

theorem settles_unsignedNumber {integer point text : List UInt8} (hinteger : IsInteger integer)
    (hpoint : IsFraction point) (htext : IsExponent text) :
    Settles (unsignedNumber negative) (integer ++ (point ++ text)) := by
  cases hinteger with
  | zero =>
      obtain ⟨result, hresult⟩ := settles_afterInteger negative 0 hpoint htext
      have hafter : Settles (do
          if (← peekDigit?).isSome then failAhead .invalidNumber
          else afterInteger negative 0) (point ++ text) := by
        refine ⟨result, ?_⟩
        intro rest hrest
        apply gives_bind (gives_peekDigit _)
        rw [noDigit_of_isFraction hpoint htext rest hrest, if_neg (by simp)]
        exact hresult rest hrest
      exact settles_next_cons hafter
  | @led digit digits hdigit hdigits =>
      obtain ⟨⟨d, hd⟩, hrest⟩ := isDigits_cons.mp hdigits
      rw [List.cons_append]
      apply settles_next_cons
      dsimp only
      rw [hd]
      cases d with
      | zero => exact absurd (digit?_eq_zero hd) hdigit
      | succ d =>
          exact settles_withFuel (loopSettles_integerDigits negative hrest hpoint htext (d + 1))

end Parts

/-- The text of a number. -/
inductive IsNumeral : List UInt8 → Prop where
  | positive {integer point text : List UInt8} (hinteger : IsInteger integer)
      (hpoint : IsFraction point) (htext : IsExponent text) :
      IsNumeral (integer ++ (point ++ text))
  | negative {integer point text : List UInt8} (hinteger : IsInteger integer)
      (hpoint : IsFraction point) (htext : IsExponent text) :
      IsNumeral (0x2D :: (integer ++ (point ++ text)))

/-- The first byte of an integer part is a digit. -/
theorem exists_digit_of_isInteger {integer : List UInt8} (hinteger : IsInteger integer) :
    ∃ digit digits, integer = digit :: digits ∧ (digit? digit).isSome := by
  cases hinteger with
  | zero => exact ⟨_, _, rfl, rfl⟩
  | led _ hdigits => exact ⟨_, _, rfl, hdigits _ List.mem_cons_self⟩

/-- The first byte of a numeral. -/
theorem exists_head_of_isNumeral {text : List UInt8} (htext : IsNumeral text) :
    ∃ byte rest, text = byte :: rest ∧ (byte = 0x2D ∨ (digit? byte).isSome) := by
  cases htext with
  | positive hinteger =>
      obtain ⟨digit, digits, rfl, hdigit⟩ := exists_digit_of_isInteger hinteger
      exact ⟨_, _, rfl, .inr hdigit⟩
  | negative => exact ⟨_, _, rfl, .inl rfl⟩

/-- A byte that starts a number starts nothing else. -/
theorem ne_of_startsNumber {byte : UInt8} (h : byte = 0x2D ∨ (digit? byte).isSome)
    {other : UInt8} (hother : other ≠ 0x2D) (hdigit : digit? other = none) : byte ≠ other := by
  rintro rfl
  rcases h with hminus | hsome
  · exact hother hminus
  · rw [hdigit] at hsome
    cases hsome

/-- A numeral is read to its end, whatever delimits it. -/
theorem settles_number {text : List UInt8} (htext : IsNumeral text) : Settles number text := by
  cases htext with
  | positive hinteger hpoint hexponent =>
      have hunsigned := settles_unsignedNumber false hinteger hpoint hexponent
      obtain ⟨digit, digits, rfl, hdigit⟩ := exists_digit_of_isInteger hinteger
      apply settles_peek_cons
      have hne : (some digit == some (0x2D : UInt8)) = false := by
        rw [beq_eq_false_iff_ne]
        rintro heq
        rw [Option.some.inj heq] at hdigit
        exact absurd hdigit (by decide)
      rw [hne, if_neg Bool.false_ne_true]
      exact hunsigned
  | negative hinteger hpoint hexponent =>
      exact settles_peek_cons (settles_discard
        (settles_unsignedNumber true hinteger hpoint hexponent))

end MessageContract.Json.Scan
