import MessageContract.Proofs.Outcome
import MessageContract.Proofs.Text.Utf8
import MessageContract.Text.Base64

/-!
Base64 loses nothing. A symbol is read as the six bits that it stands for and is
never taken for padding, so each group of symbols gives the bytes that it was made
of, and the last one gives as many as it was padded to.
-/

namespace MessageContract.Base64

theorem value?_symbol {v : Nat} (hv : v < 64) : value? (symbol v) = some v := by
  revert v
  decide

theorem symbol_ne_pad {v : Nat} (hv : v < 64) : symbol v ≠ pad := by
  revert v
  decide

theorem symbol_lt_ascii (v : Nat) : (symbol v).toNat < 0x80 := by
  unfold symbol
  split
  · rw [Utf8.toNat_ofNat_of_lt (by omega)]
    omega
  split
  · rw [Utf8.toNat_ofNat_of_lt (by omega)]
    omega
  split
  · rw [Utf8.toNat_ofNat_of_lt (by omega)]
    omega
  split <;> decide

theorem lt_ascii_of_mem_encodeBytes {data : List UInt8} {byte : UInt8}
    (hbyte : byte ∈ encodeBytes data) : byte.toNat < 0x80 := by
  have hpad : pad.toNat < 0x80 := by decide
  fun_induction encodeBytes data <;> grind [symbol_lt_ascii]

theorem length_encodeBytes (data : List UInt8) : (encodeBytes data).length % 4 = 0 := by
  fun_induction encodeBytes data with
  | case1 | case2 | case3 => simp
  | case4 a b c rest n ih =>
      simp only [List.length_cons]
      omega

/-- The text's bytes are the symbols and the padding themselves. -/
theorem encode_bytes (data : List UInt8) : Utf8.encode (encode data) = encodeBytes data := by
  rw [Utf8.encode, encode, String.toList_ofList]
  apply Utf8.encodeChars_ascii
  intro byte hbyte
  exact lt_ascii_of_mem_encodeBytes hbyte

theorem ofNat_eq {n : Nat} {byte : UInt8} (h : n % 256 = byte.toNat) : UInt8.ofNat n = byte := by
  apply UInt8.toNat_inj.mp
  rw [UInt8.toNat_ofNat', h]

/-- A symbol of the last group, before any padding. -/
theorem Tail.read_symbol (start place : Nat) {tail : Tail} (hpadding : tail.padding = 0) {v : Nat}
    (hv : v < 64) (rest : List UInt8) :
    Tail.read start place tail (symbol v :: rest) =
      Tail.read start (place + 1) { tail with values := tail.values ++ [v], last := symbol v }
        rest := by
  have hpad : (symbol v == pad) = false := beq_false_of_ne (symbol_ne_pad hv)
  simp only [Tail.read, hpad, hpadding, value?_symbol hv, Bool.false_eq_true, if_false,
    gt_iff_lt, Nat.lt_irrefl]

theorem decodeFrom_group (start : Nat) (a b c d : UInt8) :
    decodeFrom start [a, b, c, d] = Tail.read start 0 {} [a, b, c, d] >>= Tail.finish start := rfl

section Groups

variable (start : Nat) {v w x y : Nat} (hv : v < 64) (hw : w < 64) (hx : x < 64) (hy : y < 64)

include hv hw in
theorem decodeFrom_two (hbits : w % 16 = 0) :
    decodeFrom start [symbol v, symbol w, pad, pad] = .ok [UInt8.ofNat (v * 4 + w / 16)] := by
  have hread : Tail.read start 0 {} [symbol v, symbol w, pad, pad] =
      .ok { values := [v, w], last := symbol w, padding := 2, firstPad := 2 } := by
    rw [Tail.read_symbol start 0 rfl hv, Tail.read_symbol start 1 rfl hw]
    rfl
  rw [decodeFrom_group, hread, Outcome.ok_bind]
  simp only [Tail.finish, Tail.bytes, hbits, List.length_cons, List.length_nil, Nat.reduceAdd,
    Nat.reduceMod, Nat.lt_irrefl, beq_self_eq_true, if_true, if_false, ne_eq, not_true_eq_false]

include hv hw hx in
theorem decodeFrom_three (hbits : x % 4 = 0) :
    decodeFrom start [symbol v, symbol w, symbol x, pad] =
      .ok [UInt8.ofNat (v * 4 + w / 16), UInt8.ofNat (w % 16 * 16 + x / 4)] := by
  have hread : Tail.read start 0 {} [symbol v, symbol w, symbol x, pad] =
      .ok { values := [v, w, x], last := symbol x, padding := 1, firstPad := 3 } := by
    rw [Tail.read_symbol start 0 rfl hv, Tail.read_symbol start 1 rfl hw,
      Tail.read_symbol start 2 rfl hx]
    rfl
  rw [decodeFrom_group, hread, Outcome.ok_bind]
  simp only [Tail.finish, Tail.bytes, hbits, List.length_cons, List.length_nil, Nat.reduceAdd,
    Nat.reduceMod, Nat.reduceLT, beq_self_eq_true, if_true, if_false, ne_eq, not_true_eq_false]

include hv hw hx hy in
theorem decodeFrom_four :
    decodeFrom start [symbol v, symbol w, symbol x, symbol y] =
      .ok [UInt8.ofNat (v * 4 + w / 16), UInt8.ofNat (w % 16 * 16 + x / 4),
        UInt8.ofNat (x % 4 * 64 + y)] := by
  have hread : Tail.read start 0 {} [symbol v, symbol w, symbol x, symbol y] =
      .ok { values := [v, w, x, y], last := symbol y } := by
    rw [Tail.read_symbol start 0 rfl hv, Tail.read_symbol start 1 rfl hw,
      Tail.read_symbol start 2 rfl hx, Tail.read_symbol start 3 rfl hy]
    rfl
  rw [decodeFrom_group, hread, Outcome.ok_bind]
  simp only [Tail.finish, Tail.bytes, List.length_cons, List.length_nil, Nat.reduceAdd,
    Nat.reduceMod, Nat.reduceLT, if_false, ne_eq, not_true_eq_false]

include hv hw hx hy in
/-- A group that does not end the text. -/
theorem decodeFrom_cons {rest : List UInt8} (hrest : rest ≠ []) :
    decodeFrom start (symbol v :: symbol w :: symbol x :: symbol y :: rest) =
      (decodeFrom (start + 4) rest).map fun later =>
        UInt8.ofNat (v * 4 + w / 16) :: UInt8.ofNat (w % 16 * 16 + x / 4) ::
          UInt8.ofNat (x % 4 * 64 + y) :: later := by
  cases rest with
  | nil => exact absurd rfl hrest
  | cons e rest =>
      simp only [decodeFrom, value?_symbol hv, value?_symbol hw, value?_symbol hx,
        value?_symbol hy]
      cases decodeFrom (start + 4) (e :: rest) <;> rfl

end Groups

/-- Each group is read as the bytes that it was made of. -/
theorem decodeFrom_encodeBytes (start : Nat) (data : List UInt8) :
    decodeFrom start (encodeBytes data) = .ok data := by
  fun_induction encodeBytes data generalizing start with
  | case1 => rfl
  | case2 a n =>
      have ha : a.toNat < 256 := a.toNat_lt
      rw [decodeFrom_two start (by omega) (by omega) (by omega)]
      have hfirst : UInt8.ofNat (n / 4 * 4 + n % 4 * 16 / 16) = a := ofNat_eq (by omega)
      rw [hfirst]
  | case3 a b n =>
      have ha : a.toNat < 256 := a.toNat_lt
      have hb : b.toNat < 256 := b.toNat_lt
      rw [decodeFrom_three start (by omega) (by omega) (by omega) (by omega)]
      have hfirst : UInt8.ofNat (n / 1024 * 4 + n / 16 % 64 / 16) = a := ofNat_eq (by omega)
      have hsecond : UInt8.ofNat (n / 16 % 64 % 16 * 16 + n % 16 * 4 / 4) = b :=
        ofNat_eq (by omega)
      rw [hfirst, hsecond]
  | case4 a b c rest n ih =>
      have ha : a.toNat < 256 := a.toNat_lt
      have hb : b.toNat < 256 := b.toNat_lt
      have hc : c.toNat < 256 := c.toNat_lt
      have hfirst : UInt8.ofNat (n / 262144 * 4 + n / 4096 % 64 / 16) = a := ofNat_eq (by omega)
      have hsecond : UInt8.ofNat (n / 4096 % 64 % 16 * 16 + n / 64 % 64 / 4) = b :=
        ofNat_eq (by omega)
      have hthird : UInt8.ofNat (n / 64 % 64 % 4 * 64 + n % 64) = c := ofNat_eq (by omega)
      cases rest with
      | nil =>
          have hgroup := decodeFrom_four start (v := n / 262144) (w := n / 4096 % 64)
            (x := n / 64 % 64) (y := n % 64) (by omega) (by omega) (by omega) (by omega)
          rw [hfirst, hsecond, hthird] at hgroup
          exact hgroup
      | cons d rest =>
          have hmore : encodeBytes (d :: rest) ≠ [] := by
            rcases rest with _ | ⟨e, _ | ⟨f, rest⟩⟩ <;> simp [encodeBytes]
          rw [decodeFrom_cons start (by omega) (by omega) (by omega) (by omega) hmore, ih,
            hfirst, hsecond, hthird]
          rfl

/-- What is encoded can be decoded. -/
theorem decodeBytes_encodeBytes (data : List UInt8) :
    decodeBytes (encodeBytes data) = .ok data := by
  have hlength := length_encodeBytes data
  have hread := decodeFrom_encodeBytes 0 data
  unfold decodeBytes
  cases hlast : (encodeBytes data).getLast? with
  | none =>
      rw [List.getLast?_eq_none_iff] at hlast
      rw [hlast] at hread
      exact hread
  | some last => simp only [hlength, hread, Nat.reduceBEq, Bool.false_and, Bool.false_eq_true,
      if_false]

end MessageContract.Base64
