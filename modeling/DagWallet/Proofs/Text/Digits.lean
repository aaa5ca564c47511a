import DagWallet.Proofs.Node.Paging

/-!
Readers of digit texts. Hexadecimal text is read byte by byte from its UTF-8 encoding, two
digits of either case to a byte; a character beyond ASCII is never a digit, since every byte
of its encoding is at least 128. The main statements: reading the digits that `Hex.encode`
writes gives the bytes back, and a text reads as bytes exactly when it is an even number of
hexadecimal digits, the bytes written back being the text in lowercase. An unsigned decimal is
read exactly from an optional plus sign and one or more ASCII digits whose value is below the
bound.
-/

namespace DagWallet

/-! ### The UTF-8 bytes of a text -/

theorem ByteArray.toList_loop (bs : ByteArray) (i : Nat) (r : List UInt8) :
    ByteArray.toList.loop bs i r = r.reverse ++ bs.data.toList.drop i := by
  fun_induction ByteArray.toList.loop bs i r with
  | case1 i r h ih =>
    rw [ih, List.reverse_cons, List.append_assoc, List.singleton_append]
    congr 1
    have hi : i < bs.data.toList.length := by simpa using h
    rw [List.drop_eq_getElem_cons hi]
    simp [ByteArray.get!, h]
  | case2 i r h =>
    rw [List.drop_eq_nil_of_le (by simpa using h), List.append_nil]

theorem ByteArray.toList_eq (bs : ByteArray) : bs.toList = bs.data.toList := by
  simp [ByteArray.toList, ByteArray.toList_loop]

theorem String.toUTF8_toList (s : String) :
    s.toUTF8.toList = s.toList.flatMap String.utf8EncodeChar := by
  rw [ByteArray.toList_eq, String.toUTF8_eq_toByteArray, ← String.utf8Encode_toList]
  generalize s.toList = cs
  induction cs with
  | nil => simp
  | cons c cs ih =>
    rw [List.utf8Encode_cons, ByteArray.toList_data_append, ih, List.utf8Encode_singleton,
      List.toList_data_toByteArray, List.flatMap_cons]

theorem utf8EncodeChar_of_ascii {c : Char} (h : c.val ≤ 127) :
    String.utf8EncodeChar c = [c.val.toUInt8] :=
  String.utf8EncodeChar_eq_singleton (Char.utf8Size_eq_one_iff.mpr h)

theorem utf8EncodeChar_head_of_not_ascii {c : Char} (h : ¬ c.val ≤ 127) :
    ∃ b bs, String.utf8EncodeChar c = b :: bs ∧ 128 ≤ b.toNat := by
  have hpos := c.utf8Size_pos
  have hle := c.utf8Size_le_four
  have hne : c.utf8Size ≠ 1 := fun h1 => h (Char.utf8Size_eq_one_iff.mp h1)
  -- the first byte of a longer encoding has its high bits set by an `or`
  have hor : ∀ x y : UInt8, 128 ≤ y.toNat → 128 ≤ (x ||| y).toNat := fun x y hy => by
    rw [UInt8.toNat_or]
    exact Nat.le_trans hy Nat.right_le_or
  rcases (by omega : c.utf8Size = 2 ∨ c.utf8Size = 3 ∨ c.utf8Size = 4) with h2 | h3 | h4
  · exact ⟨_, _, String.utf8EncodeChar_eq_cons_cons h2, hor _ _ (by decide)⟩
  · exact ⟨_, _, String.utf8EncodeChar_eq_cons_cons_cons h3, hor _ _ (by decide)⟩
  · exact ⟨_, _, String.utf8EncodeChar_eq_cons_cons_cons_cons h4, hor _ _ (by decide)⟩

theorem String.toUTF8_toList_of_ascii {s : String} (h : ∀ c ∈ s.toList, c.val ≤ 127) :
    s.toUTF8.toList = s.toList.map (·.val.toUInt8) := by
  rw [String.toUTF8_toList]
  generalize s.toList = cs at h ⊢
  induction cs with
  | nil => rfl
  | cons c cs ih =>
    rw [List.flatMap_cons, List.map_cons, utf8EncodeChar_of_ascii (h c List.mem_cons_self),
      ih fun x hx => h x (List.mem_cons_of_mem c hx), List.singleton_append]

theorem String.ascii_of_toUTF8 {s : String} (h : ∀ b ∈ s.toUTF8.toList, b.toNat < 128) :
    ∀ c ∈ s.toList, c.val ≤ 127 := by
  intro c hc
  by_contra hbig
  obtain ⟨b, bs, henc, hb⟩ := utf8EncodeChar_head_of_not_ascii hbig
  have hmem : b ∈ s.toUTF8.toList := by
    rw [String.toUTF8_toList, List.mem_flatMap]
    exact ⟨c, hc, by rw [henc]; exact List.mem_cons_self⟩
  have := h b hmem
  omega

namespace Hex

/-! ### Hexadecimal digits -/

private theorem digit_facts : ∀ n ∈ List.range 16,
    (digit n).val ≤ 127 ∧ digitValue (digit n).val.toUInt8 = some n.toUInt8 := by
  decide

theorem digit_ascii {n : Nat} (h : n < 16) : (digit n).val ≤ 127 :=
  (digit_facts n (List.mem_range.mpr h)).1

theorem digitValue_digit {n : Nat} (h : n < 16) : digitValue (digit n).val.toUInt8 = some n.toUInt8 :=
  (digit_facts n (List.mem_range.mpr h)).2

private theorem ascii_digit_facts : ∀ n, n < 128 →
    (digitValue (Char.ofNat n).val.toUInt8).isSome = (Char.ofNat n).isHexDigit ∧
      (digitValue (Char.ofNat n).val.toUInt8).all fun v =>
        decide (v.toNat < 16 ∧ digit v.toNat = (Char.ofNat n).toLower) := by
  decide

private theorem ascii_digit_facts_of {c : Char} (h : c.val ≤ 127) :
    (digitValue c.val.toUInt8).isSome = c.isHexDigit ∧
      (digitValue c.val.toUInt8).all fun v => decide (v.toNat < 16 ∧ digit v.toNat = c.toLower) := by
  have hc : Char.ofNat c.toNat = c := Char.ofNat_toNat c
  have := ascii_digit_facts c.toNat (by
    rw [UInt32.le_iff_toNat_le] at h
    simp only [Char.toNat, UInt32.reduceToNat] at h ⊢
    omega)
  rwa [hc] at this

theorem digitValue_isSome_ascii {c : Char} (h : c.val ≤ 127) :
    (digitValue c.val.toUInt8).isSome = c.isHexDigit :=
  (ascii_digit_facts_of h).1

theorem digit_digitValue_ascii {c : Char} {v : UInt8} (h : c.val ≤ 127)
    (hv : digitValue c.val.toUInt8 = some v) : v.toNat < 16 ∧ digit v.toNat = c.toLower := by
  have := (ascii_digit_facts_of h).2
  rw [hv, Option.all_some, decide_eq_true_iff] at this
  exact this

theorem isHexDigit_of_digitValue {c : Char} {v : UInt8} (h : c.val ≤ 127)
    (hv : digitValue c.val.toUInt8 = some v) : c.isHexDigit = true := by
  rw [← digitValue_isSome_ascii h, hv]
  rfl

theorem digitValue_of_isHexDigit {c : Char} (h : c.isHexDigit = true) (ha : c.val ≤ 127) :
    ∃ v, digitValue c.val.toUInt8 = some v :=
  Option.isSome_iff_exists.mp ((digitValue_isSome_ascii ha).trans h)

theorem isHexDigit_ascii {c : Char} (h : c.isHexDigit = true) : c.val ≤ 127 := by
  simp [Char.isHexDigit, Char.isDigit, UInt32.le_iff_toNat_le] at h
  rw [UInt32.le_iff_toNat_le]
  simp
  omega

theorem digitValue_lt {b v : UInt8} (h : digitValue b = some v) : b.toNat < 128 := by
  unfold digitValue at h
  split at h
  · rename_i hb
    have := UInt8.le_iff_toNat_le.mp hb.2
    simp only [UInt8.reduceToNat] at this
    omega
  split at h
  · rename_i hb
    have := UInt8.le_iff_toNat_le.mp hb.2
    simp only [UInt8.reduceToNat] at this
    omega
  split at h
  · rename_i hb
    have := UInt8.le_iff_toNat_le.mp hb.2
    simp only [UInt8.reduceToNat] at this
    omega
  · cases h

theorem byte_halves (b : UInt8) : b / 16 * 16 + b % 16 = b := by
  rw [← UInt8.toNat_inj]
  simp only [UInt8.toNat_add, UInt8.toNat_mul, UInt8.toNat_div, UInt8.toNat_mod]
  have := b.toNat_lt
  simp
  omega

/-! ### Pairs of digits -/

/-- The two digits a byte is written as. -/
def pair (b : UInt8) : List Char := [digit (b.toNat / 16), digit (b.toNat % 16)]

theorem encode_toList (bytes : List UInt8) : (encode bytes).toList = bytes.flatMap pair :=
  String.toList_ofList

theorem length_encode (bytes : List UInt8) : (encode bytes).length = 2 * bytes.length := by
  rw [← String.length_toList, encode_toList]
  induction bytes with
  | nil => rfl
  | cons b bs ih =>
    simp only [List.flatMap_cons, List.length_append, ih, pair, List.length_cons, List.length_nil]
    omega

theorem pair_ascii (b : UInt8) : ∀ c ∈ pair b, c.val ≤ 127 := by
  have := b.toNat_lt
  simp only [pair, List.mem_cons, List.not_mem_nil, or_false]
  rintro c (rfl | rfl)
  · exact digit_ascii (by omega)
  · exact digit_ascii (by omega)

theorem decodePairs_flatMap_pair (i : Nat) (bytes : List UInt8) :
    decodePairs i ((bytes.flatMap pair).map (·.val.toUInt8)) = .ok bytes := by
  induction bytes generalizing i with
  | nil => rfl
  | cons b bs ih =>
    have hb := b.toNat_lt
    have hhi : digitValue (digit (b.toNat / 16)).val.toUInt8 = some (b / 16) := by
      rw [digitValue_digit (by omega)]
      congr 1
      rw [← UInt8.toNat_inj]
      simp [UInt8.toNat_div]
      omega
    have hlo : digitValue (digit (b.toNat % 16)).val.toUInt8 = some (b % 16) := by
      rw [digitValue_digit (by omega)]
      congr 1
      rw [← UInt8.toNat_inj]
      simp [UInt8.toNat_mod]
      omega
    simp only [List.flatMap_cons, pair, List.cons_append, List.nil_append, List.map_cons]
    rw [decodePairs, hhi, hlo]
    simp only [ih, Except.map, byte_halves]

theorem decode_encode (bytes : List UInt8) : decode (encode bytes) = .ok bytes := by
  have hascii : ∀ c ∈ (encode bytes).toList, c.val ≤ 127 := by
    rw [encode_toList]
    intro c hc
    obtain ⟨b, -, hcb⟩ := List.mem_flatMap.mp hc
    exact pair_ascii b c hcb
  have heven : ((encode bytes).toList.map (·.val.toUInt8)).length % 2 = 0 := by
    rw [List.length_map, String.length_toList, length_encode]
    omega
  rw [decode, decodeBytes, String.toUTF8_toList_of_ascii hascii, if_neg (by omega),
    encode_toList]
  exact decodePairs_flatMap_pair 0 bytes

theorem encode_injective {a b : List UInt8} (h : encode a = encode b) : a = b := by
  have := decode_encode a
  rw [h, decode_encode] at this
  exact (Except.ok.inj this).symm

theorem decodePairs_cons_cons {i : Nat} {a b hi lo : UInt8} {rest : List UInt8}
    (ha : digitValue a = some hi) (hb : digitValue b = some lo) :
    decodePairs i (a :: b :: rest) = (decodePairs (i + 2) rest).map ((hi * 16 + lo) :: ·) := by
  rw [decodePairs, ha, hb]

theorem decodePairs_cons_cons_eq_ok {i : Nat} {a b : UInt8} {rest out : List UInt8}
    (h : decodePairs i (a :: b :: rest) = .ok out) :
    ∃ hi lo out', digitValue a = some hi ∧ digitValue b = some lo ∧
      decodePairs (i + 2) rest = .ok out' ∧ out = (hi * 16 + lo) :: out' := by
  cases ha : digitValue a with
  | none => simp [decodePairs, ha] at h
  | some hi =>
    cases hb : digitValue b with
    | none => simp [decodePairs, ha, hb] at h
    | some lo =>
      rw [decodePairs_cons_cons ha hb] at h
      cases hrest : decodePairs (i + 2) rest with
      | error e => simp [hrest, Except.map] at h
      | ok out' =>
        simp only [hrest, Except.map, Except.ok.injEq] at h
        exact ⟨hi, lo, out', rfl, rfl, rfl, h.symm⟩

theorem digits_of_decodePairs : ∀ {i : Nat} {bytes out : List UInt8},
    decodePairs i bytes = .ok out → ∀ b ∈ bytes, ∃ v, digitValue b = some v
  | _, [], _, _ => nofun
  | _, [_], _, h => nomatch h
  | _, a :: b :: rest, _, h => by
    obtain ⟨hi, lo, out', ha, hb, hrest, -⟩ := decodePairs_cons_cons_eq_ok h
    intro x hx
    rcases List.mem_cons.mp hx with rfl | hx
    · exact ⟨hi, ha⟩
    rcases List.mem_cons.mp hx with rfl | hx
    · exact ⟨lo, hb⟩
    · exact digits_of_decodePairs hrest x hx

theorem decodePairs_chars : ∀ {i : Nat} {cs : List Char} {out : List UInt8},
    (∀ c ∈ cs, c.val ≤ 127) → decodePairs i (cs.map (·.val.toUInt8)) = .ok out →
      (∀ c ∈ cs, c.isHexDigit = true) ∧ out.flatMap pair = cs.map Char.toLower
  | _, [], out, _, h => by
    cases h
    exact ⟨nofun, rfl⟩
  | _, [_], _, _, h => nomatch h
  | _, c :: d :: rest, out, hascii, h => by
    have hc := hascii c List.mem_cons_self
    have hd := hascii d (List.mem_cons_of_mem c List.mem_cons_self)
    obtain ⟨hi, lo, out', hhi, hlo, hrest, rfl⟩ := decodePairs_cons_cons_eq_ok h
    obtain ⟨hiSmall, hiDigit⟩ := digit_digitValue_ascii hc hhi
    obtain ⟨loSmall, loDigit⟩ := digit_digitValue_ascii hd hlo
    obtain ⟨hrestHex, hrestOut⟩ :=
      decodePairs_chars (fun x hx => hascii x (List.mem_cons_of_mem c (List.mem_cons_of_mem d hx))) hrest
    refine ⟨?_, ?_⟩
    · intro x hx
      rcases List.mem_cons.mp hx with rfl | hx
      · exact isHexDigit_of_digitValue hc hhi
      rcases List.mem_cons.mp hx with rfl | hx
      · exact isHexDigit_of_digitValue hd hlo
      · exact hrestHex x hx
    · have hbyte : (hi * 16 + lo).toNat = hi.toNat * 16 + lo.toNat := by
        simp only [UInt8.toNat_add, UInt8.toNat_mul, UInt8.reduceToNat]
        omega
      simp only [List.flatMap_cons, pair, hrestOut, List.map_cons, List.cons_append,
        List.nil_append, hbyte]
      rw [show (hi.toNat * 16 + lo.toNat) / 16 = hi.toNat by omega,
        show (hi.toNat * 16 + lo.toNat) % 16 = lo.toNat by omega, hiDigit, loDigit]

theorem decodePairs_of_hex : ∀ {i : Nat} {cs : List Char},
    (∀ c ∈ cs, c.isHexDigit = true) → cs.length % 2 = 0 →
      ∃ out, decodePairs i (cs.map (·.val.toUInt8)) = .ok out
  | _, [], _, _ => ⟨[], rfl⟩
  | _, [_], _, h => by simp at h
  | i, c :: d :: rest, hhex, hlen => by
    have hc := hhex c List.mem_cons_self
    have hd := hhex d (List.mem_cons_of_mem c List.mem_cons_self)
    obtain ⟨hi, hhi⟩ := digitValue_of_isHexDigit hc (isHexDigit_ascii hc)
    obtain ⟨lo, hlo⟩ := digitValue_of_isHexDigit hd (isHexDigit_ascii hd)
    obtain ⟨out, hout⟩ := decodePairs_of_hex (i := i + 2)
      (fun x hx => hhex x (List.mem_cons_of_mem c (List.mem_cons_of_mem d hx)))
      (by simp only [List.length_cons] at hlen; omega)
    simp only [List.map_cons]
    rw [decodePairs_cons_cons hhi hlo, hout]
    exact ⟨_, rfl⟩

theorem decode_eq_ok_iff {s : String} {out : List UInt8} :
    decode s = .ok out ↔
      (∀ c ∈ s.toList, c.isHexDigit = true) ∧ s.length % 2 = 0 ∧ encode out = s.map Char.toLower := by
  constructor
  · intro h
    rw [decode, decodeBytes] at h
    split at h
    · cases h
    rename_i heven
    have hascii := String.ascii_of_toUTF8 fun b hb =>
      let ⟨_, hv⟩ := digits_of_decodePairs h b hb
      digitValue_lt hv
    rw [String.toUTF8_toList_of_ascii hascii] at h heven
    obtain ⟨hhex, hpairs⟩ := decodePairs_chars hascii h
    refine ⟨hhex, ?_, ?_⟩
    · rw [List.length_map, String.length_toList] at heven
      omega
    · rw [← String.toList_inj, encode_toList, hpairs, String.toList_map]
  · rintro ⟨hhex, heven, henc⟩
    have hascii : ∀ c ∈ s.toList, c.val ≤ 127 := fun c hc => isHexDigit_ascii (hhex c hc)
    obtain ⟨out', hout'⟩ := decodePairs_of_hex (i := 0) hhex (by rwa [String.length_toList])
    have hread : decode s = .ok out' := by
      rw [decode, decodeBytes, String.toUTF8_toList_of_ascii hascii, if_neg (by
        rw [List.length_map, String.length_toList]
        omega)]
      exact hout'
    -- the bytes read are written back as the same lowercase text, so they are `out`
    have henc' : encode out' = s.map Char.toLower := by
      rw [← String.toList_inj, encode_toList, String.toList_map]
      exact (decodePairs_chars hascii hout').2
    rw [hread, encode_injective (henc'.trans henc.symm)]

end Hex

/-! ### Unsigned decimals -/

namespace Decimal

theorem digitsBelow_eq_ok {bound : Nat} : ∀ {cs : List Char} {acc n : Nat},
    digitsBelow bound acc cs = .ok n →
      (∀ c ∈ cs, c.isDigit = true) ∧ n = Nat.ofDigitChars 10 cs acc ∧ (cs ≠ [] → n < bound)
  | [], acc, n, h => by
    cases h
    exact ⟨fun _ hc => absurd hc List.not_mem_nil, rfl, fun h => absurd rfl h⟩
  | c :: cs, acc, n, h => by
    rw [digitsBelow] at h
    split at h
    · rename_i hc
      dsimp only at h
      split at h
      · rename_i hlt
        obtain ⟨hdig, hval, hbound⟩ := digitsBelow_eq_ok h
        have hzero : '0'.toNat = 48 := rfl
        refine ⟨?_, ?_, fun _ => ?_⟩
        · intro x hx
          rcases List.mem_cons.mp hx with rfl | hx
          · exact hc
          · exact hdig x hx
        · rw [hval, Nat.ofDigitChars_cons, hzero, Nat.mul_comm]
        · cases cs with
          | nil =>
            rw [hval]
            exact hlt
          | cons _ _ => exact hbound (List.cons_ne_nil _ _)
      · cases h
    · cases h

theorem parseBelow_eq_ok_iff {bound n : Nat} {s : String} :
    parseBelow bound s = .ok n ↔
      ∃ ds : List Char, (s.toList = ds ∨ s.toList = '+' :: ds) ∧ ds ≠ [] ∧
        (∀ c ∈ ds, c.isDigit = true) ∧ n = Nat.ofDigitChars 10 ds 0 ∧ n < bound := by
  have hplus : '+'.isDigit = false := by decide
  constructor
  · intro h
    rw [parseBelow] at h
    split at h
    next => cases h
    next => cases h
    next _ rest hne hs =>
      obtain ⟨hdig, hval, hbound⟩ := digitsBelow_eq_ok h
      exact ⟨rest, .inr hs, hne, hdig, hval, hbound hne⟩
    next _ hnil _ _ =>
      obtain ⟨hdig, hval, hbound⟩ := digitsBelow_eq_ok h
      exact ⟨s.toList, .inl rfl, hnil, hdig, hval, hbound hnil⟩
  · rintro ⟨ds, hs, hne, hdig, rfl, hlt⟩
    have hread := digitsBelow_eq_ofDigitChars hdig hlt
    -- a text of digits has no sign in front
    have hsign : ∀ rest, ds ≠ '+' :: rest := by
      rintro rest rfl
      have := hdig '+' List.mem_cons_self
      rw [hplus] at this
      cases this
    rw [parseBelow]
    split
    next _ hs' => rcases hs with hs | hs <;> rw [hs] at hs' <;> simp_all
    next _ hs' =>
      rcases hs with hs | hs <;> rw [hs] at hs'
      · exact absurd hs' (hsign [])
      · simp_all
    next _ rest _ hs' =>
      rcases hs with hs | hs <;> rw [hs] at hs'
      · exact absurd hs' (hsign rest)
      · cases hs'
        exact hread
    next _ _ hplus' =>
      rcases hs with hs | hs
      · rw [hs]
        exact hread
      · exact absurd hs (hplus' ds)

end Decimal

end DagWallet
