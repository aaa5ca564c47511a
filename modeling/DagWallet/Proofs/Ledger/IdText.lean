import DagWallet.Proofs.Text.Digits

/-!
The text of identifiers. A block, transaction or address identifier is written as `0x` and 64
lowercase hexadecimal digits. It is read from an optional lowercase `0x` and exactly 64
hexadecimal digits of either case, and from nothing else; what is read is the identifier whose
text is those digits in lowercase, so writing and then reading gives the identifier back. An
output identifier is written as its transaction, a colon and its decimal index, and is read by
splitting at the last colon: a text without a colon misses its index, and otherwise the index
is checked before the transaction.
-/

namespace DagWallet

namespace Digest

/-- `s` is an identifier's text with the digits `t`: an optional lowercase `0x`, then 64
hexadecimal digits of either case. -/
def Text (s t : String) : Prop :=
  (s = "0x" ++ t ∨ s = t) ∧ t.length = 64 ∧ ∀ c ∈ t.toList, c.isHexDigit = true

theorem toList_length (d : Digest) : d.toList.length = 32 := Vector.length_toList

theorem toList_injective {a b : Digest} (h : a.toList = b.toList) : a = b := by
  obtain ⟨a⟩ := a
  obtain ⟨b⟩ := b
  exact congrArg Digest.mk (Vector.toList_inj.mp h)

theorem ofList?_eq_some_iff {bytes : List UInt8} {d : Digest} :
    ofList? bytes = some d ↔ d.toList = bytes := by
  unfold ofList?
  constructor
  · intro h
    split at h
    · cases h
      rfl
    · cases h
  · rintro rfl
    rw [dif_pos (by simp [toList_length])]
    exact congrArg some (toList_injective rfl)

/-- What the digits of an identifier read as, once a leading `0x` is cut off. -/
def readDigits (raw : String) : Except IdError Digest :=
  match Hex.decode raw with
  | .error e => .error (.hex e)
  | .ok bytes =>
    match ofList? bytes with
    | some d => .ok d
    | none => .error (.length bytes.length)

theorem readDigits_eq_ok_iff {raw : String} {d : Digest} :
    readDigits raw = .ok d ↔
      (∀ c ∈ raw.toList, c.isHexDigit = true) ∧ raw.length = 64 ∧
        d.toHex = "0x" ++ raw.map Char.toLower := by
  constructor
  · intro h
    unfold readDigits at h
    cases hdec : Hex.decode raw with
    | error e => simp [hdec] at h
    | ok bytes =>
      obtain ⟨hhex, -, henc⟩ := Hex.decode_eq_ok_iff.mp hdec
      cases hof : ofList? bytes with
      | none => simp [hdec, hof] at h
      | some d' =>
        simp only [hdec, hof, Except.ok.injEq] at h
        subst h
        have hbytes := ofList?_eq_some_iff.mp hof
        refine ⟨hhex, ?_, ?_⟩
        · rw [← String.length_map (f := Char.toLower), ← henc, Hex.length_encode, ← hbytes,
            toList_length]
        · rw [toHex, hbytes, henc]
  · rintro ⟨hhex, hlen, hd⟩
    have henc : Hex.encode d.toList = raw.map Char.toLower := by
      rw [toHex, ← String.toList_inj, String.toList_append, String.toList_append] at hd
      exact String.toList_inj.mp (List.append_cancel_left hd)
    have hdec : Hex.decode raw = .ok d.toList := Hex.decode_eq_ok_iff.mpr ⟨hhex, by omega, henc⟩
    rw [readDigits, hdec]
    simp only [ofList?_eq_some_iff.mpr rfl]

theorem parse_eq_readDigits (s : String) :
    parse s = readDigits (if s.startsWith "0x" then s.drop 2 else s.toSlice).copy := rfl

theorem eq_of_startsWith {s : String} (h : s.startsWith "0x" = true) :
    s = "0x" ++ (s.drop 2).copy := by
  obtain ⟨rest, hrest⟩ := String.startsWith_string_iff.mp h
  rw [← String.toList_inj, String.toList_append, String.toList_copy_drop, ← hrest]
  rfl

theorem parse_prefixed (t : String) : parse ("0x" ++ t) = readDigits t := by
  have hstart : ("0x" ++ t).startsWith "0x" = true :=
    String.startsWith_string_iff.mpr ⟨t.toList, by rw [String.toList_append]⟩
  have hdrop : (("0x" ++ t).drop 2).copy = t := by
    rw [← String.toList_inj, String.toList_copy_drop, String.toList_append]
    rfl
  rw [parse_eq_readDigits, if_pos hstart, hdrop]

theorem parse_unprefixed {s : String} (h : s.startsWith "0x" = false) : parse s = readDigits s := by
  rw [parse_eq_readDigits, if_neg (by simp [h]), String.copy_toSlice]

theorem parse_eq_ok_iff {s : String} {d : Digest} :
    parse s = .ok d ↔ ∃ t, Text s t ∧ d.toHex = "0x" ++ t.map Char.toLower := by
  constructor
  · intro h
    cases hstart : s.startsWith "0x" with
    | true =>
      have hs := eq_of_startsWith hstart
      rw [hs, parse_prefixed, readDigits_eq_ok_iff] at h
      obtain ⟨hhex, hlen, hd⟩ := h
      exact ⟨_, ⟨.inl hs, hlen, hhex⟩, hd⟩
    | false =>
      rw [parse_unprefixed hstart, readDigits_eq_ok_iff] at h
      obtain ⟨hhex, hlen, hd⟩ := h
      exact ⟨s, ⟨.inr rfl, hlen, hhex⟩, hd⟩
  · rintro ⟨t, ⟨hs | rfl, hlen, hhex⟩, hd⟩
    · rw [hs, parse_prefixed, readDigits_eq_ok_iff]
      exact ⟨hhex, hlen, hd⟩
    · -- digits alone never start with `0x`, since `x` is no digit
      have hstart : s.startsWith "0x" = false := by
        rw [String.startsWith_string_eq_false_iff]
        rintro ⟨rest, hrest⟩
        have hx := hhex 'x' (by rw [← hrest]; simp)
        exact absurd hx (by decide)
      rw [parse_unprefixed hstart, readDigits_eq_ok_iff]
      exact ⟨hhex, hlen, hd⟩

theorem parse_toHex (d : Digest) : parse d.toHex = .ok d := by
  rw [toHex, parse_prefixed, readDigits, Hex.decode_encode]
  simp only [ofList?_eq_some_iff.mpr rfl]

end Digest

theorem wrapped_eq_ok_iff {α : Type} (mk : Digest → α) (hmk : Function.Injective mk)
    {k : IdKind} {s : String} {d : Digest} :
    (match Digest.parse s with
      | .ok d => .ok (mk d)
      | .error e => .error ⟨k, s, e⟩ : Except BadId α) = .ok (mk d) ↔ Digest.parse s = .ok d := by
  cases Digest.parse s with
  | error e => simp
  | ok d' =>
    simp only [Except.ok.injEq]
    exact ⟨fun h => hmk h, fun h => congrArg mk h⟩

theorem BlockId.parse_eq_ok_iff {s : String} {x : BlockId} :
    BlockId.parse s = .ok x ↔ Digest.parse s = .ok x.digest :=
  wrapped_eq_ok_iff BlockId.mk (fun _ _ h => BlockId.mk.inj h)

theorem TransactionId.parse_eq_ok_iff {s : String} {x : TransactionId} :
    TransactionId.parse s = .ok x ↔ Digest.parse s = .ok x.digest :=
  wrapped_eq_ok_iff TransactionId.mk (fun _ _ h => TransactionId.mk.inj h)

theorem Address.parse_eq_ok_iff {s : String} {x : Address} :
    Address.parse s = .ok x ↔ Digest.parse s = .ok x.digest :=
  wrapped_eq_ok_iff Address.mk (fun _ _ h => Address.mk.inj h)

/-! ### Output identifiers -/

namespace OutputId

theorem splitIndex_append {tx idx : String} (h : ':' ∉ idx.toList) :
    splitIndex (tx ++ ":" ++ idx) = some (tx, idx) := by
  have hall : ∀ c ∈ idx.toList.reverse, decide (c ≠ ':') = true := fun c hc => by
    rw [decide_eq_true_iff]
    rintro rfl
    exact h (List.mem_reverse.mp hc)
  have hrev : (tx ++ ":" ++ idx).toList.reverse = idx.toList.reverse ++ ':' :: tx.toList.reverse := by
    simp [String.toList_append]
  unfold splitIndex
  rw [hrev, List.span_eq_takeWhile_dropWhile, List.takeWhile_append_of_pos hall,
    List.dropWhile_append_of_pos hall, List.takeWhile_cons_of_neg (by simp),
    List.dropWhile_cons_of_neg (by simp)]
  simp [String.ofList_toList]

theorem splitIndex_eq_none_iff {s : String} : splitIndex s = none ↔ ':' ∉ s.toList := by
  unfold splitIndex
  rw [List.span_eq_takeWhile_dropWhile]
  constructor
  · intro h hmem
    split at h
    · rename_i index hspan
      have hdrop : List.dropWhile (fun c => decide (c ≠ ':')) s.toList.reverse = [] := by
        simp only [Prod.mk.injEq] at hspan
        exact hspan.2
      have hcolon := List.mem_reverse.mpr hmem
      rw [← List.takeWhile_append_dropWhile (p := fun c => decide (c ≠ ':'))
        (l := s.toList.reverse), hdrop, List.append_nil] at hcolon
      have := List.mem_takeWhile_imp hcolon
      simp at this
    · cases h
  · intro h
    have hdrop : List.dropWhile (fun c => decide (c ≠ ':')) s.toList.reverse = [] := by
      rw [List.dropWhile_eq_nil_iff]
      intro c hc
      rw [decide_eq_true_iff]
      rintro rfl
      exact h (List.mem_reverse.mp hc)
    rw [hdrop]

theorem splitIndex_eq_some {s tx idx : String} (h : splitIndex s = some (tx, idx)) :
    s = tx ++ ":" ++ idx ∧ ':' ∉ idx.toList := by
  unfold splitIndex at h
  rw [List.span_eq_takeWhile_dropWhile] at h
  split at h
  · cases h
  rename_i index c rest hspan
  simp only [Prod.mk.injEq] at hspan
  obtain ⟨hindex, hdrop⟩ := hspan
  simp only [Option.some.injEq, Prod.mk.injEq] at h
  obtain ⟨rfl, rfl⟩ := h
  -- the first character the scan stops at is the colon
  have hc : c = ':' := by
    have := List.head_dropWhile_not (fun c => decide (c ≠ ':')) (l := s.toList.reverse)
      (by rw [hdrop]; exact List.cons_ne_nil c rest)
    simp only [hdrop, List.head_cons, decide_eq_false_iff_not, not_not] at this
    exact this
  subst hc
  have hsplit := List.takeWhile_append_dropWhile (p := fun c => decide (c ≠ ':'))
    (l := s.toList.reverse)
  rw [hindex, hdrop] at hsplit
  refine ⟨?_, ?_⟩
  · rw [← String.toList_inj]
    simp only [String.toList_append, String.toList_ofList]
    rw [← List.reverse_reverse s.toList, ← hsplit]
    simp
  · intro hmem
    rw [String.toList_ofList, List.mem_reverse, ← hindex] at hmem
    have := List.mem_takeWhile_imp hmem
    simp at this

theorem parse_of_no_colon {s : String} (h : ':' ∉ s.toList) :
    parse s = .error ⟨.output, s, .missingIndex⟩ := by
  rw [parse, splitIndex_eq_none_iff.mpr h]

theorem parse_split {tx idx : String} (h : ':' ∉ idx.toList) :
    parse (tx ++ ":" ++ idx) =
      match Decimal.parseU16 idx with
      | .error e => .error ⟨.output, tx ++ ":" ++ idx, .index e⟩
      | .ok i => (TransactionId.parse tx).map fun t => ⟨t, i.toUInt16⟩ := by
  have hsplit : splitIndex (tx ++ ":" ++ idx) = some (tx, idx) := splitIndex_append h
  unfold parse
  split
  next hnone =>
    rw [hsplit] at hnone
    cases hnone
  next hsome =>
    rw [hsplit] at hsome
    cases hsome
    rfl

theorem parseU16_lt {idx : String} {n : Nat} (h : Decimal.parseU16 idx = .ok n) : n < 2 ^ 16 := by
  obtain ⟨_, _, _, _, _, hlt⟩ := Decimal.parseBelow_eq_ok_iff.mp h
  exact hlt

theorem parse_eq_ok_iff {s : String} {o : OutputId} :
    parse s = .ok o ↔ ∃ tx idx, s = tx ++ ":" ++ idx ∧ ':' ∉ idx.toList ∧
      TransactionId.parse tx = .ok o.transactionId ∧ Decimal.parseU16 idx = .ok o.index.toNat := by
  constructor
  · intro h
    cases hsplit : splitIndex s with
    | none => rw [parse, hsplit] at h; cases h
    | some p =>
      obtain ⟨tx, idx⟩ := p
      obtain ⟨rfl, hcolon⟩ := splitIndex_eq_some hsplit
      rw [parse_split hcolon] at h
      cases hidx : Decimal.parseU16 idx with
      | error e => rw [hidx] at h; cases h
      | ok n =>
        rw [hidx] at h
        cases htx : TransactionId.parse tx with
        | error e => rw [htx] at h; cases h
        | ok t =>
          rw [htx] at h
          cases h
          have hn : (n.toUInt16).toNat = n := by
            have := parseU16_lt hidx
            simp only [Nat.toUInt16_eq, UInt16.toNat_ofNat']
            omega
          exact ⟨tx, idx, rfl, hcolon, htx, by rw [hn, hidx]⟩
  · rintro ⟨tx, idx, rfl, hcolon, htx, hidx⟩
    rw [parse_split hcolon, hidx]
    simp [htx, Except.map]

theorem parse_toString (o : OutputId) : parse (toString o) = .ok o := by
  have hidx : ':' ∉ (toString o.index.toNat).toList := by
    intro h
    rw [Nat.toString_eq_repr, Nat.toList_repr] at h
    have := Nat.isDigit_of_mem_toDigits (by decide) (by decide) h
    exact absurd this (by decide)
  refine parse_eq_ok_iff.mpr ⟨toString o.transactionId, toString o.index.toNat, rfl, hidx, ?_, ?_⟩
  · exact TransactionId.parse_eq_ok_iff.mpr (Digest.parse_toHex _)
  · exact Decimal.parseBelow_toString o.index.toNat_lt

end OutputId

/-- Identifier texts: each kind of hash identifier reads back from its text, and reads exactly
from an optional `0x` and 64 hexadecimal digits of either case, as the identifier written as
those digits in lowercase. An output identifier reads back from its text, and reads exactly
from a transaction text and a 16-bit decimal index split at the last colon, the index an
optional plus sign and one or more digits; a text without a colon misses its index, and the
index is refused before the transaction. -/
theorem id_text_format :
    (∀ x : BlockId, BlockId.parse (toString x) = .ok x) ∧
    (∀ x : TransactionId, TransactionId.parse (toString x) = .ok x) ∧
    (∀ x : Address, Address.parse (toString x) = .ok x) ∧
    (∀ s (x : BlockId), BlockId.parse s = .ok x ↔
      ∃ t, Digest.Text s t ∧ toString x = "0x" ++ t.map Char.toLower) ∧
    (∀ s (x : TransactionId), TransactionId.parse s = .ok x ↔
      ∃ t, Digest.Text s t ∧ toString x = "0x" ++ t.map Char.toLower) ∧
    (∀ s (x : Address), Address.parse s = .ok x ↔
      ∃ t, Digest.Text s t ∧ toString x = "0x" ++ t.map Char.toLower) ∧
    (∀ o : OutputId, OutputId.parse (toString o) = .ok o) ∧
    (∀ s (o : OutputId), OutputId.parse s = .ok o ↔ ∃ tx idx, s = tx ++ ":" ++ idx ∧
      ':' ∉ idx.toList ∧ TransactionId.parse tx = .ok o.transactionId ∧
      Decimal.parseU16 idx = .ok o.index.toNat) ∧
    (∀ idx n, Decimal.parseU16 idx = .ok n ↔
      ∃ ds : List Char, (idx.toList = ds ∨ idx.toList = '+' :: ds) ∧ ds ≠ [] ∧
        (∀ c ∈ ds, c.isDigit = true) ∧ n = Nat.ofDigitChars 10 ds 0 ∧ n < 2 ^ 16) ∧
    (∀ s, ':' ∉ s.toList → OutputId.parse s = .error ⟨.output, s, .missingIndex⟩) ∧
    (∀ tx idx e, ':' ∉ idx.toList → Decimal.parseU16 idx = .error e →
      OutputId.parse (tx ++ ":" ++ idx) = .error ⟨.output, tx ++ ":" ++ idx, .index e⟩) ∧
    (∀ tx idx n e, ':' ∉ idx.toList → Decimal.parseU16 idx = .ok n →
      TransactionId.parse tx = .error e → OutputId.parse (tx ++ ":" ++ idx) = .error e) := by
  refine ⟨fun x => BlockId.parse_eq_ok_iff.mpr (Digest.parse_toHex _),
    fun x => TransactionId.parse_eq_ok_iff.mpr (Digest.parse_toHex _),
    fun x => Address.parse_eq_ok_iff.mpr (Digest.parse_toHex _),
    fun _ _ => BlockId.parse_eq_ok_iff.trans Digest.parse_eq_ok_iff,
    fun _ _ => TransactionId.parse_eq_ok_iff.trans Digest.parse_eq_ok_iff,
    fun _ _ => Address.parse_eq_ok_iff.trans Digest.parse_eq_ok_iff,
    OutputId.parse_toString, fun _ _ => OutputId.parse_eq_ok_iff,
    fun _ _ => Decimal.parseBelow_eq_ok_iff, fun _ h => OutputId.parse_of_no_colon h, ?_, ?_⟩
  · intro tx idx e hcolon hidx
    rw [OutputId.parse_split hcolon, hidx]
  · intro tx idx n e hcolon hidx htx
    rw [OutputId.parse_split hcolon, hidx]
    simp only [htx, Except.map]

/-- The three refusals of an output identifier, one text each: no colon, a sign without digits
after the colon in front of a bad transaction, and a good index after a bad transaction. -/
theorem output_id_refusals :
    (':' ∉ "ab".toList ∧ OutputId.parse "ab" = .error ⟨.output, "ab", .missingIndex⟩) ∧
    (':' ∉ "+".toList ∧ Decimal.parseU16 "+" = .error .invalidDigit ∧
      OutputId.parse ("0xzz" ++ ":" ++ "+") =
        .error ⟨.output, "0xzz" ++ ":" ++ "+", .index .invalidDigit⟩) ∧
    (':' ∉ "7".toList ∧ Decimal.parseU16 "7" = .ok 7 ∧
      TransactionId.parse "0xzz" = .error ⟨.transaction, "0xzz", .hex (.invalidChar 'z' 0)⟩ ∧
      OutputId.parse ("0xzz" ++ ":" ++ "7") =
        .error ⟨.transaction, "0xzz", .hex (.invalidChar 'z' 0)⟩) := by
  have hab : ':' ∉ "ab".toList := by decide
  have hplus : ':' ∉ "+".toList := by decide
  have hseven : ':' ∉ "7".toList := by decide
  have hsign : Decimal.parseU16 "+" = .error .invalidDigit := by decide
  have hindex : Decimal.parseU16 "7" = .ok 7 := by decide
  have htx : TransactionId.parse "0xzz" = .error ⟨.transaction, "0xzz", .hex (.invalidChar 'z' 0)⟩ := by
    cbv
  exact ⟨⟨hab, id_text_format.2.2.2.2.2.2.2.2.2.1 _ hab⟩,
    ⟨hplus, hsign, id_text_format.2.2.2.2.2.2.2.2.2.2.1 _ _ _ hplus hsign⟩,
    ⟨hseven, hindex, htx, id_text_format.2.2.2.2.2.2.2.2.2.2.2 _ _ _ _ hseven hindex htx⟩⟩

end DagWallet
