import Mathlib
import DagWallet.Wallet.Signer

/-!
The unlocks of a signed essence. Entries that do not name the essence's inputs are refused
first; then the first input whose output is owned by another address than its key path's is
refused; otherwise each input gets a signature of the essence hash when its owner comes there
first, and a reference to the owner's first position when it came before. The loop keeps the
first positions seen so far as 16-bit numbers, so a first position past 65535 is referred to by
its remainder: the references are exact for at most 65537 inputs.

The key derivation is a given function here: the loop reads a path's keys through `keys`, and
signing derives them once per path and looks them up.
-/

namespace DagWallet

namespace Seed

/-! ### First positions -/

section First

variable {α : Type} [DecidableEq α] {l : List α} {a : α} {j : Nat}

theorem getElem?_ne_of_lt_idxOf : ∀ {l : List α} {k : Nat}, k < l.idxOf a → l[k]? ≠ some a
  | [], k, h => by simp at h
  | b :: l, k, h => by
    by_cases hb : b = a
    · rw [List.idxOf_cons_eq l hb] at h
      omega
    · rw [List.idxOf_cons_ne l hb] at h
      cases k with
      | zero => simpa using hb
      | succ k =>
        rw [List.getElem?_cons_succ]
        exact getElem?_ne_of_lt_idxOf (Nat.lt_of_succ_lt_succ h)

theorem idxOf_eq_of_first (hj : l[j]? = some a) (hbefore : ∀ k < j, l[k]? ≠ some a) :
    l.idxOf a = j := by
  have ha : a ∈ l := List.mem_of_getElem? hj
  rcases Nat.lt_trichotomy (l.idxOf a) j with hlt | heq | hgt
  · exact absurd (List.getElem?_idxOf ha) (hbefore _ hlt)
  · exact heq
  · exact absurd hj (getElem?_ne_of_lt_idxOf hgt)

omit [DecidableEq α] in
theorem mem_take_iff {i : Nat} : a ∈ l.take i ↔ ∃ j < i, l[j]? = some a := by
  rw [List.mem_iff_getElem?]
  constructor
  · rintro ⟨j, hj⟩
    rw [List.getElem?_take] at hj
    split at hj
    · exact ⟨j, ‹_›, hj⟩
    · cases hj
  · rintro ⟨j, hji, hj⟩
    exact ⟨j, by rw [List.getElem?_take, if_pos hji, hj]⟩

end First

/-! ### The unlock loop -/

section Loop

variable (keys : SigningInput → PathKeys) (hash : List UInt8)

/-- The input's output is owned by another address than its key path's. -/
def mismatched (d : SigningInput) : Bool := d.output.owner? != some (keys d).owner

/-- The unlock of `d` after inputs whose owners are `before`: a reference to its owner's first
position there, as a 16-bit number, or a signature of the hash when its owner is new. -/
def unlockAfter (before : List Address) (d : SigningInput) : Unlock :=
  if (keys d).owner ∈ before then .reference (before.idxOf (keys d).owner).toUInt16
  else .signature (keys d).publicKey (Ed25519.sign (keys d).secret hash)

/-- Each input's unlock after the owners of the inputs before it. -/
def unlocksAfter : List Address → List SigningInput → List Unlock
  | _, [] => []
  | before, d :: rest => unlockAfter keys hash before d :: unlocksAfter (before ++ [(keys d).owner]) rest

/-- `signed` gives each owner among `before` its first position there, as a 16-bit number. -/
def FirstPositions (signed : List (Address × UInt16)) (before : List Address) : Prop :=
  ∀ a, signed.lookup a = if a ∈ before then some (before.idxOf a).toUInt16 else none

variable {keys hash}

theorem firstPositions_nil : FirstPositions [] [] := fun _ => rfl

theorem FirstPositions.seen {signed : List (Address × UInt16)} {before : List Address} {a : Address}
    (h : FirstPositions signed before) (ha : a ∈ before) : FirstPositions signed (before ++ [a]) := by
  intro b
  rw [h b]
  by_cases hb : b ∈ before
  · rw [if_pos hb, if_pos (List.mem_append_left _ hb), List.idxOf_append_of_mem hb]
  · have hba : b ≠ a := fun e => hb (e ▸ ha)
    rw [if_neg hb, if_neg (by simp [hb, hba])]

theorem FirstPositions.add {signed : List (Address × UInt16)} {before : List Address} {a : Address}
    (h : FirstPositions signed before) (ha : a ∉ before) :
    FirstPositions (signed ++ [(a, before.length.toUInt16)]) (before ++ [a]) := by
  intro b
  rw [List.lookup_append, h b]
  by_cases hb : b ∈ before
  · rw [if_pos hb, if_pos (List.mem_append_left _ hb), List.idxOf_append_of_mem hb]
    rfl
  · rw [if_neg hb, Option.none_or]
    by_cases hba : b = a
    · subst hba
      rw [if_pos (List.mem_append_right _ (List.mem_singleton_self _)),
        List.idxOf_append_of_notMem hb, List.idxOf_cons_self, Nat.add_zero]
      simp
    · rw [if_neg (by simp [hb, hba])]
      simp [hba]

theorem unlocks_of_mismatched {d : SigningInput} (h : mismatched keys d = true) (pos : Nat)
    (signed : List (Address × UInt16)) (done : List Unlock) (rest : List SigningInput) :
    unlocks keys hash pos signed done (d :: rest) =
      .error (.addressMismatch d.outputId d.account d.index) := by
  rw [unlocks, if_pos (show (d.output.owner? != some (keys d).owner) = true from h)]

theorem unlocks_of_signed {d : SigningInput} {first : UInt16} {signed : List (Address × UInt16)}
    (h : mismatched keys d = false) (hs : signed.lookup (keys d).owner = some first) (pos : Nat)
    (done : List Unlock) (rest : List SigningInput) :
    unlocks keys hash pos signed done (d :: rest) =
      unlocks keys hash (pos + 1) signed (.reference first :: done) rest := by
  rw [unlocks, if_neg (by simpa [mismatched] using h)]
  simp only [hs]

theorem unlocks_of_unsigned {d : SigningInput} {signed : List (Address × UInt16)}
    (h : mismatched keys d = false) (hs : signed.lookup (keys d).owner = none) (pos : Nat)
    (done : List Unlock) (rest : List SigningInput) :
    unlocks keys hash pos signed done (d :: rest) =
      unlocks keys hash (pos + 1) (signed ++ [((keys d).owner, pos.toUInt16)])
        (.signature (keys d).publicKey (Ed25519.sign (keys d).secret hash) :: done) rest := by
  rw [unlocks, if_neg (by simpa [mismatched] using h)]
  simp only [hs]

theorem unlocks_of_find? : ∀ {rest : List SigningInput} {d : SigningInput} (pos : Nat)
    (signed : List (Address × UInt16)) (done : List Unlock), rest.find? (mismatched keys) = some d →
    unlocks keys hash pos signed done rest = .error (.addressMismatch d.outputId d.account d.index)
  | [], _, _, _, _, h => by cases h
  | d' :: rest, d, pos, signed, done, h => by
    cases hm : mismatched keys d' with
    | true =>
      rw [List.find?_cons_of_pos hm] at h
      cases h
      exact unlocks_of_mismatched hm pos signed done rest
    | false =>
      rw [List.find?_cons_of_neg (by simp [hm])] at h
      cases hs : signed.lookup (keys d').owner with
      | some first =>
        rw [unlocks_of_signed hm hs]
        exact unlocks_of_find? _ _ _ h
      | none =>
        rw [unlocks_of_unsigned hm hs]
        exact unlocks_of_find? _ _ _ h

theorem unlocks_of_matched : ∀ (rest : List SigningInput) (before : List Address)
    (signed : List (Address × UInt16)) (done : List Unlock), FirstPositions signed before →
    (∀ d ∈ rest, mismatched keys d = false) →
    unlocks keys hash before.length signed done rest =
      .ok (done.reverse ++ unlocksAfter keys hash before rest)
  | [], _, _, done, _, _ => by simp [unlocks, unlocksAfter]
  | d :: rest, before, signed, done, h, hm => by
    have hd := hm d List.mem_cons_self
    have hrest : ∀ d ∈ rest, mismatched keys d = false := fun d' hd' =>
      hm d' (List.mem_cons_of_mem d hd')
    have hlen : before.length + 1 = (before ++ [(keys d).owner]).length := by simp
    by_cases ha : (keys d).owner ∈ before
    · -- the owner came before: a reference to its first position
      have hs := h (keys d).owner
      rw [if_pos ha] at hs
      rw [unlocks_of_signed hd hs, hlen, unlocks_of_matched rest _ signed _ (h.seen ha) hrest]
      simp [unlocksAfter, unlockAfter, ha]
    · -- a new owner: a signature, and its position is kept
      have hs := h (keys d).owner
      rw [if_neg ha] at hs
      rw [unlocks_of_unsigned hd hs, hlen, unlocks_of_matched rest _ _ _ (h.add ha) hrest]
      simp [unlocksAfter, unlockAfter, ha]

theorem length_unlocksAfter : ∀ (before : List Address) (rest : List SigningInput),
    (unlocksAfter keys hash before rest).length = rest.length
  | _, [] => rfl
  | before, d :: rest => by
    simp [unlocksAfter, length_unlocksAfter (before ++ [(keys d).owner]) rest]

theorem getElem?_unlocksAfter : ∀ (before : List Address) (rest : List SigningInput) (k : Nat),
    (unlocksAfter keys hash before rest)[k]? =
      rest[k]?.map (unlockAfter keys hash (before ++ (rest.take k).map fun d => (keys d).owner))
  | _, [], _ => rfl
  | before, d :: rest, 0 => by simp [unlocksAfter]
  | before, d :: rest, k + 1 => by
    rw [unlocksAfter, List.getElem?_cons_succ, getElem?_unlocksAfter, List.getElem?_cons_succ,
      List.take_succ_cons, List.map_cons, List.append_assoc, List.singleton_append]

theorem unlocks_start (keys : SigningInput → PathKeys) (hash : List UInt8) (inputs : List SigningInput) :
    unlocks keys hash 0 [] [] inputs =
      match inputs.find? (mismatched keys) with
      | some d => .error (.addressMismatch d.outputId d.account d.index)
      | none => .ok (unlocksAfter keys hash [] inputs) := by
  split
  · next d hd => exact unlocks_of_find? 0 [] [] hd
  · next hnone =>
    have hm : ∀ d ∈ inputs, mismatched keys d = false := fun d hd => by
      simpa using List.find?_eq_none.mp hnone d hd
    exact unlocks_of_matched inputs [] [] [] firstPositions_nil hm

/-! ### Positions -/

variable {os : List Address} {i j : Nat} {d : SigningInput}

theorem unlockAfter_of_new (h : ∀ j < i, os[j]? ≠ some (keys d).owner) :
    unlockAfter keys hash (os.take i) d =
      .signature (keys d).publicKey (Ed25519.sign (keys d).secret hash) := by
  have hnot : (keys d).owner ∉ os.take i := fun hmem => by
    obtain ⟨j, hj, hget⟩ := mem_take_iff.mp hmem
    exact h j hj hget
  rw [unlockAfter, if_neg hnot]

theorem unlockAfter_of_first (hji : j < i) (hj : os[j]? = some (keys d).owner)
    (hbefore : ∀ k < j, os[k]? ≠ some (keys d).owner) :
    unlockAfter keys hash (os.take i) d = .reference j.toUInt16 := by
  have hmem : (keys d).owner ∈ os.take i := mem_take_iff.mpr ⟨j, hji, hj⟩
  have hidx : (os.take i).idxOf (keys d).owner = j := by
    refine idxOf_eq_of_first (by rw [List.getElem?_take, if_pos hji, hj]) fun k hk => ?_
    rw [List.getElem?_take, if_pos (Nat.lt_trans hk hji)]
    exact hbefore k hk
  rw [unlockAfter, if_pos hmem, hidx]

theorem unlockAfter_reference {r : UInt16} (h : unlockAfter keys hash (os.take i) d = .reference r) :
    ∃ j < i, r = j.toUInt16 ∧ os[j]? = some (keys d).owner ∧
      ∀ k < j, os[k]? ≠ some (keys d).owner := by
  unfold unlockAfter at h
  split at h
  · next hmem =>
    cases h
    have hlt : (os.take i).idxOf (keys d).owner < i :=
      Nat.lt_of_lt_of_le (List.idxOf_lt_length_iff.mpr hmem) (List.length_take_le _ _)
    have hget := List.getElem?_idxOf hmem
    rw [List.getElem?_take, if_pos hlt] at hget
    refine ⟨_, hlt, rfl, hget, fun k hk => ?_⟩
    have hne := getElem?_ne_of_lt_idxOf hk
    rwa [List.getElem?_take, if_pos (Nat.lt_trans hk hlt)] at hne
  · cases h

theorem getElem?_unlocksAfter_nil (inputs : List SigningInput) (i : Nat) :
    (unlocksAfter keys hash [] inputs)[i]? =
      inputs[i]?.map (unlockAfter keys hash ((inputs.map fun d => (keys d).owner).take i)) := by
  rw [getElem?_unlocksAfter, List.nil_append, List.map_take]

theorem unlocksAfter_at (keys : SigningInput → PathKeys) (hash : List UInt8)
    (inputs : List SigningInput) (hd : inputs[i]? = some d) :
    let os := inputs.map fun d => (keys d).owner
    let us := unlocksAfter keys hash [] inputs
    ((∀ j < i, os[j]? ≠ some (keys d).owner) →
      us[i]? = some (.signature (keys d).publicKey (Ed25519.sign (keys d).secret hash))) ∧
    (∀ j < i, os[j]? = some (keys d).owner → (∀ k < j, os[k]? ≠ some (keys d).owner) →
      us[i]? = some (.reference j.toUInt16)) ∧
    (∀ r, us[i]? = some (.reference r) → ∃ j < i, r = j.toUInt16 ∧
      ∃ d' : SigningInput, inputs[j]? = some d' ∧ (keys d').owner = (keys d).owner ∧
        us[j]? = some (.signature (keys d').publicKey (Ed25519.sign (keys d').secret hash))) := by
  intro os us
  have hus : us[i]? = some (unlockAfter keys hash (os.take i) d) := by
    rw [getElem?_unlocksAfter_nil, hd, Option.map_some]
  refine ⟨fun hnew => by rw [hus, unlockAfter_of_new hnew],
    fun j hji hj hbefore => by rw [hus, unlockAfter_of_first hji hj hbefore], fun r hr => ?_⟩
  rw [hus, Option.some_inj] at hr
  obtain ⟨j, hji, rfl, hj, hbefore⟩ := unlockAfter_reference hr
  -- the first position holds an input of the same owner, and that input got the signature
  rw [List.getElem?_map] at hj
  obtain ⟨d', hd', hown⟩ := Option.map_eq_some_iff.mp hj
  have hus' : us[j]? = some (unlockAfter keys hash (os.take j) d') := by
    rw [getElem?_unlocksAfter_nil, hd', Option.map_some]
  rw [unlockAfter_of_new (fun k hk => hown ▸ hbefore k hk)] at hus'
  exact ⟨j, hji, rfl, d', hd', hown, hus'⟩

end Loop

/-! ### Keys derived once per path -/

section Keys

variable {seed : Vector UInt8 32}

/-- Every entry of a key table holds what its path derives. -/
def Derived (seed : Vector UInt8 32) (table : List ((UInt32 × UInt32) × PathKeys)) : Prop :=
  ∀ e ∈ table, e.2 = pathKeys seed e.1.1 e.1.2

theorem derived_keyTable : ∀ (table : List ((UInt32 × UInt32) × PathKeys)) (inputs : List SigningInput),
    Derived seed table → Derived seed (keyTable seed table inputs)
  | _, [], h => h
  | table, d :: rest, h => by
    rw [keyTable]
    split
    · exact derived_keyTable table rest h
    · refine derived_keyTable _ rest fun e he => ?_
      rcases List.mem_cons.mp he with rfl | he
      · rfl
      · exact h e he

theorem keysIn_of_derived {table : List ((UInt32 × UInt32) × PathKeys)} (h : Derived seed table)
    (d : SigningInput) : keysIn seed table d = pathKeys seed d.account d.index := by
  unfold keysIn
  split
  · next k hk =>
    obtain ⟨l₁, l₂, rfl, -⟩ := List.lookup_eq_some_iff.mp hk
    exact h _ (List.mem_append_right _ List.mem_cons_self)
  · rfl

/-- The keys each input's path derives. -/
def keysOf (seed : Vector UInt8 32) (d : SigningInput) : PathKeys := pathKeys seed d.account d.index

@[simp] theorem keysOf_owner (d : SigningInput) :
    (keysOf seed d).owner = address seed d.account d.index := by
  simp only [keysOf, pathKeys, address, publicKey]

@[simp] theorem keysOf_publicKey (d : SigningInput) :
    (keysOf seed d).publicKey = publicKey seed d.account d.index := by
  simp only [keysOf, pathKeys, publicKey]

@[simp] theorem keysOf_secret (d : SigningInput) :
    (keysOf seed d).secret = secretKey seed d.account d.index := by
  simp only [keysOf, pathKeys]

theorem keysIn_keyTable (inputs : List SigningInput) :
    keysIn seed (keyTable seed [] inputs) = keysOf seed :=
  funext (keysIn_of_derived (derived_keyTable [] inputs fun _ h => absurd h List.not_mem_nil))

end Keys

theorem entries_iff : ∀ (inputs : List SigningInput) (ids : List OutputId),
    (inputs.length = ids.length ∧ ((inputs.zip ids).all fun p => p.1.outputId == p.2) = true) ↔
      inputs.map (·.outputId) = ids
  | [], [] => by simp
  | [], _ :: _ => by simp
  | _ :: _, [] => by simp
  | d :: rest, id :: ids => by
    simp only [List.length_cons, Nat.add_right_cancel_iff, List.zip_cons_cons, List.all_cons,
      Bool.and_eq_true, beq_iff_eq, List.map_cons, List.cons.injEq]
    rw [← entries_iff rest ids]
    exact and_left_comm

theorem entriesMatch_iff (e : Essence) (inputs : List SigningInput) :
    entriesMatch e inputs = true ↔ inputs.map (·.outputId) = e.inputs := by
  rw [← entries_iff, entriesMatch, Bool.and_eq_true, beq_iff_eq]

theorem sign_eq (seed : Vector UInt8 32) (e : Essence) (inputs : List SigningInput) :
    sign seed e inputs =
      if inputs.map (·.outputId) = e.inputs then
        unlocks (keysOf seed) e.hash.toList 0 [] [] inputs
      else .error (.inputMismatch inputs.length e.inputs.length) := by
  rw [sign, keysIn_keyTable]
  by_cases h : inputs.map (·.outputId) = e.inputs
  · rw [if_pos ((entriesMatch_iff e inputs).mpr h), if_pos h]
  · rw [if_neg (mt (entriesMatch_iff e inputs).mp h), if_neg h]

/-- Signing an essence. Entries whose output identifiers are not the essence's inputs, in order,
are refused with an input mismatch, and nothing else is; with matching entries, the first input
whose output is not owned by the address of its key path is refused with an address mismatch;
otherwise there is one unlock per input. An input whose address comes there first gets its key
path's public key and a signature of the essence hash; a later one gets a reference to the
address's first position `j`, kept as the 16-bit number `j.toUInt16`. So a reference at position
`i` names, modulo `2 ^ 16`, an earlier position that holds a signature for the same address, and
names it exactly for at most 65537 inputs. -/
theorem sign_refuses_or_unlocks (seed : Vector UInt8 32) (e : Essence) (inputs : List SigningInput) :
    let os := inputs.map fun d => address seed d.account d.index
    let signed := fun d : SigningInput => Unlock.signature (publicKey seed d.account d.index)
      (Ed25519.sign (secretKey seed d.account d.index) e.hash.toList)
    (sign seed e inputs = .error (.inputMismatch inputs.length e.inputs.length) ↔
      inputs.map (·.outputId) ≠ e.inputs) ∧
    (∀ (i : Nat) (d : SigningInput), inputs[i]? = some d → inputs.map (·.outputId) = e.inputs →
      d.output.owner? ≠ some (address seed d.account d.index) →
      (∀ j < i, ∀ d' : SigningInput, inputs[j]? = some d' →
        d'.output.owner? = some (address seed d'.account d'.index)) →
      sign seed e inputs = .error (.addressMismatch d.outputId d.account d.index)) ∧
    (inputs.map (·.outputId) = e.inputs →
      (∀ d ∈ inputs, d.output.owner? = some (address seed d.account d.index)) →
      ∃ us, sign seed e inputs = .ok us ∧ us.length = inputs.length ∧
        ∀ (i : Nat) (d : SigningInput), inputs[i]? = some d →
          ((∀ j < i, os[j]? ≠ some (address seed d.account d.index)) → us[i]? = some (signed d)) ∧
          (∀ j < i, os[j]? = some (address seed d.account d.index) →
            (∀ k < j, os[k]? ≠ some (address seed d.account d.index)) →
            us[i]? = some (.reference j.toUInt16)) ∧
          (∀ r, us[i]? = some (.reference r) → ∃ j < i, r = j.toUInt16 ∧
            (∃ d' : SigningInput, inputs[j]? = some d' ∧
              address seed d'.account d'.index = address seed d.account d.index ∧
              us[j]? = some (signed d')) ∧
            (inputs.length ≤ 65537 → r.toNat = j))) := by
  intro os signed
  refine ⟨⟨fun h hmap => ?_, fun hne => by rw [sign_eq, if_neg hne]⟩, ?_, ?_⟩
  · -- with matching entries the loop answers an address mismatch or unlocks
    rw [sign_eq, if_pos hmap, unlocks_start] at h
    split at h <;> cases h
  · intro i d hd hmap hbad hgood
    obtain ⟨hi, rfl⟩ := List.getElem?_eq_some_iff.mp hd
    have hfind : inputs.find? (mismatched (keysOf seed)) = some inputs[i] := by
      refine List.find?_eq_some_iff_getElem.mpr ⟨by simpa [mismatched] using hbad, i, hi, rfl,
        fun j hj => ?_⟩
      simpa [mismatched] using hgood j hj inputs[j] (List.getElem?_eq_getElem _)
    rw [sign_eq, if_pos hmap, unlocks_start, hfind]
  · intro hmap hgood
    have hnone : inputs.find? (mismatched (keysOf seed)) = none :=
      List.find?_eq_none.mpr fun d hd => by simpa [mismatched] using hgood d hd
    have hsign : sign seed e inputs = .ok (unlocksAfter (keysOf seed) e.hash.toList [] inputs) := by
      rw [sign_eq, if_pos hmap, unlocks_start, hnone]
    refine ⟨_, hsign, length_unlocksAfter _ _, fun i d hd => ?_⟩
    obtain ⟨hnew, hfirst, href⟩ := unlocksAfter_at (keysOf seed) e.hash.toList inputs hd
    simp only [keysOf_owner, keysOf_publicKey, keysOf_secret] at hnew hfirst href
    refine ⟨hnew, hfirst, fun r hr => ?_⟩
    obtain ⟨j, hji, hr, hsig⟩ := href r hr
    have hi : i < inputs.length := (List.getElem?_eq_some_iff.mp hd).1
    refine ⟨j, hji, hr, hsig, fun hlen => ?_⟩
    have hj16 : j < 2 ^ 16 := by omega
    rw [hr, Nat.toUInt16, UInt16.toNat_ofNat', Nat.mod_eq_of_lt hj16]

/-- Past 65536 inputs the positions wrap around: after 65536 inputs of one address come two of
another, which comes first at position 65536, and the last input refers to position 0. -/
theorem reference_wraps_past_65536 :
    let A : Address := ⟨⟨Vector.replicate 32 1⟩⟩
    let B : Address := ⟨⟨Vector.replicate 32 2⟩⟩
    let o : OutputId := ⟨⟨⟨Vector.replicate 32 0⟩⟩, 0⟩
    let keys := fun d : SigningInput =>
      (⟨[], Vector.replicate 32 0, if d.index = 0 then A else B⟩ : PathKeys)
    let inputs := List.replicate 65536 (⟨o, .basic 1 A, 0, 0⟩ : SigningInput) ++
      [⟨o, .basic 1 B, 0, 1⟩, ⟨o, .basic 1 B, 0, 1⟩]
    let os := inputs.map fun d => (keys d).owner
    os[65536]? = some B ∧ (∀ k < 65536, os[k]? ≠ some B) ∧
      ∃ us, unlocks keys [] 0 [] [] inputs = .ok us ∧ us[65537]? = some (.reference 0) := by
  intro A B o keys inputs os
  have hAB : A ≠ B := by decide
  have hos : os = List.replicate 65536 A ++ [B, B] := by
    simp only [os, inputs, List.map_append, List.map_replicate, List.map_cons, List.map_nil]
    rfl
  have hB : os[65536]? = some B := by
    rw [hos, List.getElem?_append_right (Nat.le_of_eq List.length_replicate),
      List.length_replicate]
    rfl
  have hA : ∀ k < 65536, os[k]? ≠ some B := fun k hk => by
    rw [hos, List.getElem?_append_left (List.length_replicate ▸ hk),
      List.getElem?_replicate, if_pos hk]
    exact fun h => hAB (Option.some_inj.mp h)
  have hm : ∀ d ∈ inputs, mismatched keys d = false := by
    intro d hd
    rcases List.mem_append.mp hd with hd | hd
    · rw [List.eq_of_mem_replicate hd]
      rfl
    · rcases List.mem_cons.mp hd with rfl | hd
      · rfl
      · rw [List.mem_singleton.mp hd]
        rfl
  have hnone : inputs.find? (mismatched keys) = none :=
    List.find?_eq_none.mpr fun d hd => by simp [hm d hd]
  have hstart := unlocks_start keys [] inputs
  rw [hnone] at hstart
  refine ⟨hB, hA, _, hstart, ?_⟩
  have hlast : inputs[65537]? = some ⟨o, .basic 1 B, 0, 1⟩ := by
    show (List.replicate 65536 _ ++ _)[65537]? = _
    rw [List.getElem?_append_right
      (Nat.le_succ_of_le (Nat.le_of_eq List.length_replicate)), List.length_replicate]
    rfl
  have h0 : (65536 : Nat).toUInt16 = 0 := by decide
  rw [getElem?_unlocksAfter_nil, hlast, Option.map_some,
    unlockAfter_of_first (j := 65536) (by omega) hB hA, h0]

end Seed

end DagWallet
