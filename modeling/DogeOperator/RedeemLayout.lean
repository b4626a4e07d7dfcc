import DogeOperator.Delimited
import DogeOperator.Redeem

/-! The bytes of a redeem script, and what they determine: chain, contract, recipient, threshold and
the ordered keys can all be read back, so that no two deposits share a script by accident. -/
namespace DogeOperator.Redeem
open Bytes Outcome

/-- `OP_1` to `OP_16` -/
def opN (n : UInt8) : UInt8 := 0x50 + n

/-- Chain, contract, `OP_2DROP`, recipient, `OP_DROP`, `OP_m`, the keys, `OP_n`, `OP_CHECKMULTISIG`. -/
def scriptLayout (emitterChain : UInt16) (emitterContract recipient : FixedBytes 32) (m : UInt8)
    (pubkeys : List (FixedBytes 33)) : ByteString :=
  (0x02 :: u16Be emitterChain) ++ (0x20 :: emitterContract.toList) ++ [op2Drop] ++
    (0x20 :: recipient.toList) ++ [opDrop] ++ [opN m] ++
    pubkeys.flatMap (fun pk => 0x21 :: pk.toList) ++ [opN (UInt8.ofNat pubkeys.length)] ++
    [opCheckmultisig]

/-- Short data is pushed behind one length byte. -/
theorem pushData_of_length {data : ByteString} {n : ℕ} (h : data.length = n) (hn : n ≤ 0x4b) :
    pushData data = UInt8.ofNat n :: data := by
  rw [pushData, pushHeader, h, if_pos hn]
  rfl

theorem pushInt_small {n : UInt8} (h : 1 ≤ n.toNat) (h' : n.toNat ≤ 16) :
    pushInt (Int64.ofNat n.toNat) = [opN n] := by
  have hall : ∀ k : Fin 17, 1 ≤ k.val →
      pushInt (Int64.ofNat k.val) = [opN (UInt8.ofNat k.val)] := by decide +kernel
  have hn := hall ⟨n.toNat, by omega⟩ h
  rwa [UInt8.ofNat_toNat] at hn

variable {chain chain' : UInt16} {contract contract' recipient recipient' : FixedBytes 32}
  {m m' : UInt8} {pubkeys pubkeys' : List (FixedBytes 33)} {script : ByteString}

theorem toNat_ofNat_length (h : QuorumValid m pubkeys) :
    (UInt8.ofNat pubkeys.length).toNat = pubkeys.length := by
  have hlen := h.1
  rw [UInt8.toNat_ofNat', Nat.mod_eq_of_lt]
  unfold maxPubkeys at hlen
  omega

theorem scriptBytes_eq_layout (h : QuorumValid m pubkeys) :
    scriptBytes chain contract recipient m pubkeys =
      scriptLayout chain contract recipient m pubkeys := by
  have hcount := toNat_ofNat_length h
  obtain ⟨hlen, hm, hmn⟩ := h
  unfold maxPubkeys at hlen
  have hkey : ∀ pk : FixedBytes 33, pushData pk.toList = 0x21 :: pk.toList :=
    fun pk => pushData_of_length pk.toList_length (by decide)
  rw [scriptBytes, scriptLayout, pushData_of_length (u16Be_length chain) (by omega),
    pushData_of_length contract.toList_length (by omega),
    pushData_of_length recipient.toList_length (by omega), pushInt_small hm (by omega),
    pushInt_small (by omega) (by omega)]
  simp only [hkey]
  rfl

theorem scriptLayout_length (chain : UInt16) (contract recipient : FixedBytes 32) (m : UInt8)
    (pubkeys : List (FixedBytes 33)) :
    (scriptLayout chain contract recipient m pubkeys).length = 74 + 34 * pubkeys.length := by
  have hkeys : (pubkeys.flatMap fun pk => (0x21 : UInt8) :: pk.toList).length =
      34 * pubkeys.length := by
    induction pubkeys with
    | nil => rfl
    | cons pk pubkeys ih =>
      rw [List.flatMap_cons, List.length_append, ih, List.length_cons, List.Vector.toList_length,
        List.length_cons]
      omega
  simp only [scriptLayout, List.length_append, List.length_cons, List.length_nil, u16Be_length,
    List.Vector.toList_length, hkeys]
  omega

/-! Reading the fields back. -/

theorem u16Be_delimited : Delimited (fun _ => True) fun v : UInt16 => u16Be v := by
  apply Delimited.of_length u16Be_length
  intro a b _ _ h
  rw [← u16OfBe_u16Be a, h, u16OfBe_u16Be]

theorem push_delimited (op : UInt8) (n : ℕ) :
    Delimited (fun _ => True) fun v : FixedBytes n => op :: v.toList := by
  intro a b ha hb rest rest' h
  exact Delimited.vector n ha hb (List.cons.inj h).2

theorem opN_injective : Function.Injective opN := by
  intro a b h
  exact (UInt8.add_right_inj 0x50).mp h

theorem scriptLayout_injective
    (h : scriptLayout chain contract recipient m pubkeys =
      scriptLayout chain' contract' recipient' m' pubkeys') :
    chain = chain' ∧ contract = contract' ∧ recipient = recipient' ∧ m = m' ∧
      pubkeys = pubkeys' := by
  have hlen : pubkeys.length = pubkeys'.length := by
    have hsize := congrArg List.length h
    rw [scriptLayout_length, scriptLayout_length] at hsize
    omega
  simp only [scriptLayout, List.append_assoc, List.cons_append, List.nil_append,
    List.cons.injEq, true_and] at h
  obtain ⟨hchain, h⟩ := u16Be_delimited trivial trivial h
  obtain ⟨hcontract, h⟩ := push_delimited 0x20 32 trivial trivial h
  obtain ⟨hrecipient, h⟩ := push_delimited 0x20 32 trivial trivial (List.cons.inj h).2
  simp only [List.cons.injEq, true_and] at h
  obtain ⟨hm, h⟩ := h
  have hkeys := (push_delimited 0x21 33).flatMap hlen (by simp) (by simp) h
  exact ⟨hchain, hcontract, hrecipient, opN_injective hm, hkeys.1⟩

/-- A script exists exactly for at most 13 keys and a threshold between one and their number. It has
the documented bytes, fits the 520 bytes of a P2SH script, and determines every argument. -/
theorem buildRedeemScript_exact :
    (∀ chain contract recipient m pubkeys,
      isOk (buildRedeemScript chain contract recipient m pubkeys) = true ↔
        pubkeys.length ≤ 13 ∧ 1 ≤ m.toNat ∧ m.toNat ≤ pubkeys.length) ∧
    (∀ chain contract recipient m pubkeys script,
      buildRedeemScript chain contract recipient m pubkeys = .ok script →
      script = scriptLayout chain contract recipient m pubkeys ∧
      script.length = 74 + 34 * pubkeys.length ∧ script.length ≤ 520) ∧
    ∀ chain contract recipient m pubkeys chain' contract' recipient' m' pubkeys' script,
      buildRedeemScript chain contract recipient m pubkeys = .ok script →
      buildRedeemScript chain' contract' recipient' m' pubkeys' = .ok script →
      chain = chain' ∧ contract = contract' ∧ recipient = recipient' ∧ m = m' ∧
        pubkeys = pubkeys' := by
  refine ⟨?_, ?_, ?_⟩
  · intro chain contract recipient m pubkeys
    constructor
    · intro h
      cases hbuild : buildRedeemScript chain contract recipient m pubkeys with
      | error e =>
        rw [hbuild] at h
        cases h
      | ok script => exact (buildRedeemScript_eq_ok.mp hbuild).1
    · intro h
      rw [buildRedeemScript_eq_ok.mpr ⟨h, rfl⟩]
      rfl
  · intro chain contract recipient m pubkeys script h
    obtain ⟨hquorum, rfl⟩ := buildRedeemScript_eq_ok.mp h
    have hlen := hquorum.1
    unfold maxPubkeys at hlen
    rw [scriptBytes_eq_layout hquorum, scriptLayout_length]
    exact ⟨rfl, rfl, by omega⟩
  · intro chain contract recipient m pubkeys chain' contract' recipient' m' pubkeys' script h h'
    obtain ⟨hquorum, hscript⟩ := buildRedeemScript_eq_ok.mp h
    obtain ⟨hquorum', hscript'⟩ := buildRedeemScript_eq_ok.mp h'
    apply scriptLayout_injective
    rw [← scriptBytes_eq_layout hquorum, ← scriptBytes_eq_layout hquorum', ← hscript, hscript']

end DogeOperator.Redeem
