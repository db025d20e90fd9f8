import TransferRelay.Proofs.Hex.Spelling
import TransferRelay.Proofs.Rpc.Reading

/-!
# Demands for transfers

`Demands params name t` says on the wire that the method of that name demands the transfer `t` with
these parameters, and how they give what `t` is made of. A method reads its parameters as a transfer
exactly if they demand it (`parse_eq_ok_transfer_iff`).
-/

namespace TransferRelay.Rpc

/-! ## On the wire -/

/-- The bytes that a field gives in digits: none if it is absent or null. -/
inductive GivesBytes : Option Json → Bytes → Prop
  | absent : GivesBytes none []
  | null : GivesBytes (some .null) []
  | digits {s : String} {bs : Bytes} (denotes : Hex.Denotes s bs) : GivesBytes (some (.str s)) bs

/-- A method with its parameters demands a transfer. -/
inductive Demands (params : Json) : String → Transfer → Prop
  | invalidWithdraw {signature hash : String} {tx : TransferId}
      (fields : Gives [("signature", some (.str signature)), ("txHash", some (.str hash))] params)
      (signed : Text.isAllBlank signature = false) (parsed : TransferId.parse hash = .ok tx) :
      Demands params "receivedInvaliedwithrawtx" (.invalidWithdraw signature tx)
  | smallTransfer {signature rawTx hash : String} {tx : TransferId}
      (fields : Gives [("signature", some (.str signature)), ("rawTx", some (.str rawTx)),
        ("txHash", some (.str hash))] params)
      (signed : Text.isAllBlank signature = false) (raw : Text.isAllBlank rawTx = false)
      (parsed : TransferId.parse hash = .ok tx) :
      Demands params "smallCrossChainTransaction" (.smallTransfer signature rawTx tx)
  | recharge {hash : String} {data : Option Json} {tx : TransferId} {bs : Bytes}
      (fields : Gives [("txHash", some (.str hash)), ("smallRechargeData", data)] params)
      (parsed : TransferId.parse hash = .ok tx) (bytes : GivesBytes data bs) :
      Demands params "recharge" (.recharge tx bs)
  | refundWithdraw {hash : String} {tx : TransferId}
      (fields : Gives [("txHash", some (.str hash))] params)
      (parsed : TransferId.parse hash = .ok tx) :
      Demands params "refundWithdraw" (.refundWithdraw tx)

/-! ## Read -/

theorem notBlank_eq_ok_iff {field value : String} :
    Params.notBlank field value = .ok () ↔ Text.isAllBlank value = false := by
  unfold Params.notBlank
  cases Text.isAllBlank value with
  | false => exact ⟨fun _ => rfl, fun _ => rfl⟩
  | true => exact ⟨(nomatch ·), (nomatch ·)⟩

theorem hexBytes_eq_ok_iff {field s : String} {bs : Bytes} :
    Params.hexBytes field s = .ok bs ↔ Hex.Denotes s bs := by
  rw [← Hex.decode_stripMark_eq_ok_iff]
  unfold Params.hexBytes
  cases Hex.decode (Hex.stripMark s.toList) with
  | ok decoded => rw [Except.ok.injEq, Except.ok.injEq]
  | error cause => exact ⟨(nomatch ·), (nomatch ·)⟩

/-- The bytes of a field, as they are read. -/
def fieldBytes : Option String → Except Fault Bytes
  | some s => Params.hexBytes "smallRechargeData" s
  | none => .ok []

/-- What is read of a field that may be left out is the bytes that it gives. -/
theorem givesBytes_iff {data : Option Json} {bs : Bytes} :
    GivesBytes data bs ↔ ∃ text : Option String, FieldType.optionalText.Reads data text ∧
      fieldBytes text = .ok bs := by
  constructor
  · intro h
    cases h with
    | absent => exact ⟨none, .absent rfl, rfl⟩
    | null => exact ⟨none, .given rfl, rfl⟩
    | @digits s bs denotes => exact ⟨some s, .given rfl, hexBytes_eq_ok_iff.mpr denotes⟩
  · rintro ⟨text, hreads, hbytes⟩
    rcases reads_optionalText_iff.mp hreads with ⟨rfl, rfl | rfl⟩ | ⟨s, rfl, rfl⟩
    · cases hbytes
      exact .absent
    · cases hbytes
      exact .null
    · exact .digits (hexBytes_eq_ok_iff.mp hbytes)

theorem invocation_recharge (hash : String) (text : Option String) :
    Params.invocation .recharge (hash, text, ()) =
      TransferId.parse hash >>= fun tx =>
        fieldBytes text >>= fun bs => .ok (.transfer (.recharge tx bs)) := by
  cases text <;> rfl

/-- Parameters that demand a transfer are read as that transfer. -/
theorem Demands.parse {params : Json} {name : String} {t : Transfer} (h : Demands params name t) :
    ∃ m, Method.ofName? name = some m ∧ Params.parse m params = .ok (.transfer t) := by
  cases h with
  | invalidWithdraw fields signed parsed =>
    refine ⟨.receivedInvalidWithdraw, by decide, ?_⟩
    rw [Params.parse_of_gives .receivedInvalidWithdraw fields
      (.cons (reads_text_iff.mpr rfl) (.cons (reads_text_iff.mpr rfl) .nil))]
    simp only [Params.invocation, notBlank_eq_ok_iff.mpr signed, parsed]
    rfl
  | smallTransfer fields signed raw parsed =>
    refine ⟨.smallTransfer, by decide, ?_⟩
    rw [Params.parse_of_gives .smallTransfer fields (.cons (reads_text_iff.mpr rfl)
      (.cons (reads_text_iff.mpr rfl) (.cons (reads_text_iff.mpr rfl) .nil)))]
    simp only [Params.invocation, notBlank_eq_ok_iff.mpr signed, notBlank_eq_ok_iff.mpr raw,
      parsed]
    rfl
  | recharge fields parsed bytes =>
    obtain ⟨text, hreads, hbytes⟩ := givesBytes_iff.mp bytes
    refine ⟨.recharge, by decide, ?_⟩
    rw [Params.parse_of_gives .recharge fields
      (.cons (reads_text_iff.mpr rfl) (.cons hreads .nil))]
    refine (invocation_recharge _ text).trans ?_
    rw [parsed, ok_bind, hbytes, ok_bind]
  | refundWithdraw fields parsed =>
    refine ⟨.refundWithdraw, by decide, ?_⟩
    rw [Params.parse_of_gives .refundWithdraw fields (.cons (reads_text_iff.mpr rfl) .nil)]
    simp only [Params.invocation, parsed]
    rfl

/-- Parameters that are read as a transfer demand it. -/
theorem demands_of_parse {m : Method} {params : Json} {t : Transfer} (once : NamesOnce params)
    (h : Params.parse m params = .ok (.transfer t)) : Demands params m.name t := by
  obtain ⟨es, vs, hreads, hgives, hinvocation⟩ := Params.exists_gives_of_parse once h
  cases m with
  | receivedInvalidWithdraw =>
    obtain ⟨signature, hash, _⟩ := vs
    obtain ⟨_, rfl, hlast⟩ := hreads.uncons_text
    obtain ⟨_, rfl, hnone⟩ := hlast.uncons_text
    obtain rfl := hnone.eq_nil
    obtain ⟨_, hsigned, hinvocation⟩ := exists_of_bind_eq_ok hinvocation
    obtain ⟨tx, hparsed, hinvocation⟩ := exists_of_bind_eq_ok hinvocation
    cases hinvocation
    exact .invalidWithdraw hgives (notBlank_eq_ok_iff.mp hsigned) hparsed
  | smallTransfer =>
    obtain ⟨signature, rawTx, hash, _⟩ := vs
    obtain ⟨_, rfl, hrest⟩ := hreads.uncons_text
    obtain ⟨_, rfl, hlast⟩ := hrest.uncons_text
    obtain ⟨_, rfl, hnone⟩ := hlast.uncons_text
    obtain rfl := hnone.eq_nil
    obtain ⟨_, hsigned, hinvocation⟩ := exists_of_bind_eq_ok hinvocation
    obtain ⟨_, hraw, hinvocation⟩ := exists_of_bind_eq_ok hinvocation
    obtain ⟨tx, hparsed, hinvocation⟩ := exists_of_bind_eq_ok hinvocation
    cases hinvocation
    exact .smallTransfer hgives (notBlank_eq_ok_iff.mp hsigned) (notBlank_eq_ok_iff.mp hraw)
      hparsed
  | recharge =>
    obtain ⟨hash, text, _⟩ := vs
    obtain ⟨_, rfl, hlast⟩ := hreads.uncons_text
    obtain ⟨data, _, rfl, hdata, hnone⟩ := hlast.uncons
    obtain rfl := hnone.eq_nil
    have hinvocation := (invocation_recharge hash text).symm.trans hinvocation
    obtain ⟨tx, hparsed, hinvocation⟩ := exists_of_bind_eq_ok hinvocation
    obtain ⟨bs, hbytes, hinvocation⟩ := exists_of_bind_eq_ok hinvocation
    cases hinvocation
    exact .recharge hgives hparsed (givesBytes_iff.mpr ⟨_, hdata, hbytes⟩)
  | refundWithdraw =>
    obtain ⟨hash, _⟩ := vs
    obtain ⟨_, rfl, hnone⟩ := hreads.uncons_text
    obtain rfl := hnone.eq_nil
    obtain ⟨tx, hparsed, hinvocation⟩ := exists_of_bind_eq_ok hinvocation
    cases hinvocation
    exact .refundWithdraw hgives hparsed
  -- the other methods ask for something else
  | processedInvalidWithdraw | decodeRechargeData => cases hinvocation
  | rechargeData | withdrawData =>
    obtain ⟨_, _, hinvocation⟩ := exists_of_bind_eq_ok hinvocation
    cases hinvocation
  | encodeWithdraw =>
    obtain ⟨_, _, hinvocation⟩ := exists_of_bind_eq_ok hinvocation
    obtain ⟨_, _, hinvocation⟩ := exists_of_bind_eq_ok hinvocation
    obtain ⟨_, _, hinvocation⟩ := exists_of_bind_eq_ok hinvocation
    cases hinvocation

/-- A method takes parameters for a transfer exactly if they demand it. -/
theorem parse_eq_ok_transfer_iff {m : Method} {params : Json} {t : Transfer}
    (once : NamesOnce params) :
    Params.parse m params = .ok (.transfer t) ↔ Demands params m.name t := by
  constructor
  · exact demands_of_parse once
  · intro h
    obtain ⟨m', hm', hparse⟩ := h.parse
    rw [Method.ofName?_name] at hm'
    cases hm'
    exact hparse

end TransferRelay.Rpc
