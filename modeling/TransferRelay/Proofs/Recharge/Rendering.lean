import TransferRelay.Proofs.Address
import TransferRelay.Proofs.Amount.Numeral
import TransferRelay.Proofs.Recharge.Canonical
import TransferRelay.Proofs.Transfer.Spelling
import TransferRelay.Rpc.Handle

/-!
# Recharge entries as clients read them

Clients are shown a list of entries as JSON, and they may hold the same list as contract data in
hexadecimal. Nothing is lost either way: the list is read back from what is shown
(`entriesOf?_json`) and from every spelling of its data (`decodeText_of_spelling`).

What is shown is read as its members say: an address by its digits in either case, amounts as
decimal numbers, and byte strings as digits behind a mark.
-/

namespace TransferRelay

/-! ## Entries as JSON -/

namespace Rpc

/-- The text that an object has under a name. -/
def textAt? (name : String) (j : Json) : Option String :=
  (j.get? name).bind Json.str?

/-- Reads an entry of a recharge as it is shown. -/
def entryOf? (j : Json) : Option RechargeEntry := do
  let target ← (textAt? "targetAddress" j).bind fun s => (Address.parse s).toOption
  let amount ← (textAt? "targetAmount" j).bind Amount.ofDecimal?
  let fee ← (textAt? "fee" j).bind Amount.ofDecimal?
  let data ← (textAt? "targetData" j).bind fun s =>
    (Hex.decode (Hex.stripMark s.toList)).toOption
  return ⟨target, amount, fee, data⟩

/-- Reads the entries of a recharge as they are shown. -/
def entriesOf? : Json → Option (List RechargeEntry)
  | .arr items => items.mapM entryOf?
  | _ => none

/-- An entry is read back from what is shown of it. -/
theorem entryOf?_json (e : RechargeEntry) : entryOf? (entryJson e) = some e := by
  have htarget : textAt? "targetAddress" (entryJson e) = some e.target.checksummed := rfl
  have hamount : textAt? "targetAmount" (entryJson e) = some e.amount.text := rfl
  have hfee : textAt? "fee" (entryJson e) = some e.fee.text := rfl
  have hdata : textAt? "targetData" (entryJson e) = some (Hex.encodeMarked e.data) := rfl
  have hbytes : Hex.decode (Hex.stripMark (Hex.encodeMarked e.data).toList) = .ok e.data :=
    Hex.decode_stripMark_eq_ok_iff.mpr (Hex.denotes_encodeMarked e.data)
  simp only [entryOf?, htarget, hamount, hfee, hdata, Option.bind_some, hbytes,
    Address.parse_checksummed, Amount.ofDecimal?_text]
  rfl

/-- A list is read back from what is shown of it. -/
theorem entriesOf?_json (es : List RechargeEntry) : entriesOf? (entriesJson es) = some es := by
  show (es.map entryJson).mapM entryOf? = some es
  induction es with
  | nil => rfl
  | cons e es ih => rw [List.map_cons, List.mapM_cons, entryOf?_json, ih]; rfl

/-- Different lists are shown differently. -/
theorem entriesJson_injective : Function.Injective entriesJson := by
  intro es es' h
  have hread := congrArg entriesOf? h
  rw [entriesOf?_json, entriesOf?_json] at hread
  exact Option.some.inj hread

end Rpc

/-! ## Spellings of contract data -/

theorem Hex.isBlank_of_denotes {s : String} {bs : Bytes} (h : Denotes s bs) :
    ∀ c ∈ s.toList, Text.isBlank c = false := by
  cases h with
  | bare digits => exact isBlank_of_spells digits
  | marked mark digits =>
    rw [mark]
    exact List.forall_mem_cons.mpr ⟨by decide, List.forall_mem_cons.mpr ⟨by decide,
      isBlank_of_spells digits⟩⟩

namespace Recharge

/-- A text is a spelling of contract data: the digits of its bytes in either case, behind the mark
`0x` or none, with blanks around. -/
inductive Spelling (s : String) (raw : Bytes) : Prop
  | mk (before : List Char) (inner : String) (after : List Char)
      (text : s.toList = before ++ inner.toList ++ after)
      (blankBefore : ∀ c ∈ before, Text.isBlank c = true) (denoted : Hex.Denotes inner raw)
      (blankAfter : ∀ c ∈ after, Text.isBlank c = true)

/-- Every spelling of the data of a list is read as that list. -/
theorem decodeText_of_spelling {s : String} {xs : List RechargeEntry}
    (hlen : (encode xs).length < 0x100000000) (h : Spelling s (encode xs)) :
    decodeText s = .ok xs := by
  obtain ⟨before, inner, after, text, blankBefore, denoted, blankAfter⟩ := h
  have htrim : Text.trimChars s.toList = inner.toList := by
    rw [text]
    exact Text.trimChars_append blankBefore (Hex.isBlank_of_denotes denoted) blankAfter
  rw [decodeText, htrim, Hex.decode_stripMark_eq_ok_iff.mpr denoted]
  exact decode_encode hlen

end Recharge

end TransferRelay
