import TransferRelay.Node.Client
import TransferRelay.Proofs.Address

/-!
# How a client starts

A client is made of three texts, each judged by itself, and it starts if all of them can be read
(`start_eq_ok_iff`). A contract that has an address is never to blame; then it is the private key,
or else the URL of the node, that keeps a client from starting (`start_eq_error_iff`).

A private key is read of the texts that spell one (`Signer.isSome_parse?_iff`), without blanks
around it.
-/

namespace TransferRelay

/-! ## Private keys -/

namespace Signer

/-- A text is a private key: the digits of a number of the curve in either case, behind a mark or
none. It has no blanks around it. -/
def IsKey (text : String) : Prop :=
  ∃ mark ∈ Hex.marks, ∃ digits bs, text.toList = mark ++ digits ∧ Hex.Spells digits bs ∧
    bs.length = 32 ∧ 0 < BigEndian.toNat bs ∧ BigEndian.toNat bs < Secp256k1.order

/-- A key is read of the texts that are one. -/
theorem isSome_parse?_iff {text : String} : (parse? text).isSome = true ↔ IsKey text := by
  have hread : (parse? text).isSome = true ↔ ∃ bs, ∃ h : bs.length = 32,
      readFixedHex 32 text = .ok ⟨bs, h⟩ ∧
        0 < BigEndian.toNat bs ∧ BigEndian.toNat bs < Secp256k1.order := by
    unfold parse?
    cases readFixedHex 32 text with
    | error cause => exact ⟨nofun, fun ⟨_, _, h, _⟩ => nomatch h⟩
    | ok read =>
      obtain ⟨bs, h⟩ := read
      simp only [ofNat?]
      constructor
      · intro hsome
        by_cases hrange : 0 < BigEndian.toNat bs ∧ BigEndian.toNat bs < Secp256k1.order
        · exact ⟨bs, h, rfl, hrange⟩
        · rw [dif_neg hrange] at hsome
          cases hsome
      · rintro ⟨bs', h', hbs, hrange⟩
        cases hbs
        rw [dif_pos hrange]
        rfl
  rw [hread]
  constructor
  · rintro ⟨bs, h, hbs, hrange⟩
    obtain ⟨mark, hmark, digits, htext, spelled⟩ := readFixedHex_eq_ok_iff.mp hbs
    exact ⟨mark, hmark, digits, bs, htext, spelled, h, hrange⟩
  · rintro ⟨mark, hmark, digits, bs, htext, spelled, h, hrange⟩
    exact ⟨bs, h, readFixedHex_eq_ok_iff.mpr ⟨mark, hmark, digits, htext, spelled⟩, hrange⟩

end Signer

namespace Node.Client

variable {url bridge : String} {key : Option String}

/-- There is a client for every key that is one, and without a key. -/
theorem exists_readKey_iff :
    (∃ signer, readKey key = .ok signer) ↔ ∀ text ∈ key, Signer.IsKey text := by
  cases key with
  | none => exact ⟨fun _ => nofun, fun _ => ⟨none, rfl⟩⟩
  | some text =>
    have hforall : (∀ t ∈ some text, Signer.IsKey t) ↔ Signer.IsKey text :=
      ⟨fun h => h text rfl, fun h t ht => Option.mem_some.mp ht ▸ h⟩
    rw [hforall, ← Signer.isSome_parse?_iff, readKey]
    cases Signer.parse? text with
    | none => exact ⟨nofun, nofun⟩
    | some signer => exact ⟨fun _ => rfl, fun _ => ⟨_, rfl⟩⟩

/-- A client starts if all three texts can be read. -/
theorem start_eq_ok_iff {c : Client} :
    start url bridge key = .ok c ↔
      Address.parse bridge = .ok c.bridge ∧ readKey key = .ok c.signer ∧
        Url.isValid url = true := by
  obtain ⟨address, signer⟩ := c
  unfold start
  cases Address.parse bridge with
  | error cause => simp
  | ok parsed =>
    cases readKey key with
    | error fault => simp
    | ok read => cases Url.isValid url <;> simp

/-- If the contract has an address, a client fails to start by its key, or by its URL. -/
theorem start_eq_error_iff {address : Address} (parsed : Address.parse bridge = .ok address)
    {fault : StartFault} :
    start url bridge key = .error fault ↔
      (fault = .badKey ∧ ¬∀ text ∈ key, Signer.IsKey text) ∨
      (fault = .badUrl ∧ (∀ text ∈ key, Signer.IsKey text) ∧ Url.isValid url = false) := by
  rw [← exists_readKey_iff, start, parsed]
  have hkey : ∀ cause, readKey key = .error cause → cause = .badKey := by
    intro cause h
    unfold readKey at h
    split at h
    · cases h
    · split at h <;> cases h
      rfl
  cases hread : readKey key with
  | error cause =>
    obtain rfl := hkey cause hread
    constructor
    · intro h
      cases h
      exact .inl ⟨rfl, fun ⟨_, h⟩ => nomatch h⟩
    · rintro (⟨rfl, -⟩ | ⟨-, ⟨_, h⟩, -⟩)
      · rfl
      · cases h
  | ok signer =>
    cases Url.isValid url with
    | true =>
      refine ⟨nofun, ?_⟩
      rintro (⟨-, h⟩ | ⟨-, -, h⟩)
      · exact absurd ⟨signer, rfl⟩ h
      · cases h
    | false =>
      constructor
      · intro h
        cases h
        exact .inr ⟨rfl, ⟨signer, rfl⟩, rfl⟩
      · rintro (⟨-, h⟩ | ⟨rfl, -, -⟩)
        · exact absurd ⟨signer, rfl⟩ h
        · rfl

end Node.Client

end TransferRelay
