import TransferRelay.Http.Listen
import TransferRelay.Proofs.Text.Digits
import Mathlib.Data.List.TakeWhile

/-!
# Literal addresses and ports

The service writes the address to listen at as a host, a colon and a port, and reads that text back.
The host alone decides whether it is one: `parse?_port` reads the text exactly if the host is a
literal address, and then finds the port that was written.

Hosts may have colons themselves, so the reader of hosts might run on into the port. It does not,
since an IPv4 address ends at a colon and an IPv6 address at its bracket: `Reader.EndsAt` says of a
reader that it does not look beyond a character.
-/

namespace TransferRelay.SocketAddress

variable {α β : Type} {stop : Char}

/-! ## Readers that end at a character -/

/-- A value read from the front of a text, with more behind what is left. -/
def andMore (more : List Char) (r : α × List Char) : α × List Char :=
  (r.1, r.2 ++ more)

/-- A reader takes characters off a text, and never looks beyond one that stops it. -/
structure Reader.EndsAt (stop : Char) (r : Reader α) : Prop where
  stops (cs more : List Char) : r (cs ++ stop :: more) = (r cs).map (andMore (stop :: more))
  suffix {cs left : List Char} {a : α} (read : r cs = some (a, left)) : left <:+ cs

namespace Reader.EndsAt

theorem pure (a : α) : EndsAt stop fun cs => some (a, cs) where
  stops _ _ := rfl
  suffix read := by
    cases read
    exact List.suffix_refl _

theorem none : EndsAt stop (fun _ => Option.none : Reader α) where
  stops _ _ := rfl
  suffix read := nomatch read

theorem bind {r : Reader α} {f : α → Reader β} (first : r.EndsAt stop)
    (rest : ∀ a, (f a).EndsAt stop) : EndsAt stop fun cs => (r cs).bind fun p => f p.1 p.2 where
  stops cs more := by
    rw [first.stops]
    cases r cs with
    | none => rfl
    | some p => exact (rest p.1).stops p.2 more
  suffix {cs left b} read := by
    obtain ⟨p, hp, hleft⟩ := Option.bind_eq_some_iff.mp read
    exact ((rest p.1).suffix hleft).trans (first.suffix hp)

/-- A reader that takes a second way where the first does not lead to a value. -/
theorem orElse {r s : Reader α} (first : r.EndsAt stop) (second : s.EndsAt stop) :
    EndsAt stop fun cs => (r cs).orElse fun _ => s cs where
  stops cs more := by
    rw [first.stops, second.stops]
    cases r cs <;> rfl
  suffix {cs left a} read := by
    cases h : r cs with
    | none =>
      rw [h] at read
      exact second.suffix read
    | some p =>
      rw [h] at read
      exact first.suffix (h.trans read)

end Reader.EndsAt

open Reader (EndsAt)

theorem endsAt_char {c : Char} (h : stop ≠ c) : EndsAt stop (char c) where
  stops cs more := by
    cases cs with
    | nil => exact if_neg h
    | cons d cs =>
      show (if d = c then some ((), cs ++ stop :: more) else none) = _
      by_cases hd : d = c <;> simp [char, hd, andMore]
  suffix {cs left a} read := by
    cases cs with
    | nil => cases read
    | cons d cs =>
      obtain ⟨-, hleft⟩ := Option.ite_none_right_eq_some.mp read
      cases hleft
      exact List.suffix_cons d left

section Digits

variable {radix : Nat} (h : Text.isDigitOf radix stop = false)
include h

theorem takeWhile_append_stop (cs more : List Char) :
    (cs ++ stop :: more).takeWhile (Text.isDigitOf radix) =
      cs.takeWhile (Text.isDigitOf radix) := by
  induction cs with
  | nil => rw [List.nil_append, List.takeWhile_cons, h]; rfl
  | cons c cs ih => simp only [List.cons_append, List.takeWhile_cons, ih]

theorem dropWhile_append_stop (cs more : List Char) :
    (cs ++ stop :: more).dropWhile (Text.isDigitOf radix) =
      cs.dropWhile (Text.isDigitOf radix) ++ stop :: more := by
  induction cs with
  | nil => rw [List.nil_append, List.dropWhile_cons, h]; rfl
  | cons c cs ih =>
    rw [List.cons_append, List.dropWhile_cons, List.dropWhile_cons, ih]
    cases Text.isDigitOf radix c <;> rfl

theorem endsAt_number (limit : Nat) : EndsAt stop (number radix limit) where
  stops cs more := by
    unfold number
    rw [takeWhile_append_stop h, dropWhile_append_stop h]
    dsimp only
    split <;> rfl
  suffix {cs left a} read := by
    obtain ⟨-, hleft⟩ := Option.ite_none_left_eq_some.mp read
    cases hleft
    exact List.dropWhile_suffix _

/-- A reader of numbers that looks at the digits first. -/
theorem endsAt_digits (limit : Nat) (bad : List Char → Prop) [DecidablePred bad] :
    EndsAt stop fun cs =>
      if bad (cs.takeWhile (Text.isDigitOf radix)) then none else number radix limit cs where
  stops cs more := by
    have hnumber := (endsAt_number h limit).stops cs more
    simp only [takeWhile_append_stop h]
    split
    · rfl
    · exact hnumber
  suffix {cs left a} read := by
    obtain ⟨-, read⟩ := Option.ite_none_left_eq_some.mp read
    exact (endsAt_number h limit).suffix read

end Digits

/-! ## Hosts -/

/-- A character at which an address ends, since none contains it. -/
structure IsStop (stop : Char) : Prop where
  digit : Text.isDigitOf 10 stop = false
  point : stop ≠ '.'

theorem endsAt_octet (h : Text.isDigitOf 10 stop = false) : EndsAt stop octet :=
  endsAt_digits h 256 fun ds => (3 < ds.length || (ds.head? = some '0' && 1 < ds.length)) = true

theorem endsAt_ipv4 (h : IsStop stop) : EndsAt stop ipv4 := by
  have hoctet := endsAt_octet h.digit
  have hpoint := endsAt_char h.point
  exact hoctet.bind fun a => hpoint.bind fun _ => hoctet.bind fun b => hpoint.bind fun _ =>
    hoctet.bind fun c => hpoint.bind fun _ => hoctet.bind fun d => .pure [a, b, c, d]

/-- A character at which an address in brackets ends. -/
structure IsBracketStop (stop : Char) : Prop extends IsStop stop where
  hexDigit : Text.isDigitOf 16 stop = false
  colon : stop ≠ ':'
  percent : stop ≠ '%'

theorem endsAt_group (h : IsBracketStop stop) : EndsAt stop group :=
  endsAt_digits h.hexDigit 65536 fun ds => 4 < ds.length

/-- Groups are read behind a colon, which the first of them does not have. An IPv4 address ends
them, and where there is none of them either, nothing is read. -/
theorem groups_succ (room : Nat) (first : Bool) (cs : List Char) :
    some (groups (room + 1) first cs) =
      ((if first then some ((), cs) else char ':' cs).bind fun p =>
        ((if 1 ≤ room then ipv4 p.2 else none).bind fun q =>
          some ((groupsOfOctets q.1, true), q.2)).orElse fun _ =>
        (group p.2).bind fun q => (some (groups room false q.2)).bind fun r =>
          some ((q.1 :: r.1.1, r.1.2), r.2)).orElse fun _ =>
      some (([], false), cs) := by
  have hstart : (if first then some cs else (char ':' cs).map Prod.snd) =
      (if first then some ((), cs) else char ':' cs).map Prod.snd := by
    cases first <;> rfl
  rw [groups, hstart]
  rcases (if first then some ((), cs) else char ':' cs) with _ | ⟨_, inner⟩
  · rfl
  · simp only [Option.map_some, Option.bind_some]
    rcases (if 1 ≤ room then ipv4 inner else none) with _ | ⟨octets, rest⟩
    · rcases group inner with _ | ⟨g, rest⟩ <;> rfl
    · rfl

theorem endsAt_groups (h : IsBracketStop stop) (room : Nat) (first : Bool) :
    EndsAt stop fun cs => some (groups room first cs) := by
  induction room generalizing first with
  | zero => exact .pure _
  | succ room ih =>
    have hseparator : EndsAt stop fun cs => if first then some ((), cs) else char ':' cs := by
      cases first with
      | true => exact .pure ()
      | false => exact endsAt_char h.colon
    have hlast : EndsAt stop fun cs => if 1 ≤ room then ipv4 cs else none := by
      by_cases hroom : 1 ≤ room
      · simp only [if_pos hroom]
        exact endsAt_ipv4 h.toIsStop
      · simp only [if_neg hroom]
        exact .none
    simp only [groups_succ]
    exact (hseparator.bind fun _ => (hlast.bind fun q => .pure (groupsOfOctets q, true)).orElse
      ((endsAt_group h).bind fun g => (ih false).bind fun r => .pure (g :: r.1, r.2))).orElse
      (.pure ([], false))

theorem endsAt_ipv6 (h : IsBracketStop stop) : EndsAt stop ipv6 := by
  have hcolon := endsAt_char h.colon
  refine (endsAt_groups h 8 true).bind (f := fun head rest =>
    if head.1.length = 8 then some (head.1, rest)
    else if head.2 then none
    else (char ':' rest).bind fun p => (char ':' p.2).bind fun p =>
      (some (groups (8 - (head.1.length + 1)) true p.2)).bind fun p => some
        (head.1 ++ List.replicate (8 - head.1.length - p.1.1.length) 0 ++ p.1.1, p.2))
    fun head => ?_
  by_cases hfull : head.1.length = 8
  · simp only [if_pos hfull]
    exact .pure _
  · simp only [if_neg hfull]
    cases head.2 with
    | true => exact .none
    | false =>
      exact hcolon.bind fun _ => hcolon.bind fun _ => (endsAt_groups h _ true).bind fun tail =>
        .pure (head.1 ++ List.replicate (8 - head.1.length - tail.1.length) 0 ++ tail.1)

theorem zone_of_ne {c : Char} (h : c ≠ '%') (cs : List Char) :
    zone (c :: cs) = some ((), c :: cs) := by
  unfold zone
  split
  · rename_i heq
    exact absurd (List.cons.inj heq).1 h
  · rfl

theorem endsAt_zone (h : IsBracketStop stop) : EndsAt stop zone where
  stops cs more := by
    cases cs with
    | nil => exact zone_of_ne h.percent more
    | cons c cs =>
      by_cases hc : c = '%'
      · subst hc
        show (number 10 (Nat.pow 2 32) (cs ++ stop :: more)).map _ = _
        rw [(endsAt_number h.digit _).stops]
        show _ = ((number 10 (Nat.pow 2 32) cs).map _).map _
        rw [Option.map_map, Option.map_map]
        rfl
      · rw [List.cons_append, zone_of_ne hc, zone_of_ne hc]
        rfl
  suffix {cs left a} read := by
    cases cs with
    | nil =>
      cases read
      exact List.suffix_refl _
    | cons c cs =>
      by_cases hc : c = '%'
      · subst hc
        obtain ⟨p, hp, heq⟩ := Option.map_eq_some_iff.mp read
        cases heq
        exact ((endsAt_number h.digit _).suffix hp).trans (List.suffix_cons _ cs)
      · rw [zone_of_ne hc] at read
        cases read
        exact List.suffix_refl _

/-! ## Brackets -/

/-- Reads an IPv6 address behind its first bracket. -/
def opened : Reader (List Nat) := fun cs =>
  (char '[' cs).bind fun p => (ipv6 p.2).bind fun q => (zone q.2).bind fun r => some (q.1, r.2)

theorem bracketed_eq (cs : List Char) :
    bracketed cs = (opened cs).bind fun p => (char ']' p.2).bind fun q => some (p.1, q.2) := by
  simp only [opened, Option.bind_assoc]
  rfl

theorem endsAt_opened : EndsAt ']' opened := by
  have hstop : IsBracketStop ']' :=
    ⟨⟨by decide, by decide⟩, by decide, by decide, by decide⟩
  exact (endsAt_char (by decide)).bind fun _ => (endsAt_ipv6 hstop).bind fun gs =>
    (endsAt_zone hstop).bind fun _ => .pure gs

/-- Nothing is read beyond the last bracket. -/
theorem bracketed_append {cs : List Char} (closed : ']' ∈ cs) (more : List Char) :
    bracketed (cs ++ more) = (bracketed cs).map (andMore more) := by
  obtain ⟨front, back, rfl, -⟩ := List.eq_append_cons_of_mem closed
  rw [List.append_assoc, List.cons_append, bracketed_eq, bracketed_eq, endsAt_opened.stops,
    endsAt_opened.stops]
  rcases opened front with _ | ⟨gs, _ | ⟨c, left⟩⟩
  · rfl
  · rfl
  · by_cases hc : c = ']' <;> simp [char, andMore, hc]

theorem bracketed_of_open {cs : List Char} (unclosed : ']' ∉ cs) : bracketed cs = none := by
  rw [bracketed_eq, Option.eq_none_iff_forall_not_mem]
  intro a ha
  obtain ⟨p, hp, hread⟩ := Option.bind_eq_some_iff.mp ha
  obtain ⟨q, hq, -⟩ := Option.bind_eq_some_iff.mp hread
  -- what is left begins with the bracket
  have hbracket : ']' ∈ p.2 := by
    cases hleft : p.2 with
    | nil => rw [hleft] at hq; cases hq
    | cons c left =>
      rw [hleft] at hq
      obtain ⟨rfl, -⟩ := Option.ite_none_right_eq_some.mp hq
      exact List.mem_cons_self
  exact unclosed ((endsAt_opened.suffix hp).mem hbracket)

/-- Nothing is read beyond a colon behind an address. -/
theorem host_append (cs : List Char) {more : List Char} (plain : ']' ∉ more) :
    host (cs ++ ':' :: more) = (host cs).map (andMore (':' :: more)) := by
  have hstop : IsStop ':' := ⟨by decide, by decide⟩
  have hbracketed : bracketed (cs ++ ':' :: more) = (bracketed cs).map (andMore (':' :: more)) := by
    by_cases closed : ']' ∈ cs
    · exact bracketed_append closed _
    · rw [bracketed_of_open closed, bracketed_of_open]
      · rfl
      · simp [closed, plain]
  unfold host
  rw [(endsAt_ipv4 hstop).stops, hbracketed]
  rcases ipv4 cs with _ | p
  · show ((bracketed cs).map _).map _ = ((bracketed cs).map _).map _
    rw [Option.map_map, Option.map_map]
    rfl
  · rfl

/-! ## Ports -/

/-- The digits of a port are read as that port. -/
theorem number_toDigits {port : Nat} (h : port < 65536) :
    number 10 65536 (Nat.toDigits 10 port) = some (port, []) := by
  obtain ⟨ds, hds, hvalue⟩ := Text.digits_toDigits port
  have hne : ds ≠ [] := by
    rintro rfl
    exact Nat.toDigits_ne_nil (List.forall₂_nil_right_iff.mp hds)
  have htake : (Nat.toDigits 10 port).takeWhile (Text.isDigitOf 10) = Nat.toDigits 10 port :=
    List.takeWhile_eq_self_iff.mpr hds.isDigitOf
  have hdrop : (Nat.toDigits 10 port).dropWhile (Text.isDigitOf 10) = [] :=
    List.dropWhile_eq_nil_iff.mpr hds.isDigitOf
  have hfits : ¬65536 ≤ port := by omega
  simp [number, htake, hdrop, hds.filterMap, hvalue, hne, hfits]

/-- A whole text is a literal address. -/
def IsLiteral (text : String) (ip : IpAddress) : Prop :=
  host text.toList = some (ip, [])

/-- A host with a port is an address exactly if the host is a literal address, and then the port is
the one that was written. -/
theorem parse?_port {text : String} {port : Nat} (h : port < 65536) {a : SocketAddress} :
    parse? (text ++ ":" ++ toString port) = some a ↔ IsLiteral text a.ip ∧ a.port = port := by
  have htext : (text ++ ":" ++ toString port).toList =
      text.toList ++ ':' :: Nat.toDigits 10 port := by
    rw [String.toList_append, String.toList_append, List.append_assoc]
    exact congrArg (text.toList ++ ':' :: ·) Nat.toList_repr
  have hplain : ']' ∉ Nat.toDigits 10 port := fun hmem =>
    absurd (Nat.isDigit_of_mem_toDigits (by decide) (by decide) hmem) (by decide)
  unfold parse? IsLiteral
  rw [htext, host_append _ hplain]
  rcases host text.toList with _ | ⟨ip, _ | ⟨c, left⟩⟩
  · exact ⟨nofun, nofun⟩
  · -- the host is all of the text in front of the colon
    show ((number 10 65536 (Nat.toDigits 10 port)).bind fun r =>
      if r.2.isEmpty then some ⟨ip, r.1⟩ else none) = some a ↔ _
    rw [number_toDigits h, Option.bind_some, List.isEmpty_nil, if_pos rfl]
    constructor
    · intro heq
      cases heq
      exact ⟨rfl, rfl⟩
    · rintro ⟨hip, rfl⟩
      cases hip
      rfl
  · -- more than the port is left behind the host
    refine ⟨fun hread => ?_, fun hip => nomatch hip.1⟩
    obtain ⟨p, hp, hread⟩ := Option.bind_eq_some_iff.mp hread
    cases hp
    obtain ⟨q, hq, hread⟩ := Option.bind_eq_some_iff.mp hread
    obtain ⟨-, hq⟩ := Option.ite_none_right_eq_some.mp hq
    cases hq
    obtain ⟨r, hr, hread⟩ := Option.bind_eq_some_iff.mp hread
    have hcolon : Text.isDigitOf 10 ':' = false := by decide
    obtain ⟨r, -, rfl⟩ := Option.map_eq_some_iff.mp
      (((endsAt_number hcolon 65536).stops left _).symm.trans hr)
    simp [andMore] at hread

end TransferRelay.SocketAddress
