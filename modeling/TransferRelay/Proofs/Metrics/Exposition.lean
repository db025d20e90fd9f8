import Mathlib.Algebra.Ring.Nat
import TransferRelay.Metrics
import TransferRelay.Text.Split

/-!
# Reading published counters

`Published.read` reads a text of counters as those who collect it do: a line is a comment, or it has
the name of a counter with its labels, a blank and a number. What is published reads back as the
samples that were shown (`read_exposition`), so the numbers of requests in the text add up to the
requests counted (`sum_published_requests`), and they stand under no labels but those of the service
(`labels_published_requests`).
-/

namespace TransferRelay

namespace Text

/-! ## Lines -/

theorem splitOn_line {separator : Char} {line : List Char} (h : separator ∉ line)
    (rest : List Char) :
    splitOn separator (line ++ separator :: rest) = line :: splitOn separator rest := by
  induction line with
  | nil =>
    rw [List.nil_append, splitOn, if_pos rfl]
  | cons c line ih =>
    rw [List.mem_cons, not_or] at h
    rw [List.cons_append, splitOn, if_neg (Ne.symm h.1), ih h.2]

/-- Lines that are written one after the other are read as they were. -/
theorem splitOn_lines {separator : Char} {lines : List (List Char)}
    (h : ∀ line ∈ lines, separator ∉ line) :
    splitOn separator (lines.flatMap fun line => line ++ [separator]) = lines ++ [[]] := by
  induction lines with
  | nil => rfl
  | cons line lines ih =>
    rw [List.flatMap_cons, List.append_assoc, List.singleton_append,
      splitOn_line (h line List.mem_cons_self), ih fun l hl => h l (List.mem_cons_of_mem _ hl)]
    rfl

end Text

/-! ## Reading -/

/-- A number as it is published: the name of its counter, the labels as they are written, and its
value. -/
structure Published where
  family : String
  labels : String
  value : Nat
deriving DecidableEq, Repr

namespace Published

/-- Reads a number in digits. -/
def number? (digits : List Char) : Option Nat :=
  if digits ≠ [] ∧ digits.all Char.isDigit then some (Nat.ofDigitChars 10 digits 0) else none

/-- Reads a line, if it is no comment. -/
def readLine (line : List Char) : Option Published :=
  if line.head? = some '#' then none
  else
    let key := line.takeWhile (· ≠ ' ')
    let family := key.takeWhile (· ≠ '\x7b')
    (number? (line.drop (key.length + 1))).map fun value =>
      ⟨String.ofList family, String.ofList (key.drop family.length), value⟩

/-- Reads a text. -/
def read (text : String) : List Published :=
  (Text.splitOn '\n' text.toList).filterMap readLine

/-- The numbers that stand under a name in a text. -/
def under (family : String) (text : String) : List Published :=
  (read text).filter fun p => p.family = family

end Published

namespace Sample

/-- The labels as they stand behind the name. -/
def braced (a : Sample) : String :=
  if a.labels.isEmpty then "" else "\x7b" ++ a.labelText ++ "\x7d"

/-- A sample as it is read. -/
def published (a : Sample) : Published :=
  ⟨a.family, a.braced, a.value⟩

/-- The characters of a sample in its line. -/
def chars (a : Sample) : List Char :=
  a.family.toList ++ a.braced.toList ++ ' ' :: Nat.toDigits 10 a.value

theorem toList_line (a : Sample) : a.line.toList = a.chars ++ ['\n'] := by
  simp [line, chars, braced]

/-- Characters of which names and the values of labels are made. -/
def isWordChar (c : Char) : Bool :=
  c.isAlphanum || c = '_'

/-- Text of such characters. -/
def IsWord (s : String) : Prop :=
  s.toList.all isWordChar = true

instance (s : String) : Decidable (IsWord s) :=
  inferInstanceAs (Decidable (_ = _))

/-- A sample the name and labels of which are words. -/
structure Plain (a : Sample) : Prop where
  family : IsWord a.family
  labels : ∀ l ∈ a.labels, IsWord l.1 ∧ IsWord l.2

theorem mem_intercalate {c : Char} {separator : List Char} {parts : List (List Char)}
    (h : c ∈ separator.intercalate parts) : c ∈ separator ∨ ∃ part ∈ parts, c ∈ part := by
  induction parts with
  | nil => cases h
  | cons part parts ih =>
    cases parts with
    | nil =>
      have h : c ∈ part ++ [] := h
      rw [List.append_nil] at h
      exact .inr ⟨part, List.mem_cons_self, h⟩
    | cons next parts =>
      rw [List.intercalate_cons_cons, List.mem_append, List.mem_append] at h
      rcases h with (h | h) | h
      · exact .inr ⟨part, List.mem_cons_self, h⟩
      · exact .inl h
      · rcases ih h with h | ⟨other, hother, h⟩
        · exact .inl h
        · exact .inr ⟨other, List.mem_cons_of_mem _ hother, h⟩

/-- Around the words of labels stand braces, quotation marks, equals signs and commas only. -/
theorem Plain.mem_braced {a : Sample} (plain : a.Plain) {c : Char} (h : c ∈ a.braced.toList) :
    isWordChar c = true ∨ c ∈ ['\x7b', '\x7d', '"', '=', ','] := by
  unfold braced at h
  split at h
  · cases h
  · simp only [labelText, String.toList_append, String.toList_intercalate, List.mem_append] at h
    rcases h with (h | h) | h
    · obtain rfl := List.mem_singleton.mp h
      exact .inr (by decide)
    · rcases mem_intercalate h with h | ⟨part, hpart, h⟩
      · obtain rfl := List.mem_singleton.mp h
        exact .inr (by decide)
      · simp only [List.map_map, List.mem_map] at hpart
        obtain ⟨⟨name, value⟩, hl, rfl⟩ := hpart
        obtain ⟨hname, hvalue⟩ := plain.labels _ hl
        simp only [Function.comp, String.toList_append, List.mem_append] at h
        rcases h with ((h | h) | h) | h
        · exact .inl (List.all_eq_true.mp hname c h)
        · have h : c ∈ ['=', '"'] := h
          simp only [List.mem_cons, List.not_mem_nil, or_false] at h
          rcases h with rfl | rfl <;> exact .inr (by decide)
        · exact .inl (List.all_eq_true.mp hvalue c h)
        · obtain rfl := List.mem_singleton.mp h
          exact .inr (by decide)
    · obtain rfl := List.mem_singleton.mp h
      exact .inr (by decide)

/-- A character that a reader looks out for is no part of a plain sample. -/
theorem Plain.not_mem {a : Sample} (plain : a.Plain) {c : Char} (hc : c ∈ ['#', ' ', '\n']) :
    c ∉ a.family.toList ++ a.braced.toList := by
  have hword : isWordChar c = false ∧ c ∉ ['\x7b', '\x7d', '"', '=', ','] := by
    simp only [List.mem_cons, List.not_mem_nil, or_false] at hc
    rcases hc with rfl | rfl | rfl <;> decide
  rw [List.mem_append]
  rintro (h | h)
  · have hmem := List.all_eq_true.mp plain.family c h
    rw [hword.1] at hmem
    cases hmem
  · rcases plain.mem_braced h with hmem | hmem
    · rw [hword.1] at hmem
      cases hmem
    · exact hword.2 hmem

theorem Plain.not_mem_chars {a : Sample} (plain : a.Plain) {c : Char} (hc : c ∈ ['#', '\n']) :
    c ∉ a.chars := by
  have hother : c ∈ ['#', ' ', '\n'] ∧ c ≠ ' ' ∧ c.isDigit = false := by
    simp only [List.mem_cons, List.not_mem_nil, or_false] at hc
    rcases hc with rfl | rfl <;> decide
  intro h
  rw [chars, List.mem_append, List.mem_cons] at h
  rcases h with h | h | h
  · exact plain.not_mem hother.1 h
  · exact hother.2.1 h
  · have hdigit := Nat.isDigit_of_mem_toDigits (by decide) (by decide) h
    rw [hother.2.2] at hdigit
    cases hdigit

theorem takeWhile_append_of_not_mem {stop : Char} {cs rest : List Char} (h : stop ∉ cs)
    (hrest : rest = [] ∨ rest.head? = some stop) :
    (cs ++ rest).takeWhile (· ≠ stop) = cs := by
  induction cs with
  | nil =>
    rcases hrest with rfl | hrest
    · rfl
    · cases rest with
      | nil => rfl
      | cons c rest =>
        obtain rfl := Option.some.inj hrest
        simp
  | cons c cs ih =>
    rw [List.mem_cons, not_or] at h
    rw [List.cons_append, List.takeWhile_cons, if_pos (by simpa using Ne.symm h.1), ih h.2]

/-- A plain sample is read as it was written. -/
theorem Plain.readLine_chars {a : Sample} (plain : a.Plain) :
    Published.readLine a.chars = some a.published := by
  have hcomment : ¬ a.chars.head? = some '#' :=
    fun h => plain.not_mem_chars (by decide) (List.mem_of_head? h)
  have hkey : a.chars.takeWhile (· ≠ ' ') = a.family.toList ++ a.braced.toList :=
    takeWhile_append_of_not_mem (plain.not_mem (by decide)) (.inr rfl)
  have hbrace : a.braced.toList = [] ∨ a.braced.toList.head? = some '\x7b' := by
    unfold braced
    split
    · exact .inl rfl
    · right
      simp
  have hfamily : '\x7b' ∉ a.family.toList :=
    fun h => absurd (List.all_eq_true.mp plain.family _ h) (by decide)
  have hname : (a.family.toList ++ a.braced.toList).takeWhile (· ≠ '\x7b') = a.family.toList :=
    takeWhile_append_of_not_mem hfamily hbrace
  have hdrop : a.chars.drop ((a.family.toList ++ a.braced.toList).length + 1) =
      Nat.toDigits 10 a.value := by
    rw [chars, List.drop_append]
    simp
  have hnumber : Published.number? (Nat.toDigits 10 a.value) = some a.value := by
    have hdigits : (Nat.toDigits 10 a.value).all Char.isDigit = true :=
      List.all_eq_true.mpr fun c hc => Nat.isDigit_of_mem_toDigits (by decide) (by decide) hc
    rw [Published.number?, if_pos ⟨Nat.toDigits_ne_nil, hdigits⟩, Nat.ofDigitChars_ten_toDigits]
  unfold Published.readLine
  rw [if_neg hcomment]
  simp only [hkey, hname, hdrop, hnumber]
  simp [published]

theorem readLine_map_chars {as : List Sample} (plain : ∀ a ∈ as, a.Plain) :
    (as.map chars).filterMap Published.readLine = as.map published := by
  induction as with
  | nil => rfl
  | cons a as ih =>
    have hfirst := (plain a List.mem_cons_self).readLine_chars
    rw [List.map_cons, List.filterMap_cons_some hfirst,
      ih fun b hb => plain b (List.mem_cons_of_mem _ hb)]
    rfl

end Sample

/-! ## Families -/

/-- The labels of a series are words, whatever it counts. -/
theorem Series.isWord_labels (s : Series) :
    ∀ l ∈ s.labels, Sample.IsWord l.1 ∧ Sample.IsWord l.2 := by
  have hname : ∀ name : Rpc.RequestName, Sample.IsWord name.label := by
    rintro (m | _ | _)
    · cases m <;> decide
    · decide
    · decide
  have houtcome : ∀ outcome : Rpc.Outcome, Sample.IsWord outcome.label := by
    rintro (_ | _ | _ | _ | kind)
    iterate 4 decide
    cases kind <;> decide
  have hkind : ∀ kind : TransferKind, Sample.IsWord kind.name := by
    intro kind
    cases kind <;> decide
  have hfixed : Sample.IsWord "method" ∧ Sample.IsWord "outcome" ∧ Sample.IsWord "kind" := by
    decide
  obtain ⟨hmethod, hended, hof⟩ := hfixed
  cases s with
  | request name outcome =>
    refine List.forall_mem_cons.mpr ⟨⟨hmethod, hname name⟩, ?_⟩
    exact List.forall_mem_singleton.mpr ⟨hended, houtcome outcome⟩
  | submission kind => exact List.forall_mem_singleton.mpr ⟨hof, hkind kind⟩
  | alreadyCompleted kind => exact List.forall_mem_singleton.mpr ⟨hof, hkind kind⟩
  | queryFailure => exact nofun

namespace CounterFamily

/-- The lines of a family. -/
def lines (f : CounterFamily) (m : Metrics) : List (List Char) :=
  if (f.samples m).isEmpty then []
  else
    ("# HELP " ++ f.name ++ " " ++ f.help).toList :: ("# TYPE " ++ f.name ++ " counter").toList ::
      (f.samples m).map Sample.chars

theorem toList_exposition (f : CounterFamily) (m : Metrics) :
    (f.exposition m).toList = (f.lines m).flatMap fun line => line ++ ['\n'] := by
  unfold exposition lines
  dsimp only
  split
  · rfl
  · have hlines : ((f.samples m).map Sample.line).flatMap String.toList =
        ((f.samples m).map Sample.chars).flatMap fun line => line ++ ['\n'] := by
      simp only [List.flatMap_map, Sample.toList_line]
    simp [String.toList_join, hlines]

/-- Every sample that is shown is of a series of its family. -/
theorem exists_series_of_mem {f : CounterFamily} {m : Metrics} {a : Sample}
    (h : a ∈ f.samples m) : ∃ s ∈ f.series, a = ⟨f.name, s.labels, m.count s⟩ := by
  have h := (List.mergeSort_perm _ _).mem_iff.mp h
  obtain ⟨s, hs, rfl⟩ := List.mem_map.mp h
  exact ⟨s, (List.mem_filter.mp hs).1, rfl⟩

/-- What the service says of its counters fits in a line, and their names are words. -/
theorem fits_of_mem : ∀ f ∈ all, Sample.IsWord f.name ∧ '\n' ∉ f.help.toList := by
  decide +kernel

theorem plain_of_mem {f : CounterFamily} (hf : f ∈ all) {m : Metrics} {a : Sample}
    (h : a ∈ f.samples m) : a.Plain := by
  obtain ⟨s, -, rfl⟩ := exists_series_of_mem h
  exact ⟨(fits_of_mem f hf).1, s.isWord_labels⟩

theorem newline_not_mem_lines {f : CounterFamily} (hf : f ∈ all) (m : Metrics) :
    ∀ line ∈ f.lines m, '\n' ∉ line := by
  obtain ⟨hname, hhelp⟩ := fits_of_mem f hf
  have hname : '\n' ∉ f.name.toList := fun h =>
    absurd (List.all_eq_true.mp hname _ h) (by decide)
  intro line hline
  unfold lines at hline
  split at hline
  · cases hline
  · rcases List.mem_cons.mp hline with rfl | hline
    · simp [hname, hhelp]
    · rcases List.mem_cons.mp hline with rfl | hline
      · simp [hname]
      · obtain ⟨a, ha, rfl⟩ := List.mem_map.mp hline
        exact (plain_of_mem hf ha).not_mem_chars (by decide)

/-- The lines of a family are read as its samples. -/
theorem readLine_lines {f : CounterFamily} (hf : f ∈ all) (m : Metrics) :
    (f.lines m).filterMap Published.readLine = (f.samples m).map Sample.published := by
  have hsamples : ((f.samples m).map Sample.chars).filterMap Published.readLine =
      (f.samples m).map Sample.published :=
    Sample.readLine_map_chars fun a ha => plain_of_mem hf ha
  unfold lines
  split
  · next h =>
    rw [List.isEmpty_iff.mp h]
    rfl
  · have hcomment : ∀ rest : String, Published.readLine ("# " ++ rest).toList = none := by
      intro rest
      rw [String.toList_append]
      rfl
    have hhelp : "# HELP " ++ f.name ++ " " ++ f.help =
        "# " ++ ("HELP " ++ f.name ++ " " ++ f.help) := by
      simp only [← String.append_assoc]
      rfl
    have htype : "# TYPE " ++ f.name ++ " counter" = "# " ++ ("TYPE " ++ f.name ++ " counter") := by
      simp only [← String.append_assoc]
      rfl
    rw [List.filterMap_cons_none, List.filterMap_cons_none, hsamples]
    · rw [htype, hcomment]
    · rw [hhelp, hcomment]

end CounterFamily

/-! ## All counters -/

namespace Metrics

/-- **What is published reads back** as the samples that are shown. -/
theorem read_exposition (m : Metrics) :
    Published.read m.exposition = m.samples.map Sample.published := by
  have hlines : m.exposition.toList =
      (CounterFamily.all.flatMap fun f => f.lines m).flatMap fun line => line ++ ['\n'] := by
    rw [exposition, String.toList_join, List.flatMap_map, List.flatMap_assoc]
    simp only [CounterFamily.toList_exposition]
  have hnewline : ∀ line ∈ CounterFamily.all.flatMap (fun f => f.lines m), '\n' ∉ line := by
    intro line hline
    obtain ⟨f, hf, hline⟩ := List.mem_flatMap.mp hline
    exact CounterFamily.newline_not_mem_lines hf m line hline
  have hread : ∀ fs : List CounterFamily, (∀ f ∈ fs, f ∈ CounterFamily.all) →
      (fs.flatMap fun f => f.lines m).filterMap Published.readLine =
        (fs.flatMap fun f => f.samples m).map Sample.published := by
    intro fs
    induction fs with
    | nil => exact fun _ => rfl
    | cons f fs ih =>
      intro hfs
      rw [List.flatMap_cons, List.flatMap_cons, List.filterMap_append, List.map_append,
        CounterFamily.readLine_lines (hfs f List.mem_cons_self) m,
        ih fun g hg => hfs g (List.mem_cons_of_mem _ hg)]
  rw [Published.read, hlines, Text.splitOn_lines hnewline, List.filterMap_append,
    hread _ fun f hf => hf]
  exact List.append_nil _

/-- Under the name of requests stand the samples of its family and nothing else. -/
theorem published_requests (m : Metrics) :
    ∃ f ∈ CounterFamily.all, f.series = requestSeries ∧ f.preset = false ∧
      Published.under "oracle_requests_total" m.exposition =
        (f.samples m).map Sample.published := by
  have hfilter : ∀ f : CounterFamily, ((f.samples m).map Sample.published).filter
      (fun p => p.family = "oracle_requests_total") =
        if f.name = "oracle_requests_total" then (f.samples m).map Sample.published else [] := by
    intro f
    have hname : ∀ p ∈ (f.samples m).map Sample.published, p.family = f.name := by
      intro p hp
      obtain ⟨a, ha, rfl⟩ := List.mem_map.mp hp
      obtain ⟨s, -, rfl⟩ := CounterFamily.exists_series_of_mem ha
      rfl
    by_cases h : f.name = "oracle_requests_total"
    · rw [if_pos h]
      refine List.filter_eq_self.mpr fun p hp => ?_
      rw [hname p hp, h]
      rfl
    · rw [if_neg h]
      refine List.filter_eq_nil_iff.mpr fun p hp => ?_
      rw [hname p hp]
      simpa using h
  refine ⟨⟨"oracle_requests_total", "JSON-RPC requests handled", requestSeries, false⟩,
    by simp [CounterFamily.all], rfl, rfl, ?_⟩
  rw [Published.under, read_exposition, samples, CounterFamily.all]
  simp [List.filter_append, hfilter]

/-- The numbers of requests that are published add up to the requests counted. -/
theorem sum_published_requests (m : Metrics) :
    ((Published.under "oracle_requests_total" m.exposition).map Published.value).sum =
      m.totalRequests := by
  obtain ⟨f, -, hseries, hpreset, hpublished⟩ := m.published_requests
  have hvalues : ((f.samples m).map Sample.published).map Published.value =
      (f.samples m).map Sample.value := by
    rw [List.map_map]
    rfl
  have hshown : ((f.samples m).map Sample.value).Perm
      ((requestSeries.filter fun s => false || decide (0 < m.count s)).map m.count) := by
    have hsorted := (List.mergeSort_perm
      ((f.series.filter fun s => f.preset || decide (0 < m.count s)).map fun s =>
        (⟨f.name, s.labels, m.count s⟩ : Sample)) Sample.le).map Sample.value
    rw [List.map_map, hseries, hpreset] at hsorted
    unfold CounterFamily.samples
    rw [hseries, hpreset]
    exact hsorted
  -- what is not shown has not been counted
  have hall : ∀ l : List Series, ((l.filter fun s => false || decide (0 < m.count s)).map
      m.count).sum = (l.map m.count).sum := by
    intro l
    induction l with
    | nil => rfl
    | cons s l ih =>
      by_cases h : 0 < m.count s
      · rw [List.filter_cons_of_pos (by simpa using h), List.map_cons, List.map_cons,
          List.sum_cons, List.sum_cons, ih]
      · rw [List.filter_cons_of_neg (by simpa using h), List.map_cons, List.sum_cons, ih]
        omega
  rw [hpublished, hvalues, hshown.sum_nat, hall, totalRequests, List.sum_eq_foldl]

/-- Requests are published under no labels but those of the service. -/
theorem labels_published_requests {m : Metrics} {p : Published}
    (h : p ∈ Published.under "oracle_requests_total" m.exposition) :
    ∃ (name : Rpc.RequestName) (outcome : Rpc.Outcome),
      p.labels = "\x7bmethod=\"" ++ name.label ++ "\",outcome=\"" ++ outcome.label ++ "\"\x7d" ∧
        p.value = m.count (.request name outcome) := by
  obtain ⟨f, -, hseries, -, hpublished⟩ := m.published_requests
  rw [hpublished] at h
  obtain ⟨a, ha, rfl⟩ := List.mem_map.mp h
  obtain ⟨s, hs, rfl⟩ := CounterFamily.exists_series_of_mem ha
  rw [hseries] at hs
  obtain ⟨name, -, hs⟩ := List.mem_flatMap.mp hs
  obtain ⟨outcome, -, rfl⟩ := List.mem_map.mp hs
  refine ⟨name, outcome, String.toList_inj.mp ?_, rfl⟩
  simp [Sample.published, Sample.braced, Sample.labelText, Series.labels]

end Metrics

end TransferRelay
