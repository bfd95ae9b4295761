import Mathlib.Data.List.TakeDrop
import Telemetry.Collector.Exposition
import Telemetry.Proofs.Number.ShortestDecimal

/-! # Exported metrics read back

A reader of the exported text finds in it the samples of the metrics (`read_exposition`): a label
may hold any text, and a value is read in floating point.

The reader is written from the format and not from the writer.  It takes a line apart at the braces
and the quotes, undoes the escapes of a label, and passes over comments and empty lines.  That no
character of a label can be taken for the end of it, or for the end of the line, is what the lemmas
about labels and lines are for: an escaped character is read as itself (`quoted_escape`), and no
line of a sample holds a newline (`newline_not_mem_line`).

From there the text is read line by line (`readLines_cons`), and family by family, whatever text
follows (`readLines_family`).
-/

namespace Telemetry

namespace Exposition

/-- A sample as a reader of the text sees it: the name of the metric, the labels in the order in
which they are written, and the value. -/
structure Point where
  name : String
  labels : List (String × String)
  value : Int
deriving DecidableEq

/-! ## The reader -/

/-- The character that an escape in a quoted label stands for. -/
def unescape? : Char → Option Char
  | '\\' => some '\\'
  | 'n' => some '\n'
  | '"' => some '"'
  | _ => none

/-- A quoted label after its opening quote, and what follows the closing one.  A quote behind a
backslash does not close it. -/
def quoted : List Char → Option (List Char × List Char)
  | [] => none
  | '"' :: rest => some ([], rest)
  | '\\' :: e :: rest => do
    let c ← unescape? e
    let (cs, rest) ← quoted rest
    return (c :: cs, rest)
  | c :: rest => (quoted rest).map fun (cs, rest) => (c :: cs, rest)

/-- A character of a name. -/
def isNameChar (c : Char) : Bool := c.isAlphanum || c = '_' || c = ':'

/-- The labels after the opening brace, at most `fuel` of them, and what follows the closing one.
The bound is on the number of labels and not on their length, so that the recursion is on it. -/
def readLabels : (fuel : Nat) → List Char → Option (List (String × String) × List Char)
  | 0, _ => none
  | fuel + 1, s =>
    match s.span isNameChar with
    | (name, '=' :: '"' :: s) =>
      match quoted s with
      | some (value, ',' :: s) => (readLabels fuel s).map fun (ls, s) =>
        ((String.ofList name, String.ofList value) :: ls, s)
      | some (value, '\x7d' :: s) => some ([(String.ofList name, String.ofList value)], s)
      | _ => none
    | _ => none

/-- A line with a sample: a name, labels in braces, a blank, and a number.  The length of the text
bounds the number of its labels. -/
def readSample (s : List Char) : Option Point :=
  match s.span isNameChar with
  | (name, '\x7b' :: s) =>
    match readLabels s.length s with
    | some (labels, ' ' :: s) =>
      (ShortestDecimal.read? s).map fun value => ⟨String.ofList name, labels, value⟩
    | _ => none
  | _ => none

/-- Whether a line holds a sample: it is not empty and no comment. -/
def holdsSample (line : List Char) : Bool := line ≠ [] && line.head? ≠ some '#'

/-- The samples of the lines of a text. -/
def readLines (s : List Char) : Option (List Point) :=
  ((s.splitOn '\n').filter holdsSample).mapM readSample

/-- The samples of an exported text. -/
def read (text : String) : Option (List Point) := readLines text.toList

/-! ## Labels -/

/-- An escaped character is read as itself, in front of whatever has been read behind it. -/
theorem quoted_escape (c : Char) {s cs rest : List Char} (h : quoted s = some (cs, rest)) :
    quoted (escape c ++ s) = some (c :: cs, rest) := by
  unfold escape
  split_ifs with hbackslash hnewline hquote
  · subst hbackslash
    simp [quoted, unescape?, h]
  · subst hnewline
    simp [quoted, unescape?, h]
  · subst hquote
    simp [quoted, unescape?, h]
  · rw [List.singleton_append, quoted.eq_def]
    split <;> simp_all

theorem quoted_flatMap_escape (cs rest : List Char) :
    quoted (cs.flatMap escape ++ '"' :: rest) = some (cs, rest) := by
  induction cs with
  | nil => rfl
  | cons c cs ih => rw [List.flatMap_cons, List.append_assoc, quoted_escape c ih]

theorem newline_not_mem_escape (c : Char) : '\n' ∉ escape c := by
  unfold escape
  split_ifs with hbackslash hnewline hquote
  · decide
  · decide
  · decide
  · exact fun h => hnewline (List.mem_singleton.mp h).symm

/-- What a name is made of. -/
def IsName (name : String) : Prop := name.toList ≠ [] ∧ ∀ c ∈ name.toList, isNameChar c

instance (name : String) : Decidable (IsName name) :=
  decidable_of_iff (name.toList ≠ [] ∧ name.toList.all isNameChar)
    (and_congr_right fun _ => List.all_eq_true)

theorem IsName.newline_not_mem {name : String} (h : IsName name) : '\n' ∉ name.toList :=
  fun hmem => absurd (h.2 _ hmem) (by decide)

theorem span_name {name rest : List Char} {c : Char} (hname : ∀ c ∈ name, isNameChar c)
    (hc : isNameChar c = false) :
    (name ++ c :: rest).span isNameChar = (name, c :: rest) := by
  have hstop : ¬ isNameChar c := by simp [hc]
  rw [List.span_eq_takeWhile_dropWhile, List.takeWhile_append_of_pos hname,
    List.dropWhile_append_of_pos hname, List.takeWhile_cons_of_neg hstop,
    List.dropWhile_cons_of_neg hstop, List.append_nil]

theorem toList_label (l : String × String) :
    (label l).toList = l.1.toList ++ '=' :: '"' :: (l.2.toList.flatMap escape ++ ['"']) := by
  simp [label, String.toList_append]

/-- The last label stands before the closing brace, and ends the reading of labels. -/
theorem readLabels_last {l : String × String} (hname : IsName l.1) (fuel : Nat)
    (rest : List Char) :
    readLabels (fuel + 1) ((label l).toList ++ '\x7d' :: rest) = some ([l], rest) := by
  rw [toList_label, List.append_assoc, List.cons_append, List.cons_append, List.append_assoc,
    List.singleton_append, readLabels, span_name hname.2 (by decide)]
  simp only [quoted_flatMap_escape, String.ofList_toList]

/-- Any other label stands before a comma. -/
theorem readLabels_next {l : String × String} (hname : IsName l.1) {fuel : Nat} {s : List Char}
    {ls : List (String × String)} {rest : List Char} (h : readLabels fuel s = some (ls, rest)) :
    readLabels (fuel + 1) ((label l).toList ++ ',' :: s) = some (l :: ls, rest) := by
  rw [toList_label, List.append_assoc, List.cons_append, List.cons_append, List.append_assoc,
    List.singleton_append, readLabels, span_name hname.2 (by decide)]
  simp only [quoted_flatMap_escape, String.ofList_toList, h, Option.map_some]

/-- The labels of a sample are read as what they are, by induction on the labels, with any text
behind the brace. -/
theorem readLabels_labels {l : String × String} {ls : List (String × String)}
    (hnames : ∀ l' ∈ l :: ls, IsName l'.1) {fuel : Nat} (hfuel : ls.length < fuel)
    (rest : List Char) :
    readLabels fuel ((String.intercalate "," ((l :: ls).map label)).toList ++ '\x7d' :: rest) =
      some (l :: ls, rest) := by
  induction ls generalizing l fuel with
  | nil =>
    obtain ⟨fuel, rfl⟩ := Nat.exists_eq_succ_of_ne_zero (Nat.ne_zero_of_lt hfuel)
    rw [String.toList_intercalate, List.map_singleton, List.map_singleton,
      List.intercalate_singleton]
    exact readLabels_last (hnames l (List.mem_cons_self ..)) fuel rest
  | cons l' ls ih =>
    obtain ⟨fuel, rfl⟩ := Nat.exists_eq_succ_of_ne_zero (Nat.ne_zero_of_lt hfuel)
    have hrest := ih (l := l') (fun a ha => hnames a (List.mem_cons_of_mem _ ha))
      (Nat.lt_of_succ_lt_succ hfuel)
    rw [String.toList_intercalate] at hrest ⊢
    simp only [List.map_cons, List.intercalate_cons_cons, List.append_assoc] at hrest ⊢
    exact readLabels_next (hnames l (List.mem_cons_self ..)) hrest

/-- The length of the text covers the number of labels, so it does as a bound. -/
theorem length_le_labels (l : String × String) (ls : List (String × String)) :
    ls.length ≤ (String.intercalate "," ((l :: ls).map label)).toList.length := by
  induction ls generalizing l with
  | nil => exact Nat.zero_le _
  | cons l' ls ih =>
    have hrest := ih l'
    rw [String.toList_intercalate] at hrest ⊢
    simp only [List.map_cons, List.intercalate_cons_cons, List.length_append,
      List.length_cons] at hrest ⊢
    have hcomma : ",".toList.length = 1 := rfl
    omega

/-! ## Lines -/

/-- The line of a sample, without its end.  It is what the writer makes, taken apart where the
reader takes it apart. -/
def line (name : String) (labels : List (String × String)) (value : Int) : List Char :=
  name.toList ++ '\x7b' :: ((String.intercalate "," (labels.map label)).toList ++
    '\x7d' :: ' ' :: (ShortestDecimal.text value).toList)

theorem toList_sample (name : String) (labels : List (String × String)) (value : Int) :
    (sample name labels value).toList = line name labels value ++ ['\n'] := by
  simp [sample, line, String.toList_append]

/-- The line of a sample is read as the sample, with its value rounded to what floating point
holds. -/
theorem readSample_line {name : String} (hname : IsName name) {labels : List (String × String)}
    (hlabels : labels ≠ []) (hnames : ∀ l ∈ labels, IsName l.1) (value : Int) :
    readSample (line name labels value) = some ⟨name, labels, ShortestDecimal.nearest value⟩ := by
  obtain ⟨l, ls, rfl⟩ := List.exists_cons_of_ne_nil hlabels
  have hfuel := length_le_labels l ls
  rw [line, readSample, span_name hname.2 (by decide)]
  simp only
  rw [readLabels_labels hnames (by simp only [List.length_append, List.length_cons]; omega)]
  simp only [ShortestDecimal.read?_text, Option.map_some, String.ofList_toList]

theorem newline_not_mem_label {l : String × String} (hname : IsName l.1) :
    '\n' ∉ (label l).toList := by
  have hescaped : '\n' ∉ l.2.toList.flatMap escape := fun hmem => by
    obtain ⟨c, -, hc⟩ := List.mem_flatMap.mp hmem
    exact newline_not_mem_escape c hc
  rw [toList_label]
  simp [hname.newline_not_mem, hescaped]

theorem newline_not_mem_labels {labels : List (String × String)}
    (hnames : ∀ l ∈ labels, IsName l.1) :
    '\n' ∉ (String.intercalate "," (labels.map label)).toList := by
  rw [String.toList_intercalate]
  induction labels with
  | nil => exact List.not_mem_nil
  | cons l ls ih =>
    have hl := newline_not_mem_label (hnames l (List.mem_cons_self ..))
    have hls := ih fun l' h => hnames l' (List.mem_cons_of_mem _ h)
    cases ls with
    | nil =>
      rw [List.map_singleton, List.map_singleton, List.intercalate_singleton]
      exact hl
    | cons l' ls =>
      simp only [List.map_cons, List.intercalate_cons_cons, List.mem_append, not_or] at hls ⊢
      exact ⟨⟨hl, by decide⟩, hls⟩

/-- A sample stands on one line, whatever its labels hold: a newline in a label is escaped. -/
theorem newline_not_mem_line {name : String} (hname : IsName name)
    {labels : List (String × String)} (hnames : ∀ l ∈ labels, IsName l.1) (value : Int) :
    '\n' ∉ line name labels value := by
  have hvalue : '\n' ∉ (ShortestDecimal.text value).toList := fun hmem =>
    absurd (ShortestDecimal.mem_text hmem) (by decide)
  unfold line
  simp only [List.mem_append, List.mem_cons, not_or]
  exact ⟨hname.newline_not_mem, by decide, newline_not_mem_labels hnames, by decide, by decide,
    hvalue⟩

/-! ## The text line by line -/

theorem readLines_cons {l : List Char} (h : '\n' ∉ l) (rest : List Char) :
    readLines (l ++ '\n' :: rest) =
      if holdsSample l then (readSample l).bind fun s => (readLines rest).map (s :: ·)
      else readLines rest := by
  unfold readLines
  rw [List.splitOn_append_cons_self_of_not_mem h, List.filter_cons]
  split
  · rw [List.mapM_cons]
    cases readSample l <;> cases (List.filter holdsSample _).mapM readSample <;> rfl
  · rfl

/-- A comment is passed over, so that the help text and the type of a family say nothing about
samples. -/
theorem readLines_comment {l : List Char} (h : '\n' ∉ l) (rest : List Char) :
    readLines ('#' :: (l ++ '\n' :: rest)) = readLines rest := by
  have hline : '\n' ∉ '#' :: l := by simp [h]
  rw [← List.cons_append, readLines_cons hline]
  rfl

theorem holdsSample_line {name : String} (hname : IsName name) (labels : List (String × String))
    (value : Int) : holdsSample (line name labels value) := by
  obtain ⟨c, cs, hchars⟩ := List.exists_cons_of_ne_nil hname.1
  have hcomment : c ≠ '#' := by
    rintro rfl
    exact absurd (hname.2 '#' (by rw [hchars]; exact List.mem_cons_self ..)) (by decide)
  unfold line holdsSample
  simp [hchars, hcomment]

section family

variable {α : Type} {name help kind : String} {labels : α → List (String × String)}
  {value : α → Int} {xs : List α}

theorem readLines_samples (hname : IsName name) (hlabels : ∀ x ∈ xs, labels x ≠ [])
    (hnames : ∀ x ∈ xs, ∀ l ∈ labels x, IsName l.1) (rest : List Char) :
    readLines ((String.join (xs.map fun x => sample name (labels x) (value x))).toList ++ rest) =
      (readLines rest).map
        ((xs.map fun x => ⟨name, labels x, ShortestDecimal.nearest (value x)⟩) ++ ·) := by
  rw [String.toList_join]
  induction xs with
  | nil => exact Option.map_id'.symm
  | cons x xs ih =>
    have hx := List.mem_cons_self (a := x) (l := xs)
    have hrest := ih (fun y hy => hlabels y (List.mem_cons_of_mem _ hy))
      fun y hy => hnames y (List.mem_cons_of_mem _ hy)
    rw [List.map_cons, List.flatMap_cons, toList_sample, List.append_assoc, List.append_assoc,
      List.singleton_append, readLines_cons (newline_not_mem_line hname (hnames x hx) _),
      if_pos (holdsSample_line hname _ _),
      readSample_line hname (hlabels x hx) (hnames x hx), Option.bind_some, hrest, Option.map_map]
    rfl

/-- The samples of a family are read behind its two comments, in order, and the rest of the text is
left to be read. -/
theorem readLines_family (hname : IsName name) (hhelp : '\n' ∉ help.toList)
    (hkind : '\n' ∉ kind.toList) (hlabels : ∀ x ∈ xs, labels x ≠ [])
    (hnames : ∀ x ∈ xs, ∀ l ∈ labels x, IsName l.1) (rest : List Char) :
    readLines ((family name help kind
        (xs.map fun x => sample name (labels x) (value x))).toList ++ rest) =
      (readLines rest).map
        ((xs.map fun x => ⟨name, labels x, ShortestDecimal.nearest (value x)⟩) ++ ·) := by
  by_cases hempty : xs = []
  · subst hempty
    exact Option.map_id'.symm
  · have hsamples : ¬ (xs.map fun x => sample name (labels x) (value x)).isEmpty := by
      simpa using hempty
    have hline {word rest : String} (hword : '\n' ∉ word.toList) (hrest : '\n' ∉ rest.toList) :
        '\n' ∉ (word ++ name ++ " " ++ rest).toList := by
      simp [String.toList_append, hword, hname.newline_not_mem, hrest]
    have htext : (family name help kind
        (xs.map fun x => sample name (labels x) (value x))).toList ++ rest =
        '#' :: ((" HELP " ++ name ++ " " ++ help).toList ++ '\n' ::
          '#' :: ((" TYPE " ++ name ++ " " ++ kind).toList ++ '\n' ::
            ((String.join (xs.map fun x =>
              sample name (labels x) (value x))).toList ++ rest))) := by
      rw [family, if_neg hsamples]
      simp [String.toList_append]
    rw [htext, readLines_comment (hline (by decide) hhelp),
      readLines_comment (hline (by decide) hkind), readLines_samples hname hlabels hnames]

end family

end Exposition

/-! ## All metrics -/

/-- The sample of the failures of a source. -/
def Exposition.Point.ofFailures (e : String × Nat) : Exposition.Point :=
  ⟨"sensor_collect_failures_total", [("host", e.1)], ShortestDecimal.nearest e.2⟩

/-- The sample of a series. -/
def Exposition.Point.ofValue (v : SeriesValue) : Exposition.Point :=
  ⟨"sensor_value", v.labels.pairs, ShortestDecimal.nearest v.value.toInt⟩

namespace Metrics

/-- What an export lists, the failures before the values, each family in the order of its keys. -/
def samples (m : Metrics) : List Exposition.Point :=
  m.failures.entries.map .ofFailures ++ m.sortedSeries.map .ofValue

/-- The exported text is read as the samples of the metrics.  Nothing is lost between the metrics
and the text but what floating point cannot hold. -/
theorem read_exposition (m : Metrics) : Exposition.read m.exposition = some m.samples := by
  have hlabels : ∀ v ∈ m.sortedSeries, ∀ p ∈ v.labels.pairs, Exposition.IsName p.1 := by
    intro v _ p hp
    have hname : p.1 ∈ v.labels.pairs.map Prod.fst := List.mem_map_of_mem hp
    have hall : ∀ n ∈ ["hardware_id", "hardware_name", "hardware_type", "host", "sensor_id",
      "sensor_name", "sensor_type"], Exposition.IsName n := by decide
    exact hall p.1 hname
  have hlabelled : ∀ v ∈ m.sortedSeries, v.labels.pairs ≠ [] := fun _ _ => List.cons_ne_nil _ _
  have hhost : ∀ e ∈ m.failures.entries, ∀ p ∈ [("host", e.1)], Exposition.IsName p.1 := by
    intro e _ p hp
    have hname : p.1 = "host" := congrArg Prod.fst (List.mem_singleton.mp hp)
    rw [hname]
    decide
  unfold Exposition.read exposition samples
  rw [String.toList_append,
    Exposition.readLines_family (by decide) (by decide) (by decide)
      (fun _ _ => List.cons_ne_nil _ _) hhost,
    ← List.append_nil (String.toList _),
    Exposition.readLines_family (by decide) (by decide) (by decide) hlabelled hlabels]
  show some (m.failures.entries.map Exposition.Point.ofFailures ++
    (m.sortedSeries.map Exposition.Point.ofValue ++ [])) = _
  rw [List.append_nil]

end Metrics

end Telemetry
