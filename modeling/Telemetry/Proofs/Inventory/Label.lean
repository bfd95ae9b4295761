import Mathlib.Data.List.Chain
import Mathlib.Data.List.TakeWhile
import Telemetry.Inventory.Label

/-! # The normal form of a label

A label is made of words, its maximal runs of letters and digits.  The slug writes them in lower
case with one underscore between two of them; nothing else of the label is left, and the words can
be read off the slug again (`words_slug`).  All that is promised of slugs follows from these two
facts.

The pass over a label holds its slug backwards.  It adds an underscore at the end of each run, and
takes away the one at the end of the label when it is over.  Its invariant is about whole runs and
not about characters: after some runs it holds their words and one underscore (`closed`), and the
next run adds the next word (`kept_foldl`).  So the induction is on the runs of a text
(`run_induction`), and each of its cases sees at most one of them.

A label without a letter or a digit has no word.  Its slug says that it is unnamed, as does the slug
of a label with just that word.
-/

namespace Telemetry.Label

/-- The maximal runs of letters and digits of a text, in order; between two blanks there is none. -/
def runs (s : List Char) : List (List Char) :=
  (s.splitOnP fun c => !isAlphanumeric c).filter fun r => !r.isEmpty

/-- The runs of a text in lower case. -/
def words (s : List Char) : List (List Char) := (runs s).map (List.map lower)

/-- Words with one underscore between two of them. -/
def joined (ws : List (List Char)) : List Char := ['_'].intercalate ws

/-- A small letter or a digit of ASCII: what a word of a slug is made of. -/
def IsWordChar (c : Char) : Prop := ('a' ≤ c ∧ c ≤ 'z') ∨ ('0' ≤ c ∧ c ≤ '9')

instance (c : Char) : Decidable (IsWordChar c) := inferInstanceAs (Decidable (_ ∨ _))

/-- A text in normal form: words of small letters and digits, with single underscores between them
and nowhere else. -/
structure IsNormal (s : List Char) : Prop where
  ne_nil : s ≠ []
  chars : ∀ c ∈ s, IsWordChar c ∨ c = '_'
  head : s.head? ≠ some '_'
  last : s.getLast? ≠ some '_'
  single : s.IsChain fun c d => ¬ (c = '_' ∧ d = '_')

/-! ## Letters and digits -/

/-- What holds of every letter and digit is seen by looking at the ASCII characters.  There are no
others beyond those. -/
theorem of_isAlphanumeric {P : Char → Prop}
    (h : ∀ n < 128, isAlphanumeric (Char.ofNat n) → P (Char.ofNat n)) {c : Char}
    (hc : isAlphanumeric c) : P c := by
  have hlt : c.toNat < 128 := by
    simp only [isAlphanumeric, Bool.or_eq_true, Bool.and_eq_true, decide_eq_true_eq, Char.le_def,
      UInt32.le_iff_toNat_le] at hc
    have h9 : '9'.val.toNat = 57 := rfl
    have hz : 'z'.val.toNat = 122 := rfl
    have hZ : 'Z'.val.toNat = 90 := rfl
    show c.val.toNat < 128
    omega
  rw [← Char.ofNat_toNat c] at hc ⊢
  exact h c.toNat hlt hc

theorem isWordChar_lower {c : Char} (hc : isAlphanumeric c) : IsWordChar (lower c) :=
  of_isAlphanumeric (P := fun c => IsWordChar (lower c)) (by decide) hc

namespace IsWordChar

variable {c : Char}

theorem isAlphanumeric (h : IsWordChar c) : Label.isAlphanumeric c := by
  unfold Label.isAlphanumeric
  rcases h with h | h <;> simp [h]

theorem lower_eq (h : IsWordChar c) : lower c = c :=
  of_isAlphanumeric (P := fun c => IsWordChar c → lower c = c) (by decide) h.isAlphanumeric h

theorem ne_underscore (h : IsWordChar c) : c ≠ '_' := by
  rintro rfl
  revert h
  decide

end IsWordChar

/-! ## Runs -/

theorem runs_of_forall {s : List Char} (h : ∀ c ∈ s, isAlphanumeric c) :
    runs s = if s.isEmpty then [] else [s] := by
  unfold runs
  rw [List.splitOnP_eq_singleton (by simpa using h)]
  cases s <;> rfl

/-- What is no letter and no digit ends a run and belongs to none, so that the runs on both sides of
it are those of the text. -/
theorem runs_append_cons (s t : List Char) {c : Char} (hc : isAlphanumeric c = false) :
    runs (s ++ c :: t) = runs s ++ runs t := by
  unfold runs
  rw [List.splitOnP_append_cons _ _ (by rw [hc]; rfl), List.filter_append]

theorem words_append_cons (s t : List Char) {c : Char} (hc : isAlphanumeric c = false) :
    words (s ++ c :: t) = words s ++ words t := by
  unfold words
  rw [runs_append_cons s t hc, List.map_append]

/-- A text is one run, or begins with a run (an empty one, if need be) that something ends; so what
holds of runs and is kept by what ends them holds of every text. -/
theorem run_induction {P : List Char → Prop} (hrun : ∀ run, (∀ c ∈ run, isAlphanumeric c) → P run)
    (hcons : ∀ run c rest, (∀ d ∈ run, isAlphanumeric d) → isAlphanumeric c = false → P rest →
      P (run ++ c :: rest)) (s : List Char) : P s := by
  match hrest : s.dropWhile isAlphanumeric with
  | [] => exact hrun s (List.dropWhile_eq_nil_iff.mp hrest)
  | c :: rest =>
    have hs : s.takeWhile isAlphanumeric ++ c :: rest = s := by
      rw [← hrest, List.takeWhile_append_dropWhile]
    have hc : isAlphanumeric c = false := by
      have hhead := List.head?_dropWhile_not isAlphanumeric s
      rwa [hrest] at hhead
    have hshorter : rest.length < s.length := by
      rw [← hs, List.length_append, List.length_cons]
      omega
    exact hs ▸ hcons _ c rest (List.all_eq_true.mp List.all_takeWhile) hc
      (run_induction hrun hcons rest)
termination_by s.length

/-- A word is not empty and holds small letters and digits only. -/
structure IsWord (w : List Char) : Prop where
  ne_nil : w ≠ []
  chars : ∀ c ∈ w, IsWordChar c

theorem words_of_forall {s : List Char} (h : ∀ c ∈ s, isAlphanumeric c) :
    words s = if s.isEmpty then [] else [s.map lower] := by
  unfold words
  rw [runs_of_forall h]
  cases s <;> rfl

theorem isWord_of_mem_words {s w : List Char} (hw : w ∈ words s) : IsWord w := by
  have hone {run : List Char} (hrun : ∀ c ∈ run, isAlphanumeric c) (hw : w ∈ words run) :
      IsWord w := by
    rw [words_of_forall hrun] at hw
    cases run with
    | nil => cases hw
    | cons c run =>
      obtain rfl : w = (c :: run).map lower := by simpa using hw
      refine ⟨by simp, fun d hd => ?_⟩
      obtain ⟨e, he, rfl⟩ := List.mem_map.mp hd
      exact isWordChar_lower (hrun e he)
  induction s using run_induction with
  | hrun run hrun => exact hone hrun hw
  | hcons run c rest hrun hc ih =>
    rw [words_append_cons _ _ hc, List.mem_append] at hw
    exact hw.elim (hone hrun) ih

/-- Words are read off the text that joins them: they are its runs, and in lower case already. -/
theorem words_joined {ws : List (List Char)} (h : ∀ w ∈ ws, IsWord w) : words (joined ws) = ws := by
  have hone {w : List Char} (hw : IsWord w) : words w = [w] := by
    rw [words_of_forall fun c hc => (hw.chars c hc).isAlphanumeric,
      if_neg (by simpa using hw.ne_nil), List.map_congr_left fun c hc => (hw.chars c hc).lower_eq,
      List.map_id']
  unfold joined
  induction ws with
  | nil => rfl
  | cons w ws ih =>
    have hw : words w = [w] := hone (h w List.mem_cons_self)
    cases ws with
    | nil => rwa [List.intercalate_singleton]
    | cons v ws =>
      rw [List.intercalate_cons_cons, List.append_assoc, List.singleton_append,
        words_append_cons _ _ (by decide), hw, ih fun u hu => h u (List.mem_cons_of_mem _ hu)]
      rfl

/-! ## The pass over a label -/

/-- What the pass holds, backwards, once the last of some words has been ended. -/
def closed : List (List Char) → List Char
  | [] => []
  | w :: ws => '_' :: (joined (w :: ws)).reverse

/-- What a pass comes to that holds this: the underscores at the end are taken away, and the text is
turned round. -/
def kept (slug : List Char) : List Char := (slug.dropWhile (· = '_')).reverse

theorem joined_concat (ws : List (List Char)) (w : List Char) :
    joined (ws ++ [w]) = (closed ws).reverse ++ w := by
  unfold joined
  induction ws with
  | nil => exact List.intercalate_singleton
  | cons v ws ih =>
    cases ws with
    | nil => simp [closed, joined]
    | cons u ws =>
      rw [List.cons_append, List.cons_append, List.intercalate_cons_cons, ← List.cons_append, ih]
      simp [closed, joined]

theorem foldl_slugStep {run : List Char} (hrun : ∀ c ∈ run, isAlphanumeric c) (slug : List Char) :
    run.foldl slugStep slug = (run.map lower).reverse ++ slug := by
  induction run generalizing slug with
  | nil => rfl
  | cons c run ih =>
    have hstep : slugStep slug c = lower c :: slug := by
      unfold slugStep
      rw [if_pos (hrun c List.mem_cons_self)]
    rw [List.foldl_cons, hstep, ih fun d hd => hrun d (List.mem_cons_of_mem _ hd)]
    simp

namespace IsWord

variable {w : List Char}

theorem exists_last (h : IsWord w) : ∃ front c, w = front ++ [c] ∧ c ≠ '_' := by
  rcases List.eq_nil_or_concat w with rfl | ⟨front, c, rfl⟩
  · exact absurd rfl h.ne_nil
  · exact ⟨front, c, List.concat_eq_append, (h.chars c (by simp)).ne_underscore⟩

theorem kept_append (h : IsWord w) (slug : List Char) :
    kept (w.reverse ++ slug) = slug.reverse ++ w := by
  obtain ⟨front, c, rfl, hc⟩ := h.exists_last
  simp [kept, hc]

/-- What ends a word leaves an underscore, whatever character it is. -/
theorem slugStep_append (h : IsWord w) (slug : List Char) {c : Char}
    (hc : isAlphanumeric c = false) :
    slugStep (w.reverse ++ slug) c = '_' :: (w.reverse ++ slug) := by
  obtain ⟨front, d, rfl, hd⟩ := h.exists_last
  simp [slugStep, hc]

end IsWord

theorem closed_concat (ws : List (List Char)) (w : List Char) :
    closed (ws ++ [w]) = '_' :: (w.reverse ++ closed ws) := by
  have hclosed : closed (ws ++ [w]) = '_' :: (joined (ws ++ [w])).reverse := by cases ws <;> rfl
  rw [hclosed, joined_concat, List.reverse_append, List.reverse_reverse]

theorem slugStep_closed (ws : List (List Char)) {c : Char} (hc : isAlphanumeric c = false) :
    slugStep (closed ws) c = closed ws := by
  cases ws <;> simp [slugStep, closed, hc]

/-- The run that a text begins with becomes a word of its own. -/
theorem words_run {run : List Char} (hrun : ∀ c ∈ run, isAlphanumeric c) :
    (run = [] ∧ words run = []) ∨ ∃ w, IsWord w ∧ words run = [w] ∧ run.map lower = w := by
  cases run with
  | nil => exact .inl ⟨rfl, rfl⟩
  | cons c run =>
    have hwords : words (c :: run) = [(c :: run).map lower] := words_of_forall hrun
    exact .inr ⟨_, isWord_of_mem_words (hwords ▸ List.mem_singleton_self _), hwords, rfl⟩

/-- **The pass joins the words of a text to those that it holds.**  The induction is on the runs of
the text. -/
theorem kept_foldl (s : List Char) {ws : List (List Char)} (hws : ∀ w ∈ ws, IsWord w) :
    kept (s.foldl slugStep (closed ws)) = joined (ws ++ words s) := by
  induction s using run_induction generalizing ws with
  | hrun run hrun =>
    rw [foldl_slugStep hrun]
    rcases words_run hrun with ⟨rfl, hwords⟩ | ⟨w, hw, hwords, hlower⟩
    · rw [hwords, List.append_nil]
      rcases List.eq_nil_or_concat ws with rfl | ⟨ws, w, rfl⟩
      · rfl
      · rw [List.concat_eq_append] at hws ⊢
        have hw : IsWord w := hws w (by simp)
        have hskip (slug : List Char) : kept ('_' :: slug) = kept slug := by simp [kept]
        rw [closed_concat, joined_concat, List.map_nil, List.reverse_nil, List.nil_append, hskip,
          hw.kept_append]
    · rw [hwords, hlower, hw.kept_append, joined_concat]
  | hcons run c rest hrun hc ih =>
    rw [List.foldl_append, List.foldl_cons, foldl_slugStep hrun, words_append_cons _ _ hc]
    rcases words_run hrun with ⟨rfl, hwords⟩ | ⟨w, hw, hwords, hlower⟩
    · rw [hwords, List.map_nil, List.reverse_nil, List.nil_append, slugStep_closed ws hc, ih hws,
        List.nil_append]
    · have hmore : ∀ v ∈ ws ++ [w], IsWord v := by
        simpa [or_imp, forall_and] using ⟨hws, hw⟩
      rw [hwords, hlower, hw.slugStep_append _ hc, ← closed_concat, ih hmore, List.append_assoc]

/-! ## Slugs -/

theorem isAlphanumeric_of_isBlank {c : Char} (hc : Text.isBlank c) : isAlphanumeric c = false := by
  rw [Bool.eq_false_iff]
  intro halpha
  exact of_isAlphanumeric (P := fun c => ¬ Text.isBlank c) (by decide) halpha hc

theorem words_blank_append {blanks : List Char} (h : ∀ c ∈ blanks, Text.isBlank c)
    (s : List Char) : words (blanks ++ s) = words s := by
  induction blanks with
  | nil => rfl
  | cons c blanks ih =>
    have hc : isAlphanumeric c = false := isAlphanumeric_of_isBlank (h c List.mem_cons_self)
    exact (words_append_cons [] (blanks ++ s) hc).trans
      (ih fun d hd => h d (List.mem_cons_of_mem _ hd))

theorem words_append_blank {blanks : List Char} (h : ∀ c ∈ blanks, Text.isBlank c)
    (s : List Char) : words (s ++ blanks) = words s := by
  cases blanks with
  | nil => rw [List.append_nil]
  | cons c blanks =>
    have hc : isAlphanumeric c = false := isAlphanumeric_of_isBlank (h c List.mem_cons_self)
    have hblanks : words (blanks ++ []) = words [] :=
      words_blank_append (fun d hd => h d (List.mem_cons_of_mem _ hd)) []
    rw [words_append_cons _ _ hc, ← List.append_nil blanks, hblanks]
    exact List.append_nil _

/-- Trimming takes nothing from the words, since a blank is no letter and no digit. -/
theorem words_trim (s : List Char) : words (Text.trim s) = words s := by
  have hblank (t : List Char) : ∀ c ∈ t.takeWhile Text.isBlank, Text.isBlank c :=
    List.all_eq_true.mp List.all_takeWhile
  have hend (t : List Char) : words (Text.trimEnd t) = words t := by
    have ht : t = Text.trimEnd t ++ (t.reverse.takeWhile Text.isBlank).reverse := by
      unfold Text.trimEnd
      rw [← List.reverse_append, List.takeWhile_append_dropWhile, List.reverse_reverse]
    conv_rhs => rw [ht]
    exact (words_append_blank (fun c hc => hblank _ c (List.mem_reverse.mp hc)) _).symm
  have hstart : s = s.takeWhile Text.isBlank ++ Text.trimStart s :=
    List.takeWhile_append_dropWhile.symm
  unfold Text.trim
  rw [hend]
  conv_rhs => rw [hstart]
  exact (words_blank_append (hblank s) _).symm

/-- The words of a label, for which a label without any has one that says so. -/
def slugWords (s : List Char) : List (List Char) :=
  if words s = [] then ["unnamed".toList] else words s

theorem isWord_of_mem_slugWords {s w : List Char} (hw : w ∈ slugWords s) : IsWord w := by
  unfold slugWords at hw
  split at hw
  · rw [List.mem_singleton.mp hw]
    have hchars : "unnamed".toList.all fun c => decide (IsWordChar c) := by decide
    exact ⟨by decide, fun c hc => of_decide_eq_true (List.all_eq_true.mp hchars c hc)⟩
  · exact isWord_of_mem_words hw

theorem slugWords_ne_nil (s : List Char) : slugWords s ≠ [] := by
  unfold slugWords
  split
  · exact List.cons_ne_nil _ _
  · assumption

theorem joined_ne_nil {ws : List (List Char)} (h : ∀ w ∈ ws, IsWord w) (hne : ws ≠ []) :
    joined ws ≠ [] := by
  intro hnil
  have hwords := words_joined h
  rw [hnil] at hwords
  exact hne hwords.symm

theorem slug_eq (label : String) :
    slug label =
      if joined (words label.toList) = [] then "unnamed"
      else String.ofList (joined (words label.toList)) := by
  have hpass : kept ((Text.trim label.toList).foldl slugStep []) = joined (words label.toList) := by
    have hfold : kept ((Text.trim label.toList).foldl slugStep (closed [])) =
        joined ([] ++ words (Text.trim label.toList)) := kept_foldl _ (by simp)
    rwa [List.nil_append, words_trim] at hfold
  have hempty (slug : List Char) : (slug.dropWhile (· = '_')).isEmpty ↔ kept slug = [] := by
    rw [kept, List.reverse_eq_nil_iff, List.isEmpty_iff]
  rw [← hpass]
  unfold slug
  simp only [hempty]
  rfl

/-- The slug of a label joins its words, of which there is always one in this sense. -/
theorem toList_slug (label : String) : (slug label).toList = joined (slugWords label.toList) := by
  rw [slug_eq, slugWords]
  by_cases hnone : words label.toList = []
  · rw [if_pos hnone, hnone]
    rfl
  · have hne : joined (words label.toList) ≠ [] :=
      joined_ne_nil (fun w => isWord_of_mem_words) hnone
    rw [if_neg hnone, if_neg hne, String.toList_ofList]

/-- **The words of a label can be read off its slug.** -/
theorem words_slug (label : String) : words (slug label).toList = slugWords label.toList := by
  rw [toList_slug]
  exact words_joined fun w => isWord_of_mem_slugWords

/-- Labels with the same words, and no others, have the same slug.  That the words are read off the
slug again gives the one direction. -/
theorem slug_inj {label other : String} :
    slug label = slug other ↔ slugWords label.toList = slugWords other.toList := by
  constructor
  · intro h
    rw [← words_slug, h, words_slug]
  · intro h
    rw [← String.toList_inj, toList_slug, toList_slug, h]

theorem slug_slug (label : String) : slug (slug label) = slug label := by
  rw [slug_inj, slugWords, words_slug, if_neg (slugWords_ne_nil _)]

/-! ## Normal forms -/

namespace IsWord

variable {w : List Char}

theorem underscore_not_mem (h : IsWord w) : '_' ∉ w := fun hin => (h.chars _ hin).ne_underscore rfl

theorem isNormal (h : IsWord w) : IsNormal w where
  ne_nil := h.ne_nil
  chars c hc := .inl (h.chars c hc)
  head hhead := h.underscore_not_mem (List.mem_of_head? hhead)
  last hlast := h.underscore_not_mem (List.mem_of_getLast? hlast)
  single := List.Pairwise.isChain <| List.pairwise_of_forall_mem_list fun _ hc _ _ hboth =>
    h.underscore_not_mem (hboth.1 ▸ hc)

end IsWord

namespace IsNormal

/-- A word before a text in normal form, with an underscore between them.  The joint has a letter or
a digit on both sides. -/
theorem cons_word {w s : List Char} (hw : IsWord w) (hs : IsNormal s) :
    IsNormal (w ++ '_' :: s) where
  ne_nil := List.append_ne_nil_of_left_ne_nil hw.ne_nil _
  chars c hc := by
    rcases List.mem_append.mp hc with hc | hc
    · exact .inl (hw.chars c hc)
    · exact (List.mem_cons.mp hc).elim .inr (hs.chars c)
  head := by
    rw [List.head?_append_of_ne_nil _ hw.ne_nil]
    exact hw.isNormal.head
  last := by
    rw [List.append_cons, List.getLast?_append_of_ne_nil _ hs.ne_nil]
    exact hs.last
  single := by
    rw [List.isChain_append, List.isChain_cons]
    refine ⟨hw.isNormal.single, ⟨fun c hc hboth => hs.head (hboth.2 ▸ hc), hs.single⟩, ?_⟩
    intro c hc _ _ hboth
    exact hw.underscore_not_mem (List.mem_of_getLast? (hboth.1 ▸ hc))

theorem joined {ws : List (List Char)} (h : ∀ w ∈ ws, IsWord w) (hne : ws ≠ []) :
    IsNormal (joined ws) := by
  unfold Label.joined
  induction ws with
  | nil => exact absurd rfl hne
  | cons w ws ih =>
    cases ws with
    | nil => exact List.intercalate_singleton ▸ (h w List.mem_cons_self).isNormal
    | cons v ws =>
      rw [List.intercalate_cons_cons, List.append_assoc, List.singleton_append]
      exact cons_word (h w List.mem_cons_self)
        (ih (fun u hu => h u (List.mem_cons_of_mem _ hu)) (List.cons_ne_nil _ _))

end IsNormal

/-- **The normal form of labels**: a slug joins the lower-case runs of letters and digits of its
label by single underscores, is in normal form and its own slug, and tells labels apart by these
runs.  A label without any run has the slug of a label that says it is unnamed, and the last part
names the two ways in which labels come to share a slug by that. -/
theorem slug_normalForm (label : String) :
    slug label =
        (if runs label.toList = [] then "unnamed"
          else String.ofList (joined (words label.toList))) ∧
      IsNormal (slug label).toList ∧
      slug (slug label) = slug label ∧
      ∀ other, slug label = slug other ↔
        words label.toList = words other.toList ∨
        (runs label.toList = [] ∧ words other.toList = ["unnamed".toList]) ∨
        (runs other.toList = [] ∧ words label.toList = ["unnamed".toList]) := by
  have hruns (s : List Char) : runs s = [] ↔ words s = [] := List.map_eq_nil_iff.symm
  have hnormal : IsNormal (slug label).toList := by
    rw [toList_slug]
    exact .joined (fun w => isWord_of_mem_slugWords) (slugWords_ne_nil _)
  refine ⟨?_, hnormal, slug_slug label, fun other => ?_⟩
  · rw [← String.toList_inj, toList_slug, slugWords]
    simp only [hruns]
    split
    · rfl
    · exact String.toList_ofList.symm
  · rw [slug_inj, slugWords, slugWords, hruns, hruns]
    generalize "unnamed".toList = unnamed
    by_cases hlabel : words label.toList = [] <;> by_cases hother : words other.toList = []
    · simp [hlabel, hother]
    · simp [hlabel, hother, eq_comm]
    · simp [hlabel, hother]
    · simp [hlabel, hother]

example : slug "  Core #0 (Tdie) " = "core_0_tdie" := by decide +kernel

end Telemetry.Label
