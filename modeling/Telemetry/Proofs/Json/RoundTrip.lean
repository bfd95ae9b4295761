import Mathlib.Data.List.TakeDrop
import Telemetry.Json.Reader
import Telemetry.Json.Writer
import Telemetry.Proofs.Number.Digits

/-! # JSON texts read back

The compact text of a value reads back as that value (`read_write`), whatever follows it inside a
larger text, as long as that is a comma or a closing bracket (`Delimited`).

The reader is a set of three functions with one fuel between them, for values, items and members,
and so the round trip is three statements under one mutual induction, on the value that was written.
Each of them leaves the rest of the text open, since that is what the reader goes on with; the fuel
is measured by the text, twice its length.

What may follow a value matters for numbers only.  A digit, a point or an exponent behind the last
digit would be read as a part of the number, and a comma or a bracket ends it.
-/

namespace Telemetry.Json

/-! ## Strings -/

theorem hexCode?_fixed {n : Nat} (h : n < 0x20) :
    ∃ a b c d, Digits.fixed 16 4 n = [a, b, c, d] ∧ hexCode? a b c d = some n := by
  refine ⟨_, _, _, _, rfl, ?_⟩
  have hall : ∀ n < 0x20, hexCode? (Digits.char (n / 16 / 16 / 16 % 16))
      (Digits.char (n / 16 / 16 % 16)) (Digits.char (n / 16 % 16)) (Digits.char (n % 16)) =
        some n := by decide
  exact hall n h

theorem codes_shortEscape {e : Char} {n : Nat} (he : escapeCode? e = some n) {s rest : List Char}
    {ns : List Nat} (h : codes s = some (ns, rest)) :
    codes ('\\' :: e :: s) = some (n :: ns, rest) := by
  have hlong : e ≠ 'u' := by
    rintro rfl
    cases he
  simp [codes, he, h, hlong]

/-- An escaped character is read as its own code, in front of the codes of what follows. -/
theorem codes_escaped (c : Char) {s rest : List Char} {ns : List Nat}
    (h : codes s = some (ns, rest)) :
    codes (escaped c ++ s) = some (c.toNat :: ns, rest) := by
  by_cases hshort : c ∈ ['"', '\\', '\x08', '\x0c', '\n', '\r', '\t']
  · simp only [List.mem_cons, List.not_mem_nil, or_false] at hshort
    rcases hshort with rfl | rfl | rfl | rfl | rfl | rfl | rfl <;> exact codes_shortEscape rfl h
  · simp only [List.mem_cons, List.not_mem_nil, or_false, not_or] at hshort
    simp only [escaped, hshort, if_false]
    split
    next hlow =>
      obtain ⟨a, b, c', d, hdigits, hcode⟩ := hexCode?_fixed hlow
      simp [codes, hdigits, hcode, h]
    next hlow =>
      rw [List.singleton_append, codes.eq_def]
      split <;> simp_all

theorem codes_flatMap_escaped (cs rest : List Char) :
    codes (cs.flatMap escaped ++ '"' :: rest) = some (cs.map Char.toNat, rest) := by
  induction cs with
  | nil => rfl
  | cons c cs ih =>
    rw [List.flatMap_cons, List.append_assoc, codes_escaped c ih, List.map_cons]

/-- No character has the code of a surrogate, so that no two codes of a written string are taken
together. -/
theorem not_isSurrogate (c : Char) :
    isHighSurrogate c.toNat = false ∧ isLowSurrogate c.toNat = false := by
  have hvalid : c.toNat < 0xd800 ∨ 0xdfff < c.toNat ∧ c.toNat < 0x110000 := c.valid
  unfold isHighSurrogate isLowSurrogate
  constructor <;> simp <;> omega

theorem charsOf_map_toNat (cs : List Char) : charsOf (cs.map Char.toNat) = some cs := by
  induction cs with
  | nil => rfl
  | cons c cs ih =>
    obtain ⟨hhigh, hlow⟩ := not_isSurrogate c
    rw [List.map_cons, charsOf.eq_def]
    simp [hhigh, hlow, ih, Char.ofNat_toNat]

/-- A written string literal starts with a quote and reads back behind it. -/
theorem literal_writeString (s : Option String) (rest : List Char) :
    ∃ body, writeString s ++ rest = '"' :: body ∧ literal body = some (s, rest) := by
  cases s with
  | none => exact ⟨['\\', 'u', 'd', '8', '0', '0', '"'] ++ rest, rfl, rfl⟩
  | some s =>
    refine ⟨s.toList.flatMap escaped ++ '"' :: rest, ?_, ?_⟩
    · simp [writeString, writeText]
    · simp [literal, codes_flatMap_escaped, charsOf_map_toNat]

/-! ## Numbers -/

/-- What may stand behind a value: nothing, a comma or a closing bracket. -/
def Delimited (rest : List Char) : Prop := ∀ c ∈ rest.head?, c = ',' ∨ c = ']' ∨ c = '\x7d'

theorem delimited_nil : Delimited [] := fun c h => by cases h

theorem delimited_cons {c : Char} {rest : List Char} (h : c = ',' ∨ c = ']' ∨ c = '\x7d') :
    Delimited (c :: rest) := by
  intro d hd
  rw [List.head?_cons, Option.mem_some_iff] at hd
  exact hd ▸ h

theorem Delimited.ends {rest : List Char} (h : Delimited rest) : Digits.Ends rest := by
  intro c hc
  rcases h c hc with rfl | rfl | rfl <;> decide

theorem Delimited.fractionPart {rest : List Char} (h : Delimited rest) :
    fractionPart rest = some (none, rest) := by
  unfold Json.fractionPart
  split
  next => simpa using h '.' rfl
  next => rfl

theorem Delimited.exponentPart {rest : List Char} (h : Delimited rest) :
    exponentPart rest = some (none, rest) := by
  unfold Json.exponentPart
  split
  next => simpa using h 'e' rfl
  next => simpa using h 'E' rfl
  next => rfl

theorem digitRun_ofNat (n : Nat) {rest : List Char} (h : Digits.Ends rest) :
    digitRun (Digits.ofNat n ++ rest) = (Digits.ofNat n, rest) := by
  have hdigits : ∀ c ∈ Digits.ofNat n, Digits.isDecimal c :=
    fun c hc => Digits.isDecimal_of_mem_ofNat hc
  rw [digitRun, List.span_eq_takeWhile_dropWhile, Digits.takeWhile_isDecimal hdigits h,
    Digits.dropWhile_isDecimal hdigits h]

theorem wholePart_ofNat (n : Nat) {rest : List Char} (h : Digits.Ends rest) :
    wholePart (Digits.ofNat n ++ rest) = some (Digits.ofNat n, rest) := by
  rcases Nat.eq_zero_or_pos n with rfl | hpos
  · rfl
  · have hrun := digitRun_ofNat n h
    have hhead := Digits.head?_ofNat_ne hpos
    cases hds : Digits.ofNat n with
    | nil => exact absurd hds (Digits.ofNat_ne_nil n)
    | cons d ds =>
      rw [hds] at hrun hhead
      unfold wholePart
      split
      next heq =>
        cases heq
        exact absurd rfl hhead
      next => rw [hrun]; rfl

theorem exponentDigits_ofInt (e : Int) {rest : List Char} (h : Digits.Ends rest) :
    exponentDigits (Digits.ofInt e ++ rest) = some (e, rest) := by
  have hrun := digitRun_ofNat e.natAbs h
  have hvalue := Digits.value_ofNat e.natAbs
  cases hds : Digits.ofNat e.natAbs with
  | nil => exact absurd hds (Digits.ofNat_ne_nil _)
  | cons d ds =>
    have hdecimal : Digits.isDecimal d := Digits.isDecimal_of_mem_ofNat (hds ▸ List.mem_cons_self)
    rw [hds] at hrun hvalue
    unfold Digits.ofInt
    rw [hds]
    by_cases hneg : e < 0
    · rw [if_pos hneg]
      simp only [exponentDigits, List.cons_append] at hrun ⊢
      rw [hrun]
      simp only [List.isEmpty_cons, Bool.false_eq_true, if_false, if_true, hvalue,
        Option.some.injEq, Prod.mk.injEq, and_true]
      omega
    · rw [if_neg hneg]
      have hsign := Digits.ne_sign_of_isDecimal hdecimal
      simp only [List.cons_append] at hrun ⊢
      simp only [exponentDigits, List.cons.injEq, hsign.1, hsign.2, hrun, List.isEmpty_cons,
        Bool.false_eq_true, if_false, hvalue, Option.some.injEq, Prod.mk.injEq, false_and,
        imp_self, implies_true, and_true]
      omega

theorem unsigned_ofNat (negative : Bool) (m : Nat) {rest : List Char} (h : Delimited rest) :
    unsigned negative (Digits.ofNat m ++ rest) = some (.integer negative m, rest) := by
  simp [unsigned, wholePart_ofNat m h.ends, h.fractionPart, h.exponentPart, Digits.value_ofNat]

theorem unsigned_scientific (negative : Bool) (m : Nat) (e : Int) {rest : List Char}
    (h : Delimited rest) :
    unsigned negative (Digits.ofNat m ++ 'e' :: Digits.ofInt e ++ rest) =
      some (.decimal negative m e, rest) := by
  have hends : Digits.Ends ('e' :: (Digits.ofInt e ++ rest)) := Digits.ends_cons.mpr (by decide)
  simp [unsigned, wholePart_ofNat m hends, fractionPart, exponentPart,
    exponentDigits_ofInt e h.ends, Digits.value_ofNat]

/-- The characters that a number starts with, by which the reader tells it from any other value. -/
def StartsNumber (c : Char) : Prop := c = '-' ∨ Digits.isDecimal c

/-- A number with its sign is read as the number behind the sign; a minus sign is not a digit. -/
theorem number_signed (negative : Bool) (m : Nat) (tail : List Char) :
    ∃ c s, (if negative then ['-'] else []) ++ Digits.ofNat m ++ tail = c :: s ∧ StartsNumber c ∧
      number (c :: s) = unsigned negative (Digits.ofNat m ++ tail) := by
  cases negative with
  | true => exact ⟨'-', Digits.ofNat m ++ tail, rfl, .inl rfl, rfl⟩
  | false =>
    cases hds : Digits.ofNat m with
    | nil => exact absurd hds (Digits.ofNat_ne_nil m)
    | cons d ds =>
      have hdecimal : Digits.isDecimal d :=
        Digits.isDecimal_of_mem_ofNat (hds ▸ List.mem_cons_self)
      refine ⟨d, ds ++ tail, rfl, .inr hdecimal, ?_⟩
      unfold number
      split
      next heq =>
        cases heq
        exact absurd rfl (Digits.ne_sign_of_isDecimal hdecimal).1
      next => rfl

/-! ## Values -/

theorem skipSpace_cons {c : Char} {s : List Char}
    (h : c ≠ ' ' ∧ c ≠ '\t' ∧ c ≠ '\n' ∧ c ≠ '\r') : skipSpace (c :: s) = c :: s :=
  List.dropWhile_cons_of_neg (by simp [h])

theorem value_of_number {c : Char} (h : StartsNumber c) (fuel : Nat) (s : List Char) :
    value (fuel + 1) (c :: s) = number (c :: s) := by
  have hne (d : Char) (hd : ¬ (d = '-' ∨ Digits.isDecimal d)) : c ≠ d := fun heq => hd (heq ▸ h)
  rw [value, skipSpace_cons ⟨hne _ (by decide), hne _ (by decide), hne _ (by decide),
    hne _ (by decide)⟩]
  split
  case h_7 => rfl
  all_goals
    rename_i heq
    exact absurd (List.cons.inj heq).1 (hne _ (by decide))

/-- The first character of a value: no white space, and no closing bracket. -/
theorem writeChars_head (j : Json) : ∃ c s, writeChars j = c :: s ∧
    (c ≠ ' ' ∧ c ≠ '\t' ∧ c ≠ '\n' ∧ c ≠ '\r') ∧ c ≠ ']' := by
  have hnumber (negative : Bool) (m : Nat) (tail : List Char) :
      ∃ c s, (if negative then ['-'] else []) ++ Digits.ofNat m ++ tail = c :: s ∧
        (c ≠ ' ' ∧ c ≠ '\t' ∧ c ≠ '\n' ∧ c ≠ '\r') ∧ c ≠ ']' := by
    obtain ⟨c, s, heq, hstarts, -⟩ := number_signed negative m tail
    have hne (d : Char) (hd : ¬ (d = '-' ∨ Digits.isDecimal d)) : c ≠ d :=
      fun heq => hd (heq ▸ hstarts)
    exact ⟨c, s, heq, ⟨hne _ (by decide), hne _ (by decide), hne _ (by decide),
      hne _ (by decide)⟩, hne _ (by decide)⟩
  cases j with
  | null => exact ⟨_, _, by rw [writeChars], by decide, by decide⟩
  | bool b => cases b <;> exact ⟨_, _, by rw [writeChars], by decide, by decide⟩
  | integer negative m => simpa [writeChars] using hnumber negative m []
  | decimal negative m e => simpa [writeChars] using hnumber negative m ('e' :: Digits.ofInt e)
  | string s =>
    obtain ⟨body, heq, -⟩ := literal_writeString s []
    exact ⟨_, _, by rw [writeChars, ← List.append_nil (writeString s), heq], by decide, by decide⟩
  | array items => exact ⟨_, _, by rw [writeChars, List.cons_append], by decide, by decide⟩
  | object members => exact ⟨_, _, by rw [writeChars, List.cons_append], by decide, by decide⟩

theorem writeItems_head (v : Json) (vs : List Json) : ∃ c s, writeItems (v :: vs) = c :: s ∧
    (c ≠ ' ' ∧ c ≠ '\t' ∧ c ≠ '\n' ∧ c ≠ '\r') ∧ c ≠ ']' := by
  obtain ⟨c, s, heq, hhead⟩ := writeChars_head v
  cases vs with
  | nil => exact ⟨c, s, by rw [writeItems, heq], hhead⟩
  | cons w vs => exact ⟨c, _, by rw [writeItems, heq, List.cons_append], hhead⟩

theorem writeMembers_head (name : Option String) (v : Json) (ms : List (Option String × Json)) :
    ∃ body, writeMembers ((name, v) :: ms) = '"' :: body := by
  cases ms with
  | nil =>
    obtain ⟨body, heq, -⟩ := literal_writeString name (':' :: writeChars v)
    exact ⟨body, by rw [writeMembers, heq]⟩
  | cons m ms =>
    obtain ⟨body, heq, -⟩ :=
      literal_writeString name (':' :: writeChars v ++ ',' :: writeMembers (m :: ms))
    exact ⟨body, by rw [writeMembers, List.append_assoc, heq]⟩

/-! One step of each reader. -/

section
variable {fuel : Nat} {s body tail rest : List Char} {v : Json} {name : Option String}

theorem value_array {c : Char} (hspace : c ≠ ' ' ∧ c ≠ '\t' ∧ c ≠ '\n' ∧ c ≠ '\r') (hc : c ≠ ']')
    {vs : List Json} (h : items fuel (c :: s) = some (vs, rest)) :
    value (fuel + 1) ('[' :: c :: s) = some (.array vs, rest) := by
  rw [value, skipSpace_cons (by decide)]
  simp [skipSpace_cons hspace, hc, h]

theorem value_object {ms : List (Option String × Json)}
    (h : members fuel ('"' :: body) = some (ms, rest)) :
    value (fuel + 1) ('\x7b' :: '"' :: body) = some (.object ms, rest) := by
  rw [value, skipSpace_cons (by decide)]
  simp [skipSpace_cons, h]

theorem items_last (h : value fuel s = some (v, ']' :: rest)) :
    items (fuel + 1) s = some ([v], rest) := by
  rw [items, h]
  rfl

theorem items_next (h : value fuel s = some (v, ',' :: tail)) {vs : List Json}
    (htail : items fuel tail = some (vs, rest)) : items (fuel + 1) s = some (v :: vs, rest) := by
  rw [items, h]
  simp [skipSpace_cons, htail]

theorem members_last (hname : literal body = some (name, ':' :: s))
    (h : value fuel s = some (v, '\x7d' :: rest)) :
    members (fuel + 1) ('"' :: body) = some ([(name, v)], rest) := by
  rw [members, skipSpace_cons (by decide)]
  simp [skipSpace_cons, hname, h]

theorem members_next (hname : literal body = some (name, ':' :: s))
    (h : value fuel s = some (v, ',' :: tail)) {ms : List (Option String × Json)}
    (htail : members fuel tail = some (ms, rest)) :
    members (fuel + 1) ('"' :: body) = some ((name, v) :: ms, rest) := by
  rw [members, skipSpace_cons (by decide)]
  simp [skipSpace_cons, hname, h, htail]

end

mutual

/-- **A written value reads back**, and what follows it is left over.  Twice the length of the
text is enough to recurse by: an opening bracket takes two levels of recursion. -/
theorem value_writeChars (j : Json) {rest : List Char} (h : Delimited rest) (fuel : Nat)
    (hfuel : 2 * (writeChars j).length ≤ fuel) :
    value fuel (writeChars j ++ rest) = some (j, rest) := by
  obtain ⟨fuel, rfl⟩ : ∃ k, fuel = k + 1 := by
    obtain ⟨c, s, hwritten, -⟩ := writeChars_head j
    rw [hwritten, List.length_cons] at hfuel
    exact ⟨fuel - 1, by omega⟩
  cases j with
  | null => rfl
  | bool b => cases b <;> rfl
  | integer negative m =>
    obtain ⟨c, s, heq, hstarts, hnumber⟩ := number_signed negative m rest
    rw [writeChars, heq, value_of_number hstarts, hnumber, unsigned_ofNat negative m h]
  | decimal negative m e =>
    obtain ⟨c, s, heq, hstarts, hnumber⟩ :=
      number_signed negative m ('e' :: Digits.ofInt e ++ rest)
    rw [writeChars, List.append_assoc, heq, value_of_number hstarts, hnumber, ← List.append_assoc,
      unsigned_scientific negative m e h]
  | string s =>
    obtain ⟨body, heq, hliteral⟩ := literal_writeString s rest
    rw [writeChars, heq, value, skipSpace_cons (by decide)]
    simp [hliteral]
  | array vs =>
    cases vs with
    | nil => rfl
    | cons v vs =>
      obtain ⟨c, s, heq, hspace, hc⟩ := writeItems_head v vs
      have hitems := items_writeItems v vs rest fuel (by
        simp only [writeChars, List.length_cons, List.length_append, List.length_nil] at hfuel
        omega)
      rw [heq] at hitems
      rw [writeChars, heq]
      simpa using value_array hspace hc hitems
  | object ms =>
    cases ms with
    | nil => rfl
    | cons m ms =>
      cases m with | mk name v =>
      obtain ⟨body, heq⟩ := writeMembers_head name v ms
      have hmembers := members_writeMembers name v ms rest fuel (by
        simp only [writeChars, List.length_cons, List.length_append, List.length_nil] at hfuel
        omega)
      rw [heq] at hmembers
      rw [writeChars, heq]
      simpa using value_object hmembers
termination_by sizeOf j

/-- Written items read back up to the bracket that closes them.  The first of them is apart, since a
comma stands before every other. -/
theorem items_writeItems (v : Json) (vs : List Json) (rest : List Char) (fuel : Nat)
    (hfuel : 2 * (writeItems (v :: vs)).length + 1 ≤ fuel) :
    items fuel (writeItems (v :: vs) ++ ']' :: rest) = some (v :: vs, rest) := by
  obtain ⟨fuel, rfl⟩ : ∃ k, fuel = k + 1 := ⟨fuel - 1, by omega⟩
  cases vs with
  | nil =>
    rw [writeItems] at hfuel ⊢
    exact items_last (value_writeChars v (delimited_cons (by decide)) fuel (by omega))
  | cons w vs =>
    rw [writeItems, List.length_append, List.length_cons] at hfuel
    rw [writeItems, List.append_assoc]
    exact items_next (value_writeChars v (delimited_cons (by decide)) fuel (by omega))
      (items_writeItems w vs rest fuel (by omega))
termination_by sizeOf (v :: vs)

/-- Written members read back up to the brace that closes them, each with its name. -/
theorem members_writeMembers (name : Option String) (v : Json) (ms : List (Option String × Json))
    (rest : List Char) (fuel : Nat)
    (hfuel : 2 * (writeMembers ((name, v) :: ms)).length + 1 ≤ fuel) :
    members fuel (writeMembers ((name, v) :: ms) ++ '\x7d' :: rest) =
      some ((name, v) :: ms, rest) := by
  obtain ⟨fuel, rfl⟩ : ∃ k, fuel = k + 1 := ⟨fuel - 1, by omega⟩
  cases ms with
  | nil =>
    obtain ⟨body, heq, hliteral⟩ := literal_writeString name
      (':' :: writeChars v ++ '\x7d' :: rest)
    rw [writeMembers, List.length_append, List.length_cons] at hfuel
    rw [writeMembers, List.append_assoc, heq]
    exact members_last hliteral (value_writeChars v (delimited_cons (by decide)) fuel (by omega))
  | cons m ms =>
    cases m with | mk name' w =>
    obtain ⟨body, heq, hliteral⟩ := literal_writeString name
      (':' :: (writeChars v ++ ',' :: (writeMembers ((name', w) :: ms) ++ '\x7d' :: rest)))
    rw [writeMembers, List.length_append, List.length_append, List.length_cons,
      List.length_cons] at hfuel
    rw [writeMembers, List.append_assoc, List.append_assoc, List.cons_append, List.cons_append, heq]
    exact members_next hliteral (value_writeChars v (delimited_cons (by decide)) fuel (by omega))
      (members_writeMembers name' w ms rest fuel (by omega))
termination_by sizeOf ((name, v) :: ms)

end

/-- **The text of a value reads back as the value**, by a reader that refuses a text with anything
but white space behind the value. -/
theorem read_write (j : Json) : read j.write = some j := by
  have hvalue := value_writeChars j delimited_nil (2 * j.writeChars.length + 2) (by omega)
  rw [List.append_nil] at hvalue
  simp [read, write, readChars, hvalue, skipSpace]

end Telemetry.Json
