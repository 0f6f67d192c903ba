import GraphMapper.Proofs.Json.Numbers

/-!
# Texts in JSON texts

Every character of a text is written in one of four forms: as it is, as a letter behind a
backslash, as the escape of a 16-bit unit or as the escapes of a pair of them. Each form is read as
the character it stands for, so a text is read as what was written, whatever its characters are.
None of the forms has a character outside printable ASCII.

Half of a surrogate pair is written in the form of the character that stands for it, and shown as
the escape of its own unit.

## Main definitions

* `Json.Spells` — the forms in which a character is written

## Main results

* `Json.spells_writeChar` — every character is written in one of them
* `Json.Spells.readChars` — a form is read as its character
* `Json.readText_writeText` — a text is read as what was written
* `Json.showHalves_writeText` — how a written text with halves of pairs is shown
-/

namespace GraphMapper.Json

open Text (unitEscape)

/-- A form in which a character is written. -/
inductive Spells : Char → List Char → Prop
  /-- The character itself. -/
  | self {c : Char} (plain : IsPlain c) (quote : c ≠ '"') (backslash : c ≠ '\\') : Spells c [c]
  /-- A letter behind a backslash. -/
  | letter {c l : Char} (plain : IsPlain l) (other : l ≠ 'u') (known : unescape? l = some c) :
      Spells c ['\\', l]
  /-- The escape of its unit. -/
  | unit {c : Char} (short : c.toNat < 0x10000) : Spells c (unitEscape c.toNat)
  /-- The escapes of the two units of its pair. -/
  | pair {c : Char} {n : Nat} (long : c.toNat = 0x10000 + n) :
      Spells c (unitEscape (0xD800 + n / 0x400) ++ unitEscape (0xDC00 + n % 0x400))

/-- Every character is written in one of the forms. -/
theorem spells_writeChar (c : Char) : Spells c (writeChar c) := by
  have letter {d l : Char} (same : (c == d) = true) (plain : IsPlain l) (other : l ≠ 'u')
      (known : unescape? l = some d) : Spells c ['\\', l] := by
    rw [beq_iff_eq.1 same]
    exact .letter plain other known
  rw [writeChar]
  -- seven characters have letters of their own
  iterate 7
    split
    · next same => exact letter same (by decide) (by decide) rfl
  rename_i quote backslash _ _ _ _ _
  rw [beq_iff_eq] at quote backslash
  split
  · next plain => exact .self (by simpa [IsPlain] using plain) quote backslash
  split
  · next short => exact .unit short
  · exact .pair (by omega)

/-! ### Units -/

theorem hexValue?_hexDigit : ∀ n : Fin 16, hexValue? (Text.hexDigit n) = some n.val := by decide

theorem isPlain_hexDigit : ∀ n : Fin 16, IsPlain (Text.hexDigit n) := by decide

theorem isPlain_of_mem_hexDigits {width n : Nat} :
    ∀ c ∈ Text.hexDigits width n, IsPlain c := by
  intro c member
  induction width generalizing n with
  | zero => cases member
  | succ width ih =>
    rcases List.mem_append.1 member with front | last
    · exact ih front
    · rw [List.mem_singleton.1 last]
      exact isPlain_hexDigit ⟨n % 16, Nat.mod_lt n (by decide)⟩

/-- An escaped unit is read if anything follows it. -/
theorem readUnit_hexDigits {n : Nat} {rest : List Char} (small : n < 0x10000) (more : rest ≠ []) :
    readUnit (Text.hexDigits 4 n ++ rest) = .ok (n, rest) := by
  obtain ⟨c, rest, rfl⟩ := List.exists_cons_of_ne_nil more
  have digit (m : Nat) : hexValue? (Text.hexDigit (m % 16)) = some (m % 16) :=
    hexValue?_hexDigit ⟨m % 16, Nat.mod_lt m (by decide)⟩
  have value : ((n / 16 / 16 / 16 % 16 * 16 + n / 16 / 16 % 16) * 16 + n / 16 % 16) * 16 + n % 16 =
      n := by omega
  simp [Text.hexDigits, readUnit, unit?, digit, value]

/-- No character is half a pair. -/
theorem not_isUnit (c : Char) : isHighUnit c.toNat = false ∧ isLowUnit c.toNat = false := by
  have valid : c.toNat < 0xD800 ∨ 0xDFFF < c.toNat ∧ c.toNat < 0x110000 := c.valid
  simp only [isHighUnit, isLowUnit, Bool.and_eq_false_iff, decide_eq_false_iff_not]
  omega

theorem readEscapedUnit_unit {c : Char} {rest : List Char} (short : c.toNat < 0x10000)
    (more : rest ≠ []) : readEscapedUnit (Text.hexDigits 4 c.toNat ++ rest) = .ok (c, rest) := by
  obtain ⟨high, low⟩ := not_isUnit c
  rw [readEscapedUnit, readUnit_hexDigits short more]
  simp [high, low, unitChar, Char.ofNat_toNat]

theorem readEscapedUnit_pair {c : Char} {n : Nat} {rest : List Char}
    (long : c.toNat = 0x10000 + n) (more : rest ≠ []) :
    readEscapedUnit (Text.hexDigits 4 (0xD800 + n / 0x400) ++
      (unitEscape (0xDC00 + n % 0x400) ++ rest)) = .ok (c, rest) := by
  have valid : c.toNat < 0xD800 ∨ 0xDFFF < c.toNat ∧ c.toNat < 0x110000 := c.valid
  have high : isHighUnit (0xD800 + n / 0x400) = true := by
    simp only [isHighUnit, Bool.and_eq_true, decide_eq_true_eq]
    omega
  have low : isLowUnit (0xDC00 + n % 0x400) = true := by
    simp only [isLowUnit, Bool.and_eq_true, decide_eq_true_eq]
    omega
  have joined : pairChar (0xD800 + n / 0x400) (0xDC00 + n % 0x400) = c := by
    have value : 0x10000 + (0xD800 + n / 0x400 - 0xD800) * 0x400 +
        (0xDC00 + n % 0x400 - 0xDC00) = c.toNat := by omega
    rw [pairChar, value, Char.ofNat_toNat]
  have first : readUnit (Text.hexDigits 4 (0xD800 + n / 0x400) ++
      (unitEscape (0xDC00 + n % 0x400) ++ rest)) =
        .ok (0xD800 + n / 0x400, unitEscape (0xDC00 + n % 0x400) ++ rest) :=
    readUnit_hexDigits (by omega) (by simp [unitEscape])
  have second : readUnit (Text.hexDigits 4 (0xDC00 + n % 0x400) ++ rest) =
      .ok (0xDC00 + n % 0x400, rest) := readUnit_hexDigits (by omega) more
  have long : ¬ (Text.hexDigits 4 (0xDC00 + n % 0x400) ++ rest).length < 5 := by
    have some := List.length_pos_of_ne_nil more
    rw [List.length_append, Text.length_hexDigits]
    omega
  rw [readEscapedUnit, first]
  simp only [high, if_true, unitEscape, List.cons_append, long, if_false, second, low, joined]

/-! ### Characters -/

variable {c : Char} {form cs left more : List Char} {start fuel : Nat}

/-- A form is read as its character. -/
theorem Spells.readChars (spells : Spells c form)
    (others : readChars start fuel more = .ok (cs, left)) :
    readChars start (fuel + 1) (form ++ more) = .ok (c :: cs, left) := by
  -- the closing quote is still to come
  have some : more ≠ [] := by
    rintro rfl
    cases fuel <;> cases others
  cases spells with
  | self plain quote backslash =>
    have printable : ¬ c.toNat < 0x20 := Nat.not_lt.2 plain.1
    simp [Json.readChars, backslash, printable, others]
  | letter plain other known => simp [Json.readChars, known, others]
  | unit short =>
    rw [unitEscape, List.cons_append, List.cons_append, Json.readChars,
      readEscapedUnit_unit short some]
    simp only [others]
  | pair long =>
    rw [List.append_assoc, unitEscape, List.cons_append, List.cons_append, Json.readChars,
      readEscapedUnit_pair long some]
    simp only [others]

/-- The forms of several characters are read up to the closing quote. -/
theorem readChars_flatMap (start : Nat) (cs left : List Char)
    (enough : cs.length < fuel) :
    readChars start fuel (cs.flatMap writeChar ++ '"' :: left) = .ok (cs, left) := by
  induction cs generalizing fuel with
  | nil =>
    obtain ⟨fuel, rfl⟩ : ∃ k, fuel = k + 1 := ⟨fuel - 1, by simp at enough; omega⟩
    rfl
  | cons c cs ih =>
    obtain ⟨fuel, rfl⟩ : ∃ k, fuel = k + 1 := ⟨fuel - 1, by simp at enough; omega⟩
    rw [List.flatMap_cons, List.append_assoc]
    exact (spells_writeChar c).readChars (ih (by simpa using enough))

theorem Spells.ne_nil (spells : Spells c form) : form ≠ [] := by
  cases spells <;> simp [unitEscape]

theorem Spells.isPlain (spells : Spells c form) : ∀ d ∈ form, IsPlain d := by
  cases spells with
  | self plain _ _ => simpa using plain
  | letter plain _ _ => simpa using ⟨by decide, plain⟩
  | unit short =>
    simpa [unitEscape] using ⟨by decide, by decide, fun d => isPlain_of_mem_hexDigits d⟩
  | pair long =>
    intro d member
    simp only [unitEscape, List.mem_append, List.mem_cons] at member
    rcases member with (rfl | rfl | digit) | rfl | rfl | digit
    · decide
    · decide
    · exact isPlain_of_mem_hexDigits d digit
    · decide
    · decide
    · exact isPlain_of_mem_hexDigits d digit

theorem length_le_flatMap_writeChar (cs : List Char) :
    cs.length ≤ (cs.flatMap writeChar).length := by
  induction cs with
  | nil => exact le_rfl
  | cons c cs ih =>
    have some := List.length_pos_of_ne_nil (spells_writeChar c).ne_nil
    rw [List.flatMap_cons, List.length_append, List.length_cons]
    omega

/-! ### Texts -/

theorem toList_writeText (s : String) :
    (writeText s).toList = '"' :: (s.toList.flatMap writeChar ++ ['"']) := by
  simp [writeText]

/-- A text is read as what was written, whatever follows it. -/
theorem readText_writeText (s : String) (left : List Char) :
    readText (s.toList.flatMap writeChar ++ '"' :: left) = .ok (s, left) := by
  have enough : s.toList.length <
      (s.toList.flatMap writeChar ++ '"' :: left).length + 1 := by
    have least := length_le_flatMap_writeChar s.toList
    rw [List.length_append]
    omega
  rw [readText, readChars_flatMap _ _ _ enough]
  simp

/-- A written text has no control characters and no characters outside ASCII. -/
theorem isPlain_of_mem_writeText (s : String) : ∀ c ∈ (writeText s).toList, IsPlain c := by
  intro c member
  rw [toList_writeText, List.mem_cons, List.mem_append, List.mem_singleton] at member
  rcases member with rfl | inside | rfl
  · decide
  · obtain ⟨d, -, form⟩ := List.mem_flatMap.1 inside
    exact (spells_writeChar d).isPlain c form
  · decide

/-! ### Halves of pairs -/

theorem toNat_lt_of_unescape? {l c : Char} (known : unescape? l = some c) : c.toNat < 0x80 := by
  unfold unescape? at known
  split at known <;> cases known <;> decide

/-- Half of a pair that is escaped on its own is read as the character that stands for it. -/
theorem readEscapedUnit_half {unit : Nat} {rest : List Char} (half : Text.isHalf unit = true)
    (more : rest ≠ []) (alone : rest.head? ≠ some '\\') :
    readEscapedUnit (Text.hexDigits 4 unit ++ rest) = .ok (Text.halfChar unit, rest) := by
  simp only [Text.isHalf, Bool.and_eq_true, decide_eq_true_eq] at half
  have either : isHighUnit unit = true ∨ isLowUnit unit = true := by
    simp only [isHighUnit, isLowUnit, Bool.and_eq_true, decide_eq_true_eq]
    omega
  have stands : unitChar unit = Text.halfChar unit := by
    rw [unitChar, if_pos (by simpa using either)]
  obtain ⟨c, rest, rfl⟩ := List.exists_cons_of_ne_nil more
  have other : c ≠ '\\' := by simpa using alone
  rw [readEscapedUnit, readUnit_hexDigits (by omega) more]
  -- nothing that could be the other half follows
  simp [stands, other]

/-- Characters of an escape that has been dealt with are passed over. -/
theorem showHalvesFrom_length (front rest : List Char) :
    showHalvesFrom front.length (front ++ rest) = showHalvesFrom 0 rest := by
  induction front with
  | nil => rfl
  | cons d front ih => rw [List.length_cons, List.cons_append, showHalvesFrom, ih]

/-- An escape is shown as that of a half, if its character stands for one, or as it is. -/
theorem showHalvesFrom_escape {digits rest : List Char}
    (read : readEscapedUnit (digits ++ rest) = .ok (c, rest)) :
    showHalvesFrom 0 ('\\' :: 'u' :: (digits ++ rest)) =
      ((Text.half? c).map unitEscape).getD ('\\' :: 'u' :: digits) ++ showHalvesFrom 0 rest := by
  have front : (digits ++ rest).take ((digits ++ rest).length - rest.length) = digits := by
    rw [List.length_append, Nat.add_sub_cancel, List.take_left]
  rw [showHalvesFrom]
  simp only [read, front, showHalvesFrom_length]

/-- Half of a pair that was escaped on its own is shown as it was written. -/
theorem showHalvesFrom_half {unit : Nat} {rest : List Char} (half : Text.isHalf unit = true)
    (more : rest ≠ []) (alone : rest.head? ≠ some '\\') :
    showHalvesFrom 0 (unitEscape unit ++ rest) = unitEscape unit ++ showHalvesFrom 0 rest := by
  have shown := showHalvesFrom_escape (readEscapedUnit_half half more alone)
  rwa [Text.half?_halfChar half] at shown

/-- A character is shown as the half that it stands for, or in its form. -/
theorem Spells.showHalvesFrom (spells : Spells c form) {rest : List Char} (more : rest ≠ []) :
    showHalvesFrom 0 (form ++ rest) =
      ((Text.half? c).map unitEscape).getD form ++ Json.showHalvesFrom 0 rest := by
  cases spells with
  | self plain _ backslash =>
    rw [Text.half?_of_lt (plain.2.trans (by decide))]
    simp [Json.showHalvesFrom, backslash]
  | letter _ _ known =>
    rw [Text.half?_of_lt ((toNat_lt_of_unescape? known).trans (by decide))]
    simp [Json.showHalvesFrom]
  | unit short => exact showHalvesFrom_escape (readEscapedUnit_unit short more)
  | pair long =>
    have read := readEscapedUnit_pair long more
    rw [← List.append_assoc] at read
    exact showHalvesFrom_escape read

/-- A written text is shown with the halves in it escaped as what they are, and all else as it was
written. -/
theorem showHalves_writeText (s : String) :
    showHalves (writeText s) = String.ofList ('"' ::
      (s.toList.flatMap fun c => ((Text.half? c).map unitEscape).getD (writeChar c)) ++ ['"']) := by
  have shown (cs : List Char) : showHalvesFrom 0 (cs.flatMap writeChar ++ ['"']) =
      (cs.flatMap fun c => ((Text.half? c).map unitEscape).getD (writeChar c)) ++ ['"'] := by
    induction cs with
    | nil => rfl
    | cons c cs ih =>
      rw [List.flatMap_cons, List.flatMap_cons, List.append_assoc, List.append_assoc, ← ih]
      exact (spells_writeChar c).showHalvesFrom (by simp)
  rw [showHalves, toList_writeText, showHalvesFrom, shown, List.cons_append]
  all_goals simp

end GraphMapper.Json
