import Lamella.Proofs.Result
import Lamella.Proofs.Value.Numbers
import Lamella.Value.Writer

/-!
# Values are read back

A value is written over several lines, with escapes in its texts and blanks between its parts. What
is written is read back as the same value, if its numbers are finite, its integers have no more
digits than are read, the fields of each of its objects have different names, and it is nested no
deeper than is read.

## Main definitions

- `Value.Legible`: the values that can be read back, by how deep they may be nested.

## Main statements

- `Value.readText_written`: quoted text is read back, whatever it holds.
- `Value.readsBack_list`, `Value.readsBack_object`: a value is read back if those in it are.
- `Value.read_write`: a written value is read back, in any context.
- `Value.ofText_toText`: so is the whole text of a value.
-/

namespace Lamella.Value

/-! ## §1 Quoted text -/

/-- The escape of a control is read back as the control. -/
theorem readUnit_control {c : Char} (hc : c.toNat ≤ 0x1f) (p : Point) (rest : Text) :
    readUnit (Text.ofChars (Text.hex 4 c.toNat) ++ p :: rest) = .ok (.char c, p :: rest) := by
  have hself : Point.ofCode c.toNat = .char c := by
    unfold Point.ofCode
    rw [dif_neg (by intro h; have := h.1; unfold Point.leastHalf at this; omega), Char.ofNat_toNat]
  have hunit : hexUnit? (Text.ofChars (Text.hex 4 c.toNat) ++ p :: rest) = some (c.toNat, p :: rest) := by
    generalize c.toNat = n at hc
    interval_cases n <;> rfl
  unfold readUnit
  simp only [hunit]
  rw [if_neg (by omega), hself]

/-- A point that needs no escape is read as itself. -/
theorem readText_plain {q : Point} (hquote : q ≠ '"') (hslash : q ≠ '\\') (hcode : ¬ q.code ≤ 0x1f)
    (fuel : ℕ) (acc rest : Text) :
    readText (fuel + 1) acc (q :: rest) = readText fuel (q :: acc) rest := by
  rw [readText.eq_def]
  split
  case h_1 | h_2 => contradiction
  case h_3 h _ => exact absurd (List.cons.inj h).1 hquote
  case h_4 h _ => exact absurd (List.cons.inj h).1 hslash
  case h_5 h => exact absurd (List.cons.inj h).1 hslash
  case h_6 h => exact absurd (List.cons.inj h).1 hslash
  case h_7 hfuel h =>
    obtain ⟨rfl, rfl⟩ := List.cons.inj h
    obtain rfl := Nat.succ.inj hfuel
    exact if_neg hcode

/-- One character of a quoted text is read in one step. -/
theorem readText_char (c : Char) (fuel : ℕ) (acc : Text) (p : Point) (rest : Text) :
    readText (fuel + 1) acc (Text.ofChars (writtenChar c) ++ p :: rest) =
      readText fuel (.char c :: acc) (p :: rest) := by
  unfold writtenChar
  split_ifs with h₁ h₂ h₃ h₄ h₅ h₆ h₇
  · rcases h₁ with rfl | rfl <;> rfl
  · rw [h₂]; rfl
  · rw [h₃]; rfl
  · rw [h₄]; rfl
  · rw [h₅]; rfl
  · rw [h₆]; rfl
  · show (readUnit (Text.ofChars (Text.hex 4 c.toNat) ++ p :: rest) >>= _) = _
    rw [readUnit_control h₇]
    rfl
  · refine readText_plain (q := .char c) ?_ ?_ h₇ fuel acc (p :: rest)
    · exact fun h => h₁ (.inl (Point.char.inj h))
    · exact fun h => h₁ (.inr (Point.char.inj h))

theorem readText_point (q : Point) (fuel : ℕ) (acc : Text) (p : Point) (rest : Text) :
    readText (fuel + 1) acc (writtenPoint q ++ p :: rest) = readText fuel (q :: acc) (p :: rest) := by
  cases q with
  | char c => exact readText_char c fuel acc p rest
  | half unit =>
    refine readText_plain (q := .half unit) nofun nofun ?_ fuel acc (p :: rest)
    show ¬ Point.leastHalf + unit.val ≤ 0x1f
    unfold Point.leastHalf
    omega

/-- **Quoted text is read back**, whatever it holds. -/
theorem readText_written (s : Text) (fuel : ℕ) (hfuel : s.length < fuel) (acc rest : Text) :
    readText fuel acc (s.flatMap writtenPoint ++ .char '"' :: rest) = .ok (acc.reverse ++ s, rest) := by
  induction s generalizing fuel acc with
  | nil =>
    obtain ⟨fuel, rfl⟩ := Nat.exists_eq_succ_of_ne_zero (Nat.ne_of_gt hfuel)
    rw [List.append_nil]
    rfl
  | cons q s ih =>
    obtain ⟨fuel, rfl⟩ := Nat.exists_eq_succ_of_ne_zero (Nat.ne_of_gt (Nat.zero_lt_of_lt hfuel))
    -- What follows a point is another one, or the quote at the end
    obtain ⟨p, after, hafter⟩ : ∃ p after,
        s.flatMap writtenPoint ++ .char '"' :: rest = p :: after :=
      List.exists_cons_of_ne_nil (List.append_ne_nil_of_right_ne_nil _ (List.cons_ne_nil _ _))
    have hrest := ih fuel (Nat.lt_of_succ_lt_succ hfuel) (q :: acc)
    rw [List.flatMap_cons, List.append_assoc, hafter, readText_point, ← hafter, hrest,
      List.reverse_cons, List.append_assoc]
    rfl

/-! ## §2 Where values begin and end -/

/-- The points that a written value may begin with. -/
def BeginsValue (p : Point) : Prop :=
  ∃ c, p = .char c ∧ (c.isDigit = true ∨ c ∈ ['n', 't', 'f', 'N', 'I', '-', '"', '[', '\x7b'])

theorem BeginsValue.ne {p : Point} (h : BeginsValue p) {c : Char}
    (hc : c.isDigit = false ∧ c ∉ ['n', 't', 'f', 'N', 'I', '-', '"', '[', '\x7b']) : p ≠ .char c := by
  obtain ⟨c', rfl, hc'⟩ := h
  intro heq
  obtain rfl := Point.char.inj heq
  rcases hc' with hdigit | hmem
  · rw [hc.1] at hdigit
    cases hdigit
  · exact hc.2 hmem

/-- A value does not begin with white space. -/
theorem BeginsValue.not_space {p : Point} (h : BeginsValue p) : isSpace p = false := by
  have hspace := h.ne (c := ' ') (by decide)
  have htab := h.ne (c := '\t') (by decide)
  have hline := h.ne (c := '\n') (by decide)
  have hreturn := h.ne (c := '\r') (by decide)
  simp [isSpace, hspace, htab, hline, hreturn]

theorem skipSpace_of_begins {p : Point} (h : BeginsValue p) (rest : Text) :
    skipSpace (p :: rest) = p :: rest := by
  rw [skipSpace, List.dropWhile_cons_of_neg]
  rw [h.not_space]
  exact Bool.false_ne_true

theorem ofString_newLine (level : ℕ) :
    Text.ofString (newLine level) = .char '\n' :: List.replicate (2 * level) (.char ' ') := by
  rw [newLine, Text.ofString, String.toList_ofList]
  rw [Text.ofChars, List.map_cons, List.map_replicate]

/-- Line ends and indentations are passed over. -/
theorem skipSpace_newLine (level : ℕ) (rest : Text) :
    skipSpace (Text.ofString (newLine level) ++ rest) = skipSpace rest := by
  rw [ofString_newLine, List.cons_append, skipSpace, List.dropWhile_cons_of_pos (by decide)]
  induction 2 * level with
  | zero => rfl
  | succ n ih =>
    rw [List.replicate_succ, List.cons_append, List.dropWhile_cons_of_pos (by decide)]
    exact ih

theorem endsNumber_cons {c : Char} (hc : c.isDigit = false ∧ c ∉ ['.', 'e', 'E', '/'])
    (rest : Text) : EndsNumber (.char c :: rest) := by
  intro c' hc'
  obtain rfl : c = c' := Point.char.inj (Option.some.inj hc')
  simpa using hc

/-- No number goes on with a line end. -/
theorem endsNumber_newLine (level : ℕ) (rest : Text) :
    EndsNumber (Text.ofString (newLine level) ++ rest) := by
  rw [ofString_newLine]
  exact endsNumber_cons (by decide) _

/-! ## §3 Values without others in them -/

variable {R : Type} [Scalar R]

/-- What a number is read from begins with a digit, or with a minus before one. -/
theorem head_of_readNumber {s rest : Text} {v : Value R} (h : readNumber s = .ok (v, rest)) :
    ∃ c tail, c.isDigit = true ∧ (s = .char c :: tail ∨ s = .char '-' :: .char c :: tail) := by
  have hdigits : ∀ {s : Text} {ds : List Char} {rest : Text}, digits? s = some (ds, rest) →
      ∃ c tail, c.isDigit = true ∧ s = .char c :: tail := by
    intro s ds rest h
    unfold digits? at h
    split at h
    · rename_i c tail
      split_ifs at h with hc
      exact ⟨c, tail, hc, rfl⟩
    · cases h
  have hunsigned : ∀ {negative : Bool} {s : Text}, readUnsigned negative s = .ok (v, rest) →
      ∃ c tail, c.isDigit = true ∧ s = .char c :: tail := by
    intro negative s h
    unfold readUnsigned at h
    cases hwhole : wholePart? s with
    | none =>
      rw [hwhole] at h
      cases h
    | some whole =>
      unfold wholePart? at hwhole
      split at hwhole
      · exact ⟨'0', _, rfl, rfl⟩
      · exact hdigits hwhole
  unfold readNumber at h
  split at h
  · obtain ⟨c, tail, hc, rfl⟩ := hunsigned h
    exact ⟨c, tail, hc, .inr rfl⟩
  · obtain ⟨c, tail, hc, rfl⟩ := hunsigned h
    exact ⟨c, tail, hc, .inl rfl⟩

/-- A word begins with a letter, or with a minus before one. -/
theorem head_of_word {entry : String × Except Flaw.Cause (Value R)} (h : entry ∈ wordValues) :
    (∃ c tail, c.isDigit = false ∧ c ≠ '-' ∧ Text.ofString entry.1 = .char c :: tail) ∨
      ∃ c tail, c.isDigit = false ∧ Text.ofString entry.1 = .char '-' :: .char c :: tail := by
  simp only [wordValues, List.mem_cons, List.not_mem_nil, or_false] at h
  rcases h with rfl | rfl | rfl | rfl | rfl | rfl
  · exact .inl ⟨'n', Text.ofString "ull", rfl, by decide, by simp [Text.ofString, Text.ofChars]⟩
  · exact .inl ⟨'t', Text.ofString "rue", rfl, by decide, by simp [Text.ofString, Text.ofChars]⟩
  · exact .inl ⟨'f', Text.ofString "alse", rfl, by decide, by simp [Text.ofString, Text.ofChars]⟩
  · exact .inl ⟨'N', Text.ofString "aN", rfl, by decide, by simp [Text.ofString, Text.ofChars]⟩
  · exact .inl ⟨'I', Text.ofString "nfinity", rfl, by decide, by simp [Text.ofString, Text.ofChars]⟩
  · exact .inr ⟨'I', Text.ofString "nfinity", rfl, by simp [Text.ofString, Text.ofChars]⟩

/-- No word is mistaken for a number. -/
theorem readPlain_number {s rest : Text} {v : Value R} (h : readNumber s = .ok (v, rest)) :
    readPlain s = .ok (v, rest) := by
  have hapart : ∀ {c c' : Char}, c.isDigit = true → c'.isDigit = false → c' ≠ c := by
    rintro c _ hc hc' rfl
    rw [hc] at hc'
    cases hc'
  have hnone : ∀ entry ∈ (wordValues : List (String × Except Flaw.Cause (Value R))),
      ¬ Text.ofString entry.1 <+: s := by
    rintro entry hentry ⟨more, hmore⟩
    obtain ⟨d, tail, hd, rfl | rfl⟩ := head_of_readNumber h <;>
      obtain ⟨c, word, hc, hminus, hword⟩ | ⟨c, word, hc, hword⟩ := head_of_word hentry <;>
      rw [hword] at hmore
    · exact hapart hd hc (Point.char.inj (List.cons.inj hmore).1)
    · exact hapart hd (by decide : '-'.isDigit = false) (Point.char.inj (List.cons.inj hmore).1)
    · exact hminus (Point.char.inj (List.cons.inj hmore).1)
    · exact hapart hd hc (Point.char.inj (List.cons.inj (List.cons.inj hmore).2).1)
  unfold readPlain
  dsimp only
  rw [List.findSome?_eq_none_iff.mpr ?_]
  · exact h
  · rintro ⟨word, v⟩ hentry
    show (after? (Text.ofString word) s).map (v, ·) = none
    rw [after?, if_neg fun hprefix =>
      hnone (word, v) hentry (List.isPrefixOf_iff_prefix.mp hprefix)]
    rfl

/-- What begins neither a text nor a container is a word or a number. -/
theorem read_plain {p : Point} (hquote : p ≠ '"') (hbrace : p ≠ '\x7b') (hbracket : p ≠ '[')
    (fuel depth : ℕ) (rest : Text) :
    (read (fuel + 1) depth (p :: rest) : Except Refusal (Value R × Text)) =
      (readPlain (p :: rest)).mapError fun cause => ⟨cause, (p :: rest).length⟩ := by
  rw [read.eq_def]
  dsimp only
  split
  case h_1 h => exact absurd (List.cons.inj h).1 hquote
  case h_2 h => exact absurd (List.cons.inj h).1 hbrace
  case h_3 h => exact absurd (List.cons.inj h).1 hbracket
  case h_4 => rfl

/-- A word is read as its value, and not as another word. -/
theorem readPlain_word {entry : String × Except Flaw.Cause (Value R)} (h : entry ∈ wordValues)
    (rest : Text) : readPlain (Text.ofString entry.1 ++ rest) = entry.2.map (·, rest) := by
  simp only [wordValues, List.mem_cons, List.not_mem_nil, or_false] at h
  rcases h with rfl | rfl | rfl | rfl | rfl | rfl <;>
    simp [readPlain, wordValues, after?, Text.ofString, Text.ofChars]

/-- A number is read as one wherever a value is. -/
theorem read_number {s rest : Text} {v : Value R} (h : readNumber s = .ok (v, rest))
    (fuel depth : ℕ) : read (fuel + 1) depth s = .ok (v, rest) := by
  have hplain := readPlain_number h
  obtain ⟨c, tail, hc, hs⟩ := head_of_readNumber h
  have hapart : ∀ c' : Char, c'.isDigit = false → c ≠ c' := by
    rintro _ hc' rfl
    rw [hc] at hc'
    cases hc'
  have hpoint : ∀ c' : Char, c'.isDigit = false → Point.char c ≠ .char c' :=
    fun c' hc' h => hapart c' hc' (Point.char.inj h)
  rcases hs with rfl | rfl
  · rw [read_plain (hpoint _ (by decide)) (hpoint _ (by decide)) (hpoint _ (by decide)), hplain]
    rfl
  · rw [read_plain (by decide) (by decide) (by decide), hplain]
    rfl

/-- Quoted text is read as a text wherever a value is. -/
theorem read_text (s : Text) (fuel depth : ℕ) (hfuel : s.length ≤ fuel) (rest : Text) :
    (read (fuel + 1) depth (writtenText s ++ rest) : Except Refusal (Value R × Text)) =
      .ok (.str s, rest) := by
  have hread := readText_written s (fuel + 1) (Nat.lt_succ_of_le hfuel) [] rest
  have htext : writtenText s ++ rest =
      .char '"' :: (s.flatMap writtenPoint ++ .char '"' :: rest) := by
    rw [writtenText, List.append_assoc, List.append_assoc]
    rfl
  rw [htext, read.eq_def]
  simp only [hread]
  rfl

/-! ## §4 Values that can be read back -/

/-- The values that can be read back where no more than `depth` containers may stand within each
other. -/
inductive Legible : ℕ → Value R → Prop where
  | null (depth : ℕ) : Legible depth .null
  | bool (depth : ℕ) (b : Bool) : Legible depth (.bool b)
  | int (depth : ℕ) (n : ℤ) (h : (Nat.toDigits 10 n.natAbs).length ≤ Decimal.digitLimit) :
    Legible depth (.int n)
  | num (depth : ℕ) (x : R) (q : ℚ) (h : Scalar.reading x = .finite q) : Legible depth (.num x)
  | str (depth : ℕ) (s : Text) : Legible depth (.str s)
  | list (depth : ℕ) (items : List (Value R)) (h : ∀ v ∈ items, Legible depth v) :
    Legible (depth + 1) (.list items)
  | object (depth : ℕ) (fields : List (Text × Value R)) (hnames : (fields.map (·.1)).Nodup)
    (h : ∀ field ∈ fields, Legible depth field.2) : Legible (depth + 1) (.object fields)

/-- More containers may stand within each other. -/
theorem Legible.mono {depth : ℕ} {v : Value R} (h : Legible depth v) {depth' : ℕ}
    (hle : depth ≤ depth') : Legible depth' v := by
  induction h generalizing depth' with
  | null _ => exact .null _
  | bool _ b => exact .bool _ b
  | int _ n h => exact .int _ n h
  | num _ x q h => exact .num _ x q h
  | str _ s => exact .str _ s
  | list depth items _ ih =>
    obtain ⟨depth', rfl⟩ := Nat.exists_eq_succ_of_ne_zero (Nat.ne_of_gt (Nat.zero_lt_of_lt hle))
    exact .list _ items fun v hv => ih v hv (Nat.le_of_succ_le_succ hle)
  | object depth fields hnames _ ih =>
    obtain ⟨depth', rfl⟩ := Nat.exists_eq_succ_of_ne_zero (Nat.ne_of_gt (Nat.zero_lt_of_lt hle))
    exact .object _ fields hnames fun field hfield => ih field hfield (Nat.le_of_succ_le_succ hle)

theorem write_list (level : ℕ) (v : Value R) (items : List (Value R)) (rest : Text) :
    write level (.list (v :: items)) ++ rest =
      .char '[' :: (Text.ofString (newLine (level + 1)) ++ (write (level + 1) v ++
        (writeItems (level + 1) items ++
          (Text.ofString (newLine level) ++ .char ']' :: rest)))) := by
  rw [write]
  simp [Text.ofString, Text.ofChars]

theorem write_object (level : ℕ) (name : Text) (v : Value R) (fields : List (Text × Value R))
    (rest : Text) :
    write level (.object ((name, v) :: fields)) ++ rest =
      .char '\x7b' :: (Text.ofString (newLine (level + 1)) ++ (writtenText name ++
        (.char ':' :: .char ' ' :: (write (level + 1) v ++ (writeFields (level + 1) fields ++
          (Text.ofString (newLine level) ++ .char '\x7d' :: rest)))))) := by
  rw [write]
  simp [Text.ofString, Text.ofChars]

theorem writeItems_cons (level : ℕ) (v : Value R) (items : List (Value R)) (rest : Text) :
    writeItems level (v :: items) ++ rest =
      .char ',' :: (Text.ofString (newLine level) ++ (write level v ++
        (writeItems level items ++ rest))) := by
  rw [writeItems]
  simp [Text.ofString, Text.ofChars]

theorem writeFields_cons (level : ℕ) (name : Text) (v : Value R)
    (fields : List (Text × Value R)) (rest : Text) :
    writeFields level ((name, v) :: fields) ++ rest =
      .char ',' :: (Text.ofString (newLine level) ++ (writtenText name ++
        (.char ':' :: .char ' ' :: (write level v ++ (writeFields level fields ++ rest))))) := by
  rw [writeFields]
  simp [Text.ofString, Text.ofChars]

/-! ## §5 Values are read back -/

/-- A value that is read back where it is written at a level, whatever follows it. Two steps are
enough for each of its points. -/
def ReadsBack (depth level : ℕ) (v : Value R) : Prop :=
  (∃ p tail, write level v = p :: tail ∧ BeginsValue p) ∧
    ∀ (fuel : ℕ) (rest : Text), EndsNumber rest → 2 * (write level v).length ≤ fuel →
      read fuel depth (write level v ++ rest) = .ok (v, rest)

/-- A value is found after a line end. -/
theorem ReadsBack.skipSpace_newLine {depth level : ℕ} {v : Value R} (h : ReadsBack depth level v)
    (line : ℕ) (rest : Text) :
    skipSpace (Text.ofString (newLine line) ++ (write level v ++ rest)) = write level v ++ rest := by
  obtain ⟨⟨p, tail, hwrite, hp⟩, -⟩ := h
  rw [Value.skipSpace_newLine, hwrite, List.cons_append, skipSpace_of_begins hp]

/-- A name is found after a line end. -/
theorem skipSpace_name (line : ℕ) (name rest : Text) :
    skipSpace (Text.ofString (newLine line) ++ (writtenText name ++ rest)) =
      writtenText name ++ rest := by
  rw [skipSpace_newLine, writtenText]
  exact skipSpace_of_begins ⟨'"', rfl, .inr (by decide)⟩ _

theorem endsNumber_items (level line : ℕ) (items : List (Value R)) (rest : Text) :
    EndsNumber (writeItems level items ++ (Text.ofString (newLine line) ++ rest)) := by
  cases items with
  | nil =>
    rw [writeItems]
    exact endsNumber_newLine line rest
  | cons v items =>
    rw [writeItems_cons]
    exact endsNumber_cons (by decide) _

theorem endsNumber_fields (level line : ℕ) (fields : List (Text × Value R)) (rest : Text) :
    EndsNumber (writeFields level fields ++ (Text.ofString (newLine line) ++ rest)) := by
  cases fields with
  | nil =>
    rw [writeFields]
    exact endsNumber_newLine line rest
  | cons field fields =>
    obtain ⟨name, v⟩ := field
    rw [writeFields_cons]
    exact endsNumber_cons (by decide) _

theorem length_writeItems_cons (level : ℕ) (v : Value R) (items : List (Value R)) :
    (write level v ++ writeItems level items).length < (writeItems level (v :: items)).length := by
  have h := congrArg List.length (writeItems_cons level v items [])
  simp only [List.append_nil, List.length_cons, List.length_append] at h ⊢
  omega

theorem length_writeFields_cons (level : ℕ) (name : Text) (v : Value R)
    (fields : List (Text × Value R)) :
    (writtenText name ++ (write level v ++ writeFields level fields)).length + 1 <
      (writeFields level ((name, v) :: fields)).length := by
  have h := congrArg List.length (writeFields_cons level name v fields [])
  simp only [List.append_nil, List.length_cons, List.length_append] at h ⊢
  omega

/-- The items of a list that has some. -/
theorem read_list {s : Text} {p : Point} {tail : Text} (hskip : skipSpace s = p :: tail)
    (hp : p ≠ ']') (fuel depth : ℕ) :
    (read (fuel + 1) (depth + 1) (.char '[' :: s) : Except Refusal (Value R × Text)) =
      readItems fuel depth (p :: tail) >>= fun (items, rest) => .ok (.list items, rest) := by
  rw [read]
  simp only [hskip]
  split
  · rename_i h
    exact absurd (List.cons.inj h).1 hp
  · rfl

/-- The fields of an object that has some. -/
theorem read_object {s : Text} {p : Point} {tail : Text} (hskip : skipSpace s = p :: tail)
    (hp : p ≠ '\x7d') (fuel depth : ℕ) :
    (read (fuel + 1) (depth + 1) (.char '\x7b' :: s) : Except Refusal (Value R × Text)) =
      readFields fuel depth [] (p :: tail) >>= fun (fields, rest) => .ok (.object fields, rest) := by
  rw [read]
  simp only [hskip]
  split
  · rename_i h
    exact absurd (List.cons.inj h).1 hp
  · rfl

/-- The items of a list are read back if each of them is. -/
theorem readItems_write {depth level : ℕ} {v : Value R} {items : List (Value R)}
    (h : ∀ u ∈ v :: items, ReadsBack depth level u) (line fuel : ℕ) (rest : Text)
    (hfuel : 2 * (write level v ++ writeItems level items).length < fuel) :
    readItems fuel depth (write level v ++ (writeItems level items ++
      (Text.ofString (newLine line) ++ .char ']' :: rest))) = .ok (v :: items, rest) := by
  induction items generalizing v fuel with
  | nil =>
    obtain ⟨fuel, rfl⟩ := Nat.exists_eq_succ_of_ne_zero (Nat.ne_of_gt (Nat.zero_lt_of_lt hfuel))
    rw [List.length_append] at hfuel
    have hread := (h v List.mem_cons_self).2 fuel _
      (endsNumber_items (R := R) level line [] (.char ']' :: rest)) (by omega)
    have hskip : skipSpace (writeItems level ([] : List (Value R)) ++
        (Text.ofString (newLine line) ++ .char ']' :: rest)) = .char ']' :: rest := by
      rw [writeItems]
      exact skipSpace_newLine line (.char ']' :: rest)
    rw [readItems, hread]
    simp only [Except.ok_bind, hskip]
    rfl
  | cons u items ih =>
    obtain ⟨fuel, rfl⟩ := Nat.exists_eq_succ_of_ne_zero (Nat.ne_of_gt (Nat.zero_lt_of_lt hfuel))
    have hlength := length_writeItems_cons level u items
    rw [List.length_append] at hfuel
    have hread := (h v List.mem_cons_self).2 fuel _
      (endsNumber_items level line (u :: items) (.char ']' :: rest)) (by omega)
    have hrest := ih (fun w hw => h w (List.mem_cons_of_mem v hw)) fuel (by omega)
    have hskip := (h u (by simp)).skipSpace_newLine level (writeItems level items ++
      (Text.ofString (newLine line) ++ .char ']' :: rest))
    rw [readItems, hread, writeItems_cons]
    show (readItems fuel depth (skipSpace _) >>= _) = _
    rw [hskip, hrest]
    rfl

omit [Scalar R] in
theorem setField_append {name : Text} {fields : List (Text × Value R)}
    (h : name ∉ fields.map (·.1)) (v : Value R) : setField name v fields = fields ++ [(name, v)] := by
  induction fields with
  | nil => rfl
  | cons field fields ih =>
    rw [List.map_cons, List.mem_cons, not_or] at h
    rw [setField, if_neg, ih h.2]
    · rfl
    · simpa using Ne.symm h.1

theorem length_le_writtenText (s : Text) : s.length + 2 ≤ (writtenText s).length := by
  have hpoint : ∀ p : Point, 1 ≤ (writtenPoint p).length := by
    intro p
    cases p with
    | half _ => exact Nat.le_refl 1
    | char c =>
      rw [writtenPoint, Text.ofChars, List.length_map]
      unfold writtenChar
      split_ifs <;> simp
  have hpoints : s.length ≤ (s.flatMap writtenPoint).length := by
    induction s with
    | nil => exact Nat.zero_le _
    | cons p s ih =>
      have := hpoint p
      rw [List.flatMap_cons, List.length_cons, List.length_append]
      omega
  rw [writtenText, List.length_append, List.length_append]
  show _ ≤ 1 + _ + 1
  omega

omit [Scalar R] in
theorem not_mem_of_nodup_append {name : Text} {v : Value R} {acc fields : List (Text × Value R)}
    (h : ((acc ++ (name, v) :: fields).map (·.1)).Nodup) : name ∉ acc.map (·.1) := by
  intro hmem
  rw [List.map_append, List.nodup_append] at h
  exact h.2.2 name hmem name List.mem_cons_self rfl

/-- A field is read back, and others after it, if it has another name than those before it. -/
theorem readFields_field {depth level : ℕ} {name : Text} {v : Value R} (h : ReadsBack depth level v)
    {acc : List (Text × Value R)} (hname : name ∉ acc.map (·.1)) {fuel : ℕ} {rest : Text}
    (hrest : EndsNumber rest) (hfuel : 2 * (writtenText name ++ write level v).length ≤ fuel) :
    readFields (fuel + 1) depth acc
        (writtenText name ++ (.char ':' :: .char ' ' :: (write level v ++ rest))) =
      match skipSpace rest with
      | .char '\x7d' :: rest => .ok (acc ++ [(name, v)], rest)
      | .char ',' :: rest => readFields fuel depth (acc ++ [(name, v)]) (skipSpace rest)
      | rest => .error ⟨.comma, rest.length⟩ := by
  have hquoted := length_le_writtenText name
  rw [List.length_append] at hfuel
  have hread := readText_written name (fuel + 1) (by omega) []
    (.char ':' :: .char ' ' :: (write level v ++ rest))
  have htext : writtenText name ++ (.char ':' :: .char ' ' :: (write level v ++ rest)) =
      .char '"' :: (name.flatMap writtenPoint ++
        .char '"' :: .char ':' :: .char ' ' :: (write level v ++ rest)) := by
    rw [writtenText, List.append_assoc, List.append_assoc]
    rfl
  have hvalue := h.2 fuel rest hrest (by omega)
  have hstart : skipSpace (write level v ++ rest) = write level v ++ rest := by
    obtain ⟨⟨p, tail, hwrite, hp⟩, -⟩ := h
    rw [hwrite, List.cons_append, skipSpace_of_begins hp]
  rw [htext, readFields]
  simp only [hread]
  show (read fuel depth (skipSpace (write level v ++ rest)) >>= _) = _
  rw [hstart, hvalue, Except.ok_bind, ← setField_append hname]
  rfl

/-- The fields of an object are read back, after others with other names, if each of them is. -/
theorem readFields_write {depth level : ℕ} {name : Text} {v : Value R}
    {fields : List (Text × Value R)} (acc : List (Text × Value R))
    (hnames : ((acc ++ (name, v) :: fields).map (·.1)).Nodup)
    (h : ∀ field ∈ (name, v) :: fields, ReadsBack depth level field.2) (line fuel : ℕ) (rest : Text)
    (hfuel : 2 * (writtenText name ++ (write level v ++ writeFields level fields)).length < fuel) :
    readFields fuel depth acc (writtenText name ++ (.char ':' :: .char ' ' :: (write level v ++
      (writeFields level fields ++ (Text.ofString (newLine line) ++ .char '\x7d' :: rest))))) =
      .ok (acc ++ (name, v) :: fields, rest) := by
  induction fields generalizing name v acc fuel with
  | nil =>
    obtain ⟨fuel, rfl⟩ := Nat.exists_eq_succ_of_ne_zero (Nat.ne_of_gt (Nat.zero_lt_of_lt hfuel))
    have hv : ReadsBack depth level v := h _ List.mem_cons_self
    have hfresh := not_mem_of_nodup_append hnames
    rw [← List.append_assoc, List.length_append] at hfuel
    rw [readFields_field hv hfresh (endsNumber_fields level line [] _) (by omega)]
    have hskip : skipSpace (writeFields level ([] : List (Text × Value R)) ++
        (Text.ofString (newLine line) ++ .char '\x7d' :: rest)) = .char '\x7d' :: rest := by
      rw [writeFields]
      exact skipSpace_newLine line (.char '\x7d' :: rest)
    rw [hskip]
    rfl
  | cons field fields ih =>
    obtain ⟨fuel, rfl⟩ := Nat.exists_eq_succ_of_ne_zero (Nat.ne_of_gt (Nat.zero_lt_of_lt hfuel))
    obtain ⟨name', v'⟩ := field
    have hv : ReadsBack depth level v := h _ List.mem_cons_self
    have hfresh := not_mem_of_nodup_append hnames
    have hlength := length_writeFields_cons level name' v' fields
    rw [← List.append_assoc, List.length_append] at hfuel
    have hrest := ih (acc ++ [(name, v)]) (by rwa [List.append_assoc])
      (fun field hfield => h field (List.mem_cons_of_mem _ hfield)) fuel (by omega)
    rw [readFields_field hv hfresh (endsNumber_fields level line _ _) (by omega), writeFields_cons]
    show readFields fuel depth _ (skipSpace _) = _
    rw [skipSpace_name, hrest, List.append_assoc]
    rfl

/-- A value is read back if it begins as one and is read in one step or more. -/
theorem readsBack_of_step {depth level : ℕ} {v : Value R} {p : Point} {tail : Text}
    (hwrite : write level v = p :: tail) (hp : BeginsValue p)
    (hread : ∀ (fuel : ℕ) (rest : Text), EndsNumber rest → 2 * (write level v).length ≤ fuel + 1 →
      read (fuel + 1) depth (write level v ++ rest) = .ok (v, rest)) : ReadsBack depth level v := by
  refine ⟨⟨p, tail, hwrite, hp⟩, fun fuel rest hrest hfuel => ?_⟩
  obtain ⟨fuel, rfl⟩ : ∃ f, fuel = f + 1 := by
    rw [hwrite, List.length_cons] at hfuel
    exact ⟨fuel - 1, by omega⟩
  exact hread fuel rest hrest hfuel

/-! ### Values without others in them -/

/-- A value that is written as a word is read back, if the word has this value. -/
theorem readsBack_word {depth level : ℕ} {v : Value R} {word : String}
    (hwrite : write level v = Text.ofString word)
    (h : (word, (.ok v : Except Flaw.Cause (Value R))) ∈ wordValues) : ReadsBack depth level v := by
  obtain ⟨c, tail, hword, hc⟩ : ∃ c tail, Text.ofString word = .char c :: tail ∧
      c ∈ ['n', 't', 'f', 'N', 'I', '-'] := by
    have hfirst : ∀ entry ∈ (wordValues : List (String × Except Flaw.Cause (Value R))),
        ∃ c tail, Text.ofString entry.1 = .char c :: tail ∧ c ∈ ['n', 't', 'f', 'N', 'I', '-'] := by
      simp [wordValues, Text.ofString, Text.ofChars]
    exact hfirst _ h
  have hbegins : BeginsValue (.char c) :=
    ⟨c, rfl, .inr ((List.sublist_append_left _ ['"', '[', '\x7b']).subset hc)⟩
  have hapart : ∀ c' : Char, c' ∉ ['n', 't', 'f', 'N', 'I', '-'] → Point.char c ≠ .char c' := by
    intro c' hc' heq
    obtain rfl := Point.char.inj heq
    exact hc' hc
  refine readsBack_of_step (hwrite.trans hword) hbegins fun fuel rest _ _ => ?_
  have hread := readPlain_word h rest
  rw [hword, List.cons_append] at hread
  rw [hwrite, hword, List.cons_append, read_plain (hapart _ (by decide)) (hapart _ (by decide))
    (hapart _ (by decide)), hread]
  rfl

theorem readsBack_null (depth level : ℕ) : ReadsBack depth level (.null : Value R) :=
  readsBack_word (by rw [write]) (by simp [wordValues])

theorem readsBack_bool (depth level : ℕ) (b : Bool) : ReadsBack depth level (.bool b : Value R) := by
  cases b with
  | true => exact readsBack_word (by rw [write]; rfl) (by simp [wordValues])
  | false => exact readsBack_word (by rw [write]; rfl) (by simp [wordValues])

/-- What is read as a number wherever it is written is read back. -/
theorem readsBack_of_readNumber {depth level : ℕ} {v : Value R}
    (h : ∀ rest, EndsNumber rest → readNumber (write level v ++ rest) = .ok (v, rest)) :
    ReadsBack depth level v := by
  obtain ⟨p, tail, hwrite, hp⟩ : ∃ p tail, write level v = p :: tail ∧ BeginsValue p := by
    have hread := h [] nofun
    rw [List.append_nil] at hread
    obtain ⟨c, tail, hc, hwrite | hwrite⟩ := head_of_readNumber hread
    · exact ⟨c, tail, hwrite, c, rfl, .inl hc⟩
    · exact ⟨'-', _, hwrite, '-', rfl, .inr (by decide)⟩
  exact readsBack_of_step hwrite hp fun fuel rest hrest _ => read_number (h rest hrest) fuel depth

theorem readsBack_int {depth level : ℕ} {n : ℤ}
    (h : (Nat.toDigits 10 n.natAbs).length ≤ Decimal.digitLimit) :
    ReadsBack depth level (.int n : Value R) := by
  refine readsBack_of_readNumber fun rest hrest => ?_
  rw [write]
  exact readNumber_int h hrest

theorem readsBack_num [Scalar.Legible R] {depth level : ℕ} {x : R} {q : ℚ}
    (h : Scalar.reading x = .finite q) : ReadsBack depth level (.num x) := by
  refine readsBack_of_readNumber fun rest hrest => ?_
  have hwritten : write level (.num x) = Text.ofString (Scalar.written x) := by
    rw [write, writtenScalar, h]
  rw [hwritten]
  exact Scalar.Legible.readNumber_written h hrest

theorem readsBack_str (depth level : ℕ) (s : Text) : ReadsBack depth level (.str s : Value R) := by
  have hwrite : write level (.str s : Value R) =
      .char '"' :: (s.flatMap writtenPoint ++ Text.ofString "\"") := by
    rw [write, writtenText, List.append_assoc]
    rfl
  refine readsBack_of_step hwrite ⟨'"', rfl, .inr (by decide)⟩ fun fuel rest _ hfuel => ?_
  have hquoted := length_le_writtenText s
  rw [write] at hfuel ⊢
  exact read_text s fuel depth (by omega) rest

/-! ### Lists and objects -/

/-- A list is read back if its items are. -/
theorem readsBack_list {depth level : ℕ} {items : List (Value R)}
    (h : ∀ v ∈ items, ReadsBack depth (level + 1) v) : ReadsBack (depth + 1) level (.list items) := by
  cases items with
  | nil =>
    have hwrite : write level (.list [] : Value R) = .char '[' :: Text.ofString "]" := by
      rw [write]
      rfl
    refine readsBack_of_step hwrite ⟨'[', rfl, .inr (by decide)⟩ fun fuel rest _ _ => ?_
    rw [write]
    rfl
  | cons v items =>
    have hwrite := write_list level v items []
    rw [List.append_nil] at hwrite
    refine readsBack_of_step hwrite ⟨'[', rfl, .inr (by decide)⟩ fun fuel rest _ hfuel => ?_
    have hlength := congrArg List.length (write_list level v items [])
    have hskip := (h v List.mem_cons_self).skipSpace_newLine (level + 1)
      (writeItems (level + 1) items ++ (Text.ofString (newLine level) ++ .char ']' :: rest))
    have hitems := readItems_write h level fuel rest (by
      simp only [List.append_nil, List.length_cons, List.length_append] at hlength ⊢
      omega)
    obtain ⟨⟨p, tail, hwrite, hp⟩, -⟩ := h v List.mem_cons_self
    rw [hwrite, List.cons_append] at hskip hitems
    rw [write_list, hwrite, List.cons_append, read_list hskip (hp.ne (by decide)), hitems]
    rfl

/-- An object is read back if its fields have different names and their values are. -/
theorem readsBack_object {depth level : ℕ} {fields : List (Text × Value R)}
    (hnames : (fields.map (·.1)).Nodup) (h : ∀ field ∈ fields, ReadsBack depth (level + 1) field.2) :
    ReadsBack (depth + 1) level (.object fields) := by
  cases fields with
  | nil =>
    have hwrite : write level (.object [] : Value R) = .char '\x7b' :: Text.ofString "\x7d" := by
      rw [write]
      rfl
    refine readsBack_of_step hwrite ⟨'\x7b', rfl, .inr (by decide)⟩ fun fuel rest _ _ => ?_
    rw [write]
    rfl
  | cons field fields =>
    obtain ⟨name, v⟩ := field
    have hwrite := write_object level name v fields []
    rw [List.append_nil] at hwrite
    refine readsBack_of_step hwrite ⟨'\x7b', rfl, .inr (by decide)⟩ fun fuel rest _ hfuel => ?_
    have hlength := congrArg List.length (write_object level name v fields [])
    have hfields := readFields_write [] hnames h level fuel rest (by
      simp only [List.append_nil, List.length_cons, List.length_append] at hlength ⊢
      omega)
    obtain ⟨tail, hname⟩ : ∃ tail, writtenText name = .char '"' :: tail := ⟨_, rfl⟩
    have hskip := skipSpace_name (level + 1) name (.char ':' :: .char ' ' ::
      (write (level + 1) v ++ (writeFields (level + 1) fields ++
        (Text.ofString (newLine level) ++ .char '\x7d' :: rest))))
    rw [hname, List.cons_append] at hskip hfields
    rw [write_object, hname, List.cons_append, read_object hskip (by decide), hfields]
    rfl

/-! ### Whole texts -/

/-- **A written value is read back**, whatever follows it that no number goes on with. -/
theorem read_write [Scalar.Legible R] {depth : ℕ} {v : Value R} (h : Legible depth v) (level : ℕ) :
    ReadsBack depth level v := by
  induction h generalizing level with
  | null depth => exact readsBack_null depth level
  | bool depth b => exact readsBack_bool depth level b
  | int depth n h => exact readsBack_int h
  | num depth x q h => exact readsBack_num h
  | str depth s => exact readsBack_str depth level s
  | list depth items h ih => exact readsBack_list fun v hv => ih v hv (level + 1)
  | object depth fields hnames h ih =>
    exact readsBack_object hnames fun field hfield => ih field hfield (level + 1)

/-- The whole text of a value is read as the value, if that is read back. -/
theorem ofText_of_readsBack {v : Value R} (h : ReadsBack nestingLimit 0 v) :
    ofText v.toText = .ok v := by
  obtain ⟨⟨p, tail, hwrite, hp⟩, hread⟩ := h
  have hread := hread (2 * v.toText.length + 2) [] nofun (Nat.le_add_right _ 2)
  rw [List.append_nil] at hread
  have htext : v.toText = p :: tail := hwrite
  unfold ofText
  split
  · rename_i hmark
    rw [htext] at hmark
    exact absurd (List.cons.inj hmark).1 (hp.ne (by decide))
  · rw [show skipSpace v.toText = v.toText by rw [htext, skipSpace_of_begins hp],
      show read _ nestingLimit v.toText = _ from hread]
    rfl

/-- **The text of a value is read back as the value**, if the value is legible. -/
theorem ofText_toText [Scalar.Legible R] {v : Value R} (h : Legible nestingLimit v) :
    ofText v.toText = .ok v :=
  ofText_of_readsBack (read_write h 0)

end Lamella.Value
