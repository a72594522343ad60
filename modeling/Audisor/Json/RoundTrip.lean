/-
**JSON text reads back.**

`loads_dumps`: for every value and every style, reading the text that `dumps` writes gives the value
again. The reader's functions are specified on the writer's output followed by arbitrary text:

* `readNumber_renderInt`, `takeWhile_number` — a number literal ends where the number ends, when what
  follows is not a number character (`NumberEnds`);
* `readString_render` — a string ends at its closing quote, each escape read back as one character
  (`readString_escapeChar`);
* `readValue_render` — a value, by recursion on it, with a fuel of its `weight` or more.

`dumps_injective` is the corollary that two values with one text are equal.
-/

import Audisor.Json.Text

namespace Json

/-! ### Digits -/

theorem digitChar_isDigit : ∀ digit < 10, (digitChar digit).isDigit = true := by decide

theorem digitChar_toNat : ∀ digit < 10, (digitChar digit).toNat - '0'.toNat = digit := by decide

theorem digitChar_ne_zero : ∀ digit < 10, digit ≠ 0 → digitChar digit ≠ '0' := by decide

theorem ofDigits_append (front : List Char) (digit : Char) :
    ofDigits (front ++ [digit]) = 10 * ofDigits front + (digit.toNat - '0'.toNat) := by
  simp [ofDigits]

theorem ofDigits_decimalWith (fuel n : Nat) (bound : n < fuel) :
    ofDigits (decimalWith fuel n) = n := by
  induction fuel generalizing n with
  | zero => omega
  | succ fuel ih =>
    rw [decimalWith]
    split
    · rename_i small
      show 10 * 0 + ((digitChar n).toNat - '0'.toNat) = n
      rw [digitChar_toNat n small]
      omega
    · rw [ofDigits_append, ih _ (by omega), digitChar_toNat _ (by omega)]
      omega

theorem decimalWith_isDigit (fuel n : Nat) : ∀ c ∈ decimalWith fuel n, c.isDigit = true := by
  induction fuel generalizing n with
  | zero => simp [decimalWith]
  | succ fuel ih =>
    intro c member
    rw [decimalWith] at member
    split at member
    · rename_i small
      rw [List.mem_singleton.mp member]
      exact digitChar_isDigit n small
    · rcases List.mem_append.mp member with front | last
      · exact ih _ c front
      · rw [List.mem_singleton.mp last]
        exact digitChar_isDigit _ (by omega)

theorem decimalWith_ne_nil (fuel n : Nat) : decimalWith (fuel + 1) n ≠ [] := by
  rw [decimalWith]
  split <;> simp

theorem decimalWith_head (fuel n : Nat) (bound : n < fuel) (positive : n ≠ 0) :
    (decimalWith fuel n).head? ≠ some '0' := by
  induction fuel generalizing n with
  | zero => omega
  | succ fuel ih =>
    rw [decimalWith]
    split
    · rename_i small
      simpa using digitChar_ne_zero n small positive
    · have shorter := ih (n / 10) (by omega) (by omega)
      obtain ⟨fuel, rfl⟩ : ∃ k, fuel = k + 1 := ⟨fuel - 1, by omega⟩
      obtain ⟨c, rest, spelled⟩ := List.exists_cons_of_ne_nil (decimalWith_ne_nil fuel (n / 10))
      rw [spelled] at shorter ⊢
      simpa using shorter

theorem decimal_isDigit (n : Nat) : ∀ c ∈ decimal n, c.isDigit = true := decimalWith_isDigit _ n

theorem decimal_ne_nil (n : Nat) : decimal n ≠ [] := decimalWith_ne_nil n n

theorem ofDigits_decimal (n : Nat) : ofDigits (decimal n) = n :=
  ofDigits_decimalWith _ n (Nat.lt_succ_self n)

theorem isWholePart_decimal (n : Nat) : isWholePart (decimal n) = true := by
  by_cases zero : n = 0
  · subst zero
    decide
  · have head := decimalWith_head (n + 1) n (Nat.lt_succ_self n) zero
    have nonempty := decimal_ne_nil n
    simp only [isWholePart, decimal] at *
    simp [nonempty, head]

theorem decimal_head_ne_minus (n : Nat) : (decimal n).head? ≠ some '-' := by
  obtain ⟨c, rest, spelled⟩ := List.exists_cons_of_ne_nil (decimal_ne_nil n)
  have digit := decimal_isDigit n c (by simp [spelled])
  rw [spelled]
  rintro ⟨⟩
  revert digit
  decide

/-! ### Numbers -/

theorem unsigned_renderInt (n : Int) : unsigned (renderInt n) = decimal n.natAbs := by
  unfold renderInt unsigned
  split
  · simp
  · rw [if_neg (decimal_head_ne_minus _)]

theorem isIntText_renderInt (n : Int) : isIntText (renderInt n) = true := by
  rw [isIntText, unsigned_renderInt, isWholePart_decimal, Bool.true_and, List.all_eq_true]
  exact decimal_isDigit _

/-- **An integer literal reads as its integer.** -/
theorem readNumber_renderInt (n : Int) : readNumber (renderInt n) = some (.int n) := by
  rw [readNumber, if_pos (isIntText_renderInt n), unsigned_renderInt, ofDigits_decimal]
  unfold renderInt
  split
  · rename_i negative
    simp only [List.head?_cons, if_true]
    congr
    omega
  · rw [if_neg (decimal_head_ne_minus _)]
    congr
    omega

theorem readNumber_float (literal : FloatLit) :
    readNumber literal.text = some (.float literal) := by
  obtain ⟨text, valid⟩ := literal
  have notInt : isIntText text = false := by
    simp only [isFloatText, Bool.and_eq_true] at valid
    simpa using valid.2
  simp [readNumber, notInt, valid]

theorem isNumberChar_of_isDigit {c : Char} (digit : c.isDigit = true) : isNumberChar c = true := by
  simp [isNumberChar, digit]

theorem renderInt_isNumberChar (n : Int) : ∀ c ∈ renderInt n, isNumberChar c = true := by
  intro c member
  unfold renderInt at member
  split at member
  · rcases List.mem_cons.mp member with rfl | member
    · decide
    · exact isNumberChar_of_isDigit (decimal_isDigit _ c member)
  · exact isNumberChar_of_isDigit (decimal_isDigit _ c member)

theorem float_isNumberChar (literal : FloatLit) : ∀ c ∈ literal.text, isNumberChar c = true := by
  have valid := literal.valid
  simp only [isFloatText, Bool.and_eq_true] at valid
  exact List.all_eq_true.mp valid.1.1

theorem renderInt_ne_nil (n : Int) : renderInt n ≠ [] := by
  unfold renderInt
  split
  · simp
  · exact decimal_ne_nil _

theorem float_ne_nil (literal : FloatLit) : literal.text ≠ [] := by
  obtain ⟨text, valid⟩ := literal
  rintro rfl
  revert valid
  decide

def NumberEnds (rest : List Char) : Prop := ∀ c, rest.head? = some c → isNumberChar c = false

theorem takeWhile_number {text rest : List Char} (inside : ∀ c ∈ text, isNumberChar c = true)
    (ends : NumberEnds rest) :
    (text ++ rest).takeWhile isNumberChar = text ∧ (text ++ rest).dropWhile isNumberChar = rest := by
  induction text with
  | nil =>
    cases rest with
    | nil => exact ⟨rfl, rfl⟩
    | cons c rest =>
      have stop := ends c rfl
      simp [stop]
  | cons c text ih =>
    have here := inside c List.mem_cons_self
    have further := ih fun d member => inside d (List.mem_cons_of_mem _ member)
    simp [here, further]

theorem readValue_number {fuel : Nat} {text rest : List Char} {value : Json} (nonempty : text ≠ [])
    (inside : ∀ c ∈ text, isNumberChar c = true) (ends : NumberEnds rest)
    (reads : readNumber text = some value) :
    readValue (fuel + 1) (text ++ rest) = some (value, rest) := by
  obtain ⟨taken, dropped⟩ := takeWhile_number inside ends
  obtain ⟨c, tail, rfl⟩ := List.exists_cons_of_ne_nil nonempty
  have first := inside c List.mem_cons_self
  have notSpace : isSpace c = false := by
    cases h : isSpace c with
    | false => rfl
    | true =>
      simp only [isSpace, Bool.or_eq_true, beq_iff_eq] at h
      rcases h with ((rfl | rfl) | rfl) | rfl <;> revert first <;> decide
  have unspaced : skipSpace (c :: tail ++ rest) = c :: tail ++ rest := by
    simp [skipSpace, notSpace]
  rw [readValue, unspaced]
  split
  all_goals first
    | (rename_i shape; injection shape with same _; subst same; exact absurd first (by decide))
    | rw [taken, dropped, reads, Option.map_some]

/-! ### Strings -/

theorem hexValue_hexChar : ∀ digit < 16, hexValue (hexChar digit) = some digit := by decide

theorem ofHex4_hex4 (n : Nat) (bound : n < 0x10000) :
    ofHex4 (hexChar (n / 4096 % 16)) (hexChar (n / 256 % 16)) (hexChar (n / 16 % 16))
      (hexChar (n % 16)) = some n := by
  rw [ofHex4, hexValue_hexChar _ (by omega), hexValue_hexChar _ (by omega),
    hexValue_hexChar _ (by omega), hexValue_hexChar _ (by omega)]
  simp only [Option.some.injEq]
  omega

/-- A `\uXXXX` escape, or a pair of them, reads as its character. -/
theorem readString_unicodeEscape (c : Char) (rest : List Char) :
    readString (unicodeEscape c.toNat ++ rest) = consChar c (readString rest) := by
  have scalar : c.toNat < 0xD800 ∨ 0xDFFF < c.toNat ∧ c.toNat < 0x110000 := c.valid
  unfold unicodeEscape
  split
  · rename_i basic
    simp only [hex4, List.cons_append, List.nil_append]
    rw [readString, ofHex4_hex4 _ basic]
    simp only
    rw [if_neg (by omega), if_neg (by omega), Char.ofNat_toNat]
  · simp only [hex4, List.cons_append, List.nil_append]
    rw [readString, ofHex4_hex4 _ (by omega)]
    simp only
    rw [if_pos (by omega), ofHex4_hex4 _ (by omega)]
    simp only
    rw [if_pos (by omega)]
    have joined : 0x10000 + (0xD800 + (c.toNat - 0x10000) / 0x400 - 0xD800) * 0x400 +
        (0xDC00 + (c.toNat - 0x10000) % 0x400 - 0xDC00) = c.toNat := by omega
    rw [joined, Char.ofNat_toNat]

/-- **One written character reads as one character.** -/
theorem readString_escapeChar (style : Style) (c : Char) (rest : List Char) :
    readString (escapeChar style c ++ rest) = consChar c (readString rest) := by
  unfold escapeChar
  split
  · subst_vars; rfl
  split
  · subst_vars; rfl
  split
  · subst_vars; rfl
  split
  · subst_vars; rfl
  split
  · subst_vars; rfl
  split
  · subst_vars; rfl
  split
  · subst_vars; rfl
  split
  · exact readString_unicodeEscape c rest
  · rename_i notQuote notSlash _ _ _ _ _ plain
    have printable : ¬ (c.toNat < 0x20 ∨ c = '\\') := by
      rintro (low | slash)
      · exact plain (Or.inl low)
      · exact notSlash slash
    rw [List.singleton_append, readString.eq_def]
    split
    all_goals simp_all

/-- **A written string reads up to its closing quote.** -/
theorem readString_render (style : Style) (text rest : List Char) :
    readString (text.flatMap (escapeChar style) ++ '"' :: rest) = some (text, rest) := by
  induction text with
  | nil => rfl
  | cons c text ih =>
    rw [List.flatMap_cons, List.append_assoc, readString_escapeChar, ih]
    rfl

/-! ### Values -/

mutual

def weight : Json → Nat
  | .arr items => 1 + weightItems items
  | .obj fields => 1 + weightFields fields
  | _ => 1

def weightItems : List Json → Nat
  | [] => 0
  | item :: rest => 1 + weight item + weightItems rest

def weightFields : List (String × Json) → Nat
  | [] => 0
  | (_, value) :: rest => 1 + weight value + weightFields rest

end

/-- A text starts a value: not with a space, and not with a closing bracket. -/
def StartsValue (text : List Char) : Prop :=
  ∃ c tail, text = c :: tail ∧ isSpace c = false ∧ c ≠ ']' ∧ c ≠ '}'

theorem startsValue_number {text : List Char} (nonempty : text ≠ [])
    (inside : ∀ c ∈ text, isNumberChar c = true) : StartsValue text := by
  obtain ⟨c, tail, rfl⟩ := List.exists_cons_of_ne_nil nonempty
  have first := inside c List.mem_cons_self
  refine ⟨c, tail, rfl, ?_, ?_, ?_⟩
  · cases spaced : isSpace c with
    | false => rfl
    | true =>
      simp only [isSpace, Bool.or_eq_true, beq_iff_eq] at spaced
      rcases spaced with ((rfl | rfl) | rfl) | rfl <;> revert first <;> decide
  · rintro rfl
    revert first
    decide
  · rintro rfl
    revert first
    decide

theorem render_starts (style : Style) (value : Json) : StartsValue (render style value) := by
  cases value with
  | null => exact ⟨_, _, rfl, by decide, by decide, by decide⟩
  | bool b => cases b <;> exact ⟨_, _, rfl, by decide, by decide, by decide⟩
  | int n => exact startsValue_number (renderInt_ne_nil n) (renderInt_isNumberChar n)
  | float literal => exact startsValue_number (float_ne_nil literal) (float_isNumberChar literal)
  | str text => exact ⟨_, _, rfl, by decide, by decide, by decide⟩
  | arr items => exact ⟨_, _, rfl, by decide, by decide, by decide⟩
  | obj fields => exact ⟨_, _, rfl, by decide, by decide, by decide⟩

theorem skipSpace_of_starts {text : List Char} (starts : StartsValue text) (rest : List Char) :
    skipSpace (text ++ rest) = text ++ rest := by
  obtain ⟨c, tail, rfl, unspaced, _⟩ := starts
  simp [skipSpace, unspaced]

theorem skipSpace_gap (style : Style) (text : List Char) :
    skipSpace (style.gap ++ text) = skipSpace text := by
  unfold Style.gap
  split
  · rfl
  · rw [skipSpace, List.singleton_append, List.dropWhile_cons, if_pos (by decide)]
    rfl

theorem readValue_gap (style : Style) (fuel : Nat) (text : List Char) :
    readValue fuel (style.gap ++ text) = readValue fuel text := by
  cases fuel with
  | zero => rfl
  | succ fuel => rw [readValue, readValue, skipSpace_gap]

theorem readItems_gap (style : Style) (fuel : Nat) (text : List Char) :
    readItems fuel (style.gap ++ text) = readItems fuel text := by
  cases fuel with
  | zero => rfl
  | succ fuel => rw [readItems, readItems, readValue_gap]

theorem readFields_gap (style : Style) (fuel : Nat) (text : List Char) :
    readFields fuel (style.gap ++ text) = readFields fuel text := by
  cases fuel with
  | zero => rfl
  | succ fuel => rw [readFields, readFields, skipSpace_gap]

theorem numberEnds_moreItems (style : Style) (items : List Json) (rest : List Char) :
    NumberEnds (renderMoreItems style items ++ rest) := by
  rintro c head
  cases items <;> cases head <;> decide

theorem numberEnds_moreFields (style : Style) (fields : List (String × Json)) (rest : List Char) :
    NumberEnds (renderMoreFields style fields ++ rest) := by
  rintro c head
  rcases fields with _ | ⟨⟨_, _⟩, _⟩ <;> cases head <;> decide

theorem readFields_key (style : Style) (fuel : Nat) (key : String) (text : List Char) :
    readFields (fuel + 1) (renderString style key.toList ++ ':' :: text) =
      match readValue fuel text with
      | none => none
      | some (value, rest) =>
        match skipSpace rest with
        | '}' :: rest' => some ([(key, value)], rest')
        | ',' :: rest' => (readFields fuel rest').map fun read => ((key, value) :: read.1, read.2)
        | _ => none := by
  rw [readFields, renderString, List.cons_append, List.append_assoc, skipSpace,
    List.dropWhile_cons, if_neg (by decide)]
  simp only [List.singleton_append]
  rw [readString_render]
  simp only
  rw [skipSpace, List.dropWhile_cons, if_neg (by decide), String.ofList_toList]
  rfl

mutual

/-- **A written value reads back**, whatever follows it that does not prolong a number. -/
theorem readValue_render (style : Style) : ∀ (value : Json) (fuel : Nat) (rest : List Char),
    weight value ≤ fuel → NumberEnds rest →
      readValue fuel (render style value ++ rest) = some (value, rest)
  | value, 0, _, enough, _ => by cases value <;> simp [weight] at enough
  | .null, fuel + 1, rest, _, _ => rfl
  | .bool true, fuel + 1, rest, _, _ => rfl
  | .bool false, fuel + 1, rest, _, _ => rfl
  | .int n, fuel + 1, rest, _, ends =>
    readValue_number (renderInt_ne_nil n) (renderInt_isNumberChar n) ends (readNumber_renderInt n)
  | .float literal, fuel + 1, rest, _, ends =>
    readValue_number (float_ne_nil literal) (float_isNumberChar literal) ends
      (readNumber_float literal)
  | .str text, fuel + 1, rest, _, _ => by
    rw [readValue, skipSpace_of_starts (render_starts style (.str text)), render, renderString,
      List.cons_append, List.append_assoc]
    simp only [List.singleton_append]
    rw [readString_render, Option.map_some, String.ofList_toList]
  | .arr [], fuel + 1, rest, _, _ => rfl
  | .arr (item :: items), fuel + 1, rest, enough, _ => by
    simp only [weight] at enough
    have read := readItems_render style item items fuel rest (by omega)
    obtain ⟨c, tail, starts, unspaced, notClosed, _⟩ := render_starts style item
    rw [readValue, skipSpace_of_starts (render_starts style (.arr (item :: items))), render,
      renderItems, List.cons_append]
    simp only
    rw [List.append_assoc] at read ⊢
    rw [read]
    rw [starts, List.cons_append, skipSpace, List.dropWhile_cons, if_neg (by simp [unspaced])]
    split
    · rename_i shape
      injection shape with same _
      exact absurd same notClosed
    · rfl
  | .obj [], fuel + 1, rest, _, _ => rfl
  | .obj ((key, value) :: fields), fuel + 1, rest, enough, _ => by
    simp only [weight] at enough
    have read := readFields_render style key value fields fuel rest (by omega)
    rw [readValue, skipSpace_of_starts (render_starts style (.obj ((key, value) :: fields))),
      render, renderFields, List.cons_append]
    simp only
    rw [read]
    rw [renderString, List.cons_append, List.cons_append, skipSpace, List.dropWhile_cons,
      if_neg (by decide)]
    rfl

theorem readItems_render (style : Style) : ∀ (item : Json) (items : List Json) (fuel : Nat)
    (rest : List Char), weightItems (item :: items) ≤ fuel →
      readItems fuel ((render style item ++ renderMoreItems style items) ++ rest) =
        some (item :: items, rest)
  | item, items, 0, rest, enough => by
    simp only [weightItems] at enough
    omega
  | item, [], fuel + 1, rest, enough => by
    simp only [weightItems] at enough
    have read := readValue_render style item fuel (renderMoreItems style [] ++ rest) (by omega)
      (numberEnds_moreItems style [] rest)
    rw [readItems, List.append_assoc, read]
    rfl
  | item, next :: items, fuel + 1, rest, enough => by
    simp only [weightItems] at enough
    have read := readValue_render style item fuel (renderMoreItems style (next :: items) ++ rest)
      (by omega) (numberEnds_moreItems style (next :: items) rest)
    have further := readItems_render style next items fuel rest (by simp only [weightItems]; omega)
    rw [readItems, List.append_assoc, read]
    simp only
    rw [renderMoreItems, List.cons_append, List.append_assoc, skipSpace, List.dropWhile_cons,
      if_neg (by decide)]
    simp only
    rw [readItems_gap, further]
    rfl

theorem readFields_render (style : Style) : ∀ (key : String) (value : Json)
    (fields : List (String × Json)) (fuel : Nat) (rest : List Char),
    weightFields ((key, value) :: fields) ≤ fuel →
      readFields fuel ((renderString style key.toList ++
        ':' :: (style.gap ++ (render style value ++ renderMoreFields style fields))) ++ rest) =
          some ((key, value) :: fields, rest)
  | key, value, fields, 0, rest, enough => by
    simp only [weightFields] at enough
    omega
  | key, value, [], fuel + 1, rest, enough => by
    simp only [weightFields] at enough
    have read := readValue_render style value fuel (renderMoreFields style [] ++ rest) (by omega)
      (numberEnds_moreFields style [] rest)
    rw [List.append_assoc, List.cons_append, readFields_key, List.append_assoc, readValue_gap,
      List.append_assoc, read]
    rfl
  | key, value, (key', value') :: fields, fuel + 1, rest, enough => by
    simp only [weightFields] at enough
    have read := readValue_render style value fuel
      (renderMoreFields style ((key', value') :: fields) ++ rest) (by omega)
      (numberEnds_moreFields style ((key', value') :: fields) rest)
    have further := readFields_render style key' value' fields fuel rest
      (by simp only [weightFields]; omega)
    rw [List.append_assoc, List.cons_append, readFields_key, List.append_assoc, readValue_gap,
      List.append_assoc, read]
    simp only
    rw [renderMoreFields, List.cons_append, List.append_assoc, skipSpace, List.dropWhile_cons,
      if_neg (by decide)]
    simp only
    rw [readFields_gap, further]
    rfl

end

/-! ### The length of a text bounds the fuel -/

mutual

theorem weight_le_length (style : Style) : ∀ value : Json,
    weight value ≤ (render style value).length
  | .null => by simp [weight, render]
  | .bool b => by cases b <;> simp [weight, render]
  | .int n => List.length_pos_of_ne_nil (renderInt_ne_nil n)
  | .float literal => List.length_pos_of_ne_nil (float_ne_nil literal)
  | .str text => by simp [weight, render, renderString]
  | .arr [] => by simp [weight, weightItems, render, renderItems]
  | .arr (item :: items) => by
    have first := weight_le_length style item
    have others := weightItems_lt_length style items
    simp only [weight, weightItems, render, renderItems, List.length_cons, List.length_append]
    omega
  | .obj [] => by simp [weight, weightFields, render, renderFields]
  | .obj ((key, value) :: fields) => by
    have first := weight_le_length style value
    have others := weightFields_lt_length style fields
    simp only [weight, weightFields, render, renderFields, List.length_cons, List.length_append]
    omega

theorem weightItems_lt_length (style : Style) : ∀ items : List Json,
    weightItems items < (renderMoreItems style items).length
  | [] => by simp [weightItems, renderMoreItems]
  | item :: items => by
    have first := weight_le_length style item
    have others := weightItems_lt_length style items
    simp only [weightItems, renderMoreItems, List.length_cons, List.length_append]
    omega

theorem weightFields_lt_length (style : Style) : ∀ fields : List (String × Json),
    weightFields fields < (renderMoreFields style fields).length
  | [] => by simp [weightFields, renderMoreFields]
  | (key, value) :: fields => by
    have first := weight_le_length style value
    have others := weightFields_lt_length style fields
    simp only [weightFields, renderMoreFields, List.length_cons, List.length_append]
    omega

end

/-- **`json.loads(json.dumps(value)) == value`**, in every style. -/
@[simp] theorem loads_dumps (value : Json) (style : Style) : loads (dumps value style) = some value := by
  have enough := weight_le_length style value
  have read := readValue_render style value (2 * (render style value).length + 2) [] (by omega)
    fun c head => by cases head
  rw [List.append_nil] at read
  rw [loads, dumps, String.toList_ofList, read]
  rfl

theorem loads_line (value : Json) (style : Style) : loads (dumps value style ++ "\n") = some value := by
  have enough := weight_le_length style value
  have read := readValue_render style value (2 * ((render style value).length + 1) + 2) ['\n']
    (by omega) fun c head => by cases head; decide
  have text : (dumps value style ++ "\n").toList = render style value ++ ['\n'] := by
    rw [String.toList_append, dumps, String.toList_ofList]
    rfl
  rw [loads, text, List.length_append, List.length_singleton, read]
  rfl

theorem dumps_injective (style : Style) : Function.Injective fun value => dumps value style := by
  intro first second same
  have reads := congrArg loads same
  simpa using reads

end Json
