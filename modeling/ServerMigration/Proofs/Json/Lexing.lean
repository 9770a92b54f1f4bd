import ServerMigration.Json.Token
import ServerMigration.Json.Writer
import ServerMigration.Proofs.Text.Numerals

/-!
# The tokens of written documents

Both forms of a value, the compact one and the indented one, consist of the same tokens: blanks
between them do not count, the characters of a string are read back from their escapes, and a
numeral ends where the mark behind it begins.

## Main definitions

* `Json.Plain` : all numbers are whole and fit sixty-four bits without a sign.
* `Json.tokensOf` : the tokens of a value.

## Main results

* `Json.tokens_compact`, `Json.tokens_indented` : the tokens of both forms.
-/

namespace ServerMigration.Json

/-! ### Values and their tokens -/

/-- A whole number without a sign that fits sixty-four bits. -/
def Number.Plain : Number → Prop
  | .whole n => 0 ≤ n ∧ n < UInt64.size
  | .double _ => False

mutual

/-- All numbers are whole and fit sixty-four bits without a sign. -/
def Plain : Json → Prop
  | .number n => n.Plain
  | .array items => PlainItems items
  | .object fields => PlainFields fields
  | .null | .bool _ | .string _ => True

/-- `Plain` for the items of an array. -/
def PlainItems : List Json → Prop
  | [] => True
  | item :: items => Plain item ∧ PlainItems items

/-- `Plain` for the fields of an object. -/
def PlainFields : List (String × Json) → Prop
  | [] => True
  | (_, value) :: fields => Plain value ∧ PlainFields fields

end

theorem plainItems_iff {items : List Json} : PlainItems items ↔ ∀ item ∈ items, item.Plain := by
  induction items with
  | nil => simp [PlainItems]
  | cons item items ih => simp [PlainItems, ih]

theorem plainFields_iff {fields : List (String × Json)} :
    PlainFields fields ↔ ∀ field ∈ fields, field.2.Plain := by
  induction fields with
  | nil => simp [PlainFields]
  | cons field fields ih => simp [PlainFields, ih]

mutual

/-- The tokens of a value. -/
def tokensOf : Json → List Token
  | .null => [.null]
  | .bool b => [.bool b]
  | .number n => [.number n]
  | .string s => [.string s]
  | .array items => .openArray :: itemTokens items ++ [.closeArray]
  | .object fields => .openObject :: fieldTokens fields ++ [.closeObject]

/-- The tokens of items with commas between them. -/
def itemTokens : List Json → List Token
  | [] => []
  | item :: items => tokensOf item ++ laterItems items

/-- The tokens of the items after the first, each behind a comma. -/
def laterItems : List Json → List Token
  | [] => []
  | item :: items => .comma :: tokensOf item ++ laterItems items

/-- The tokens of fields with commas between them. -/
def fieldTokens : List (String × Json) → List Token
  | [] => []
  | (key, value) :: fields => .string key :: .colon :: tokensOf value ++ laterFields fields

/-- The tokens of the fields after the first, each behind a comma. -/
def laterFields : List (String × Json) → List Token
  | [] => []
  | (key, value) :: fields =>
    .comma :: .string key :: .colon :: tokensOf value ++ laterFields fields

end

/-! ### Blanks and marks -/

theorem lex_none_cons (c : Char) (text : List Char) : lex .none (c :: text)
    = if isSpace c then lex .none text
      else if c = '"' then lex (.string []) text
      else if isBare c then lex (.bare [c]) text
      else punctuation c :: lex .none text := rfl

theorem lex_bare_cons (word : List Char) (c : Char) (text : List Char) :
    lex (.bare word) (c :: text)
    = if isBare c then lex (.bare (c :: word)) text
      else if isSpace c then bareToken word.reverse :: lex .none text
      else if c = '"' then bareToken word.reverse :: lex (.string []) text
      else bareToken word.reverse :: punctuation c :: lex .none text := rfl

theorem lex_space {c : Char} (h : isSpace c) (text : List Char) :
    lex .none (c :: text) = lex .none text := by
  rw [lex_none_cons, if_pos h]

theorem lex_newline (level : Nat) (text : List Char) :
    lex .none (newline level ++ text) = lex .none text := by
  have hblanks : ∀ n, lex .none (List.replicate n ' ' ++ text) = lex .none text := by
    intro n
    induction n with
    | zero => rfl
    | succ n ih => rw [List.replicate_succ, List.cons_append, lex_space (by decide), ih]
  rw [newline, List.cons_append, lex_space (by decide), hblanks]

section

variable (text : List Char)

theorem lex_comma : lex .none (',' :: text) = .comma :: lex .none text := rfl

theorem lex_colon : lex .none (':' :: text) = .colon :: lex .none text := rfl

theorem lex_openArray : lex .none ('[' :: text) = .openArray :: lex .none text := rfl

theorem lex_closeArray : lex .none (']' :: text) = .closeArray :: lex .none text := rfl

theorem lex_openObject : lex .none ('\x7b' :: text) = .openObject :: lex .none text := rfl

theorem lex_closeObject : lex .none ('\x7d' :: text) = .closeObject :: lex .none text := rfl

end

/-! ### Strings -/

theorem codeUnit?_hexByte {n : Nat} (h : n < 0x20) :
    codeUnit? '0' '0' (Text.hexDigit (n / 16)) (Text.hexDigit (n % 16)) = some n := by
  revert n
  decide

/-- An escape of four hexadecimal digits that is no half of a pair. -/
theorem lex_unicode {a b c d : Char} {unit : Nat} (h : codeUnit? a b c d = some unit)
    (hunit : unit < 0xD800) (reversed text : List Char) :
    lex (.string reversed) ('\\' :: 'u' :: a :: b :: c :: d :: text)
      = lex (.string (Char.ofNat unit :: reversed)) text := by
  have hhigh : isHigh unit = false := by simp [isHigh]; omega
  have hlow : isLow unit = false := by simp [isLow]; omega
  -- Another such escape may follow, in which case both are read together.
  by_cases hnext : ∃ a' b' c' d' rest, text = '\\' :: 'u' :: a' :: b' :: c' :: d' :: rest
  · obtain ⟨a', b', c', d', rest, rfl⟩ := hnext
    rw [lex, h]
    simp [hhigh, hlow]
  · rw [lex, h]
    · simp [hhigh, hlow]
    · exact fun a' b' c' d' rest heq => hnext ⟨a', b', c', d', rest, heq⟩

theorem lex_plain {c : Char} (hquote : c ≠ '"') (hescape : c ≠ '\\') (hcontrol : ¬ c.toNat < 0x20)
    (reversed text : List Char) :
    lex (.string reversed) (c :: text) = lex (.string (c :: reversed)) text := by
  rw [lex, if_neg hcontrol]
  all_goals simp [hquote, hescape]

/-- A character of a string is read back. -/
theorem lex_escapeChar (c : Char) (reversed text : List Char) :
    lex (.string reversed) (escapeChar c ++ text) = lex (.string (c :: reversed)) text := by
  unfold escapeChar
  split
  iterate 7
    · rfl
  · next hquote hescape _ _ _ _ _ =>
    split
    · next hcontrol =>
      have hsize : c.toNat.toUInt8.toNat = c.toNat := by
        simp only [Nat.toUInt8, UInt8.toNat_ofNat']
        omega
      have hunit := lex_unicode (codeUnit?_hexByte hcontrol) (by omega) reversed text
      rw [Char.ofNat_toNat] at hunit
      rw [Text.hexByte, hsize]
      exact hunit
    · next hcontrol => exact lex_plain hquote hescape hcontrol reversed text

theorem lex_escaped (s reversed text : List Char) :
    lex (.string reversed) (s.flatMap escapeChar ++ '"' :: text)
      = .string (String.ofList (reversed.reverse ++ s)) :: lex .none text := by
  induction s generalizing reversed with
  | nil =>
    rw [List.flatMap_nil, List.nil_append, List.append_nil]
    rfl
  | cons c s ih =>
    rw [List.flatMap_cons, List.append_assoc, lex_escapeChar, ih]
    simp

/-- **A string is one token.** -/
theorem lex_quote (s : String) (text : List Char) :
    lex .none (quote s ++ text) = .string s :: lex .none text := by
  have hopen : ∀ rest, lex .none ('"' :: rest) = lex (.string []) rest := fun _ => rfl
  have hquote : quote s ++ text = '"' :: (s.toList.flatMap escapeChar ++ '"' :: text) := by
    simp [quote]
  rw [hquote, hopen, lex_escaped]
  simp

/-! ### Words and numerals -/

/-- A text that no word or numeral in front of it goes on with. -/
def Apart (text : List Char) : Prop := text.head?.all (!isBare ·)

theorem lex_bare {word text : List Char} (hword : word.all isBare) (h : Apart text)
    (reversed : List Char) : lex (.bare reversed) (word ++ text)
      = bareToken (reversed.reverse ++ word) :: lex .none text := by
  induction word generalizing reversed with
  | nil =>
    rw [List.nil_append, List.append_nil]
    cases text with
    | nil => rfl
    | cons c text =>
      have hc : ¬ isBare c := by simpa [Apart] using h
      rw [lex_bare_cons, lex_none_cons, if_neg hc, if_neg hc]
      split
      · rfl
      · split
        · rfl
        · rfl
  | cons c word ih =>
    obtain ⟨hc, hword⟩ := by simpa only [List.all_cons, Bool.and_eq_true] using hword
    rw [List.cons_append, lex_bare_cons, if_pos hc, ih hword]
    simp

/-- **A word or numeral is one token.** -/
theorem lex_word {word text : List Char} (hne : word ≠ []) (hword : word.all isBare)
    (h : Apart text) : lex .none (word ++ text) = bareToken word :: lex .none text := by
  cases word with
  | nil => exact absurd rfl hne
  | cons c word =>
    obtain ⟨hc, hword⟩ := by simpa only [List.all_cons, Bool.and_eq_true] using hword
    have hspace : ¬ isSpace c := by
      intro hspace
      have hcases : ((c = ' ' ∨ c = '\n') ∨ c = '\t') ∨ c = '\r' := by simpa [isSpace] using hspace
      rcases hcases with ((rfl | rfl) | rfl) | rfl
      all_goals exact absurd hc (by decide)
    have hquote : c ≠ '"' := by
      rintro rfl
      exact absurd hc (by decide)
    rw [List.cons_append, lex_none_cons, if_neg hspace, if_neg hquote, if_pos hc,
      lex_bare hword h]
    rfl

theorem ofChars?_of_digits {digits : List Char} (hdigits : digits.all Char.isDigit)
    (hne : digits ≠ []) (hzero : digits.head? = some '0' → digits.length = 1) :
    Numeral.ofChars? digits = some ⟨false, digits, none, none⟩ := by
  have hsign : ∀ rest, digits ≠ '-' :: rest := by
    rintro rest rfl
    exact absurd hdigits (by simp)
  have hend : ([] : List Char).head?.all (!Char.isDigit ·) := rfl
  obtain ⟨htake, hdrop⟩ := Text.takeWhile_digits hdigits hend
  rw [List.append_nil] at htake hdrop
  unfold Numeral.ofChars?
  split
  next negative unsigned hsplit =>
  have hparts : negative = false ∧ unsigned = digits := by
    split at hsplit
    · next rest => exact absurd rfl (hsign rest)
    · simpa [eq_comm] using hsplit
  obtain ⟨rfl, rfl⟩ := hparts
  rw [htake, hdrop, if_neg]
  · rfl
  · simp only [Bool.or_eq_true, List.isEmpty_iff, Bool.and_eq_true, decide_eq_true_eq, not_or]
    exact ⟨hne, fun h => h.2 (hzero h.1)⟩

/-- A number below `2 ^ 64` is read back from its digits. -/
theorem bareToken_toDigits {n : Nat} (h : n < UInt64.size) :
    bareToken (Nat.toDigits 10 n) = .number (.whole n) := by
  have hdigits := Text.all_isDigit_toDigits n
  have hword : ∀ word : String, word.toList.all Char.isDigit = false →
      Nat.toDigits 10 n ≠ word.toList := by
    intro word hword heq
    rw [heq, hword] at hdigits
    cases hdigits
  have hzero : (Nat.toDigits 10 n).head? = some '0' → (Nat.toDigits 10 n).length = 1 := by
    intro hhead
    rw [Text.eq_zero_of_head?_toDigits hhead]
    rfl
  have hnumeral := ofChars?_of_digits hdigits Nat.toDigits_ne_nil hzero
  have hvalue : Number.ofChars? (Nat.toDigits 10 n) = some (.whole n) := by
    have hlt : (n : Int) < (UInt64.size : Nat) := by omega
    have hwhole : Numeral.value? ⟨false, Nat.toDigits 10 n, none, none⟩ = some (.whole n) := by
      unfold Numeral.value?
      dsimp only
      rw [Text.digitsValue_toDigits, if_neg Bool.false_ne_true, if_pos hlt]
    rw [Number.ofChars?, hnumeral, Option.bind_eq_bind, Option.bind_some, hwhole]
  rw [bareToken, if_neg (hword "null" (by decide)), if_neg (hword "true" (by decide)),
    if_neg (hword "false" (by decide)), hvalue]

theorem isBare_of_isDigit {c : Char} (h : c.isDigit) : isBare c := by
  simp [isBare, Char.isAlphanum, h]

theorem lex_number {n : Number} (hn : n.Plain) {text : List Char} (h : Apart text) :
    lex .none (n.write ++ text) = .number n :: lex .none text := by
  cases n with
  | double bits => exact hn.elim
  | whole n =>
    obtain ⟨n, rfl⟩ := Int.eq_ofNat_of_zero_le hn.1
    have hlt : n < UInt64.size := Int.ofNat_lt.mp hn.2
    have hdigits : (Number.whole (n : Int)).write = Nat.toDigits 10 n := by
      show (toString n).toList = _
      rw [Nat.toString_eq_ofList_toDigits, String.toList_ofList]
    have hbare : (Nat.toDigits 10 n).all isBare := List.all_eq_true.mpr fun c hc =>
      isBare_of_isDigit (List.all_eq_true.mp (Text.all_isDigit_toDigits n) c hc)
    rw [hdigits, lex_word Nat.toDigits_ne_nil hbare h, bareToken_toDigits hlt]

/-! ### Both forms -/

theorem lex_bool (b : Bool) {text : List Char} (h : Apart text) :
    lex .none ((toString b).toList ++ text) = .bool b :: lex .none text := by
  cases b with
  | false => exact lex_word (by decide) (by decide) h
  | true => exact lex_word (by decide) (by decide) h

theorem lex_null {text : List Char} (h : Apart text) :
    lex .none ("null".toList ++ text) = .null :: lex .none text :=
  lex_word (by decide) (by decide) h

mutual

theorem lex_write : ∀ {json : Json}, json.Plain → ∀ (text : List Char), Apart text →
    lex .none (write json ++ text) = tokensOf json ++ lex .none text
  | .null, _, _, h => lex_null h
  | .bool b, _, _, h => lex_bool b h
  | .number _, plain, _, h => lex_number plain h
  | .string s, _, _, _ => lex_quote s _
  | .array items, plain, text, _ => by
    rw [write, List.cons_append, List.cons_append, List.append_assoc, List.singleton_append,
      lex_openArray, lex_writeItems plain, tokensOf]
    simp
  | .object fields, plain, text, _ => by
    rw [write, List.cons_append, List.cons_append, List.append_assoc, List.singleton_append,
      lex_openObject, lex_writeFields plain, tokensOf]
    simp

theorem lex_writeItems : ∀ {items : List Json}, PlainItems items → ∀ (text : List Char),
    lex .none (writeItems items ++ ']' :: text)
      = itemTokens items ++ .closeArray :: lex .none text
  | [], _, _ => lex_closeArray _
  | [item], plain, text => by
    rw [writeItems, lex_write plain.1, lex_closeArray, itemTokens, laterItems, List.append_nil]
    rfl
  | item :: next :: items, plain, text => by
    have hrest := lex_writeItems plain.2 text
    rw [writeItems, List.append_assoc, List.cons_append, lex_write plain.1, lex_comma, hrest,
      itemTokens, itemTokens, laterItems]
    · simp
    · rfl
    · exact List.cons_ne_nil _ _

theorem lex_writeFields : ∀ {fields : List (String × Json)}, PlainFields fields →
    ∀ (text : List Char), lex .none (writeFields fields ++ '\x7d' :: text)
      = fieldTokens fields ++ .closeObject :: lex .none text
  | [], _, _ => lex_closeObject _
  | [(key, value)], plain, text => by
    rw [writeFields, List.append_assoc, lex_quote, List.cons_append, lex_colon, lex_write plain.1,
      lex_closeObject, fieldTokens, laterFields, List.append_nil]
    · rfl
    · rfl
  | (key, value) :: next :: fields, plain, text => by
    have hrest := lex_writeFields plain.2 text
    have hwrite : writeFields ((key, value) :: next :: fields) ++ '\x7d' :: text
        = quote key ++ ':' :: (write value ++ ',' :: (writeFields (next :: fields)
          ++ '\x7d' :: text)) := by
      simp [writeFields]
    rw [hwrite, lex_quote, lex_colon, lex_write plain.1, lex_comma, hrest, fieldTokens,
      fieldTokens, laterFields]
    · simp
    · rfl

end

theorem apart_newline (level : Nat) (text : List Char) : Apart (newline level ++ text) := rfl

theorem apart_writeIndentedItems (level : Nat) (items : List Json) {text : List Char}
    (h : Apart text) : Apart (writeIndentedItems level items ++ text) := by
  cases items with
  | nil => exact h
  | cons item items => rfl

theorem apart_writeIndentedFields (level : Nat) (fields : List (String × Json)) {text : List Char}
    (h : Apart text) : Apart (writeIndentedFields level fields ++ text) := by
  cases fields with
  | nil => exact h
  | cons field fields => rfl

mutual

theorem lex_writeIndented (level : Nat) : ∀ {json : Json}, json.Plain → ∀ (text : List Char),
    Apart text → lex .none (writeIndented level json ++ text) = tokensOf json ++ lex .none text
  | .null, _, _, h => lex_null h
  | .bool b, _, _, h => lex_bool b h
  | .number _, plain, _, h => lex_number plain h
  | .string s, _, _, _ => lex_quote s _
  | .array [], _, text, _ => by
    show lex .none ('[' :: ']' :: text) = _
    rw [lex_openArray, lex_closeArray]
    rfl
  | .array (item :: items), plain, text, _ => by
    have hwrite : writeIndented level (.array (item :: items)) ++ text
        = '[' :: (newline (level + 1) ++ (writeIndented (level + 1) item
          ++ (writeIndentedItems (level + 1) items ++ (newline level ++ ']' :: text)))) := by
      simp [writeIndented]
    rw [hwrite, lex_openArray, lex_newline, lex_writeIndented _ plain.1,
      lex_writeIndentedItems _ plain.2, lex_newline, lex_closeArray, tokensOf, itemTokens]
    · simp
    · exact apart_newline _ _
    · exact apart_writeIndentedItems _ _ (apart_newline _ _)
  | .object [], _, text, _ => by
    show lex .none ('\x7b' :: '\x7d' :: text) = _
    rw [lex_openObject, lex_closeObject]
    rfl
  | .object ((key, value) :: fields), plain, text, _ => by
    have hwrite : writeIndented level (.object ((key, value) :: fields)) ++ text
        = '\x7b' :: (newline (level + 1) ++ (quote key ++ ':' :: ' ' ::
          (writeIndented (level + 1) value ++ (writeIndentedFields (level + 1) fields
            ++ (newline level ++ '\x7d' :: text))))) := by
      simp [writeIndented]
    rw [hwrite, lex_openObject, lex_newline, lex_quote, lex_colon, lex_space rfl,
      lex_writeIndented _ plain.1, lex_writeIndentedFields _ plain.2, lex_newline, lex_closeObject,
      tokensOf, fieldTokens]
    · simp
    · exact apart_newline _ _
    · exact apart_writeIndentedFields _ _ (apart_newline _ _)

theorem lex_writeIndentedItems (level : Nat) : ∀ {items : List Json}, PlainItems items →
    ∀ (text : List Char), Apart text → lex .none (writeIndentedItems level items ++ text)
      = laterItems items ++ lex .none text
  | [], _, _, _ => rfl
  | item :: items, plain, text, h => by
    have hwrite : writeIndentedItems level (item :: items) ++ text
        = ',' :: (newline level ++ (writeIndented level item
          ++ (writeIndentedItems level items ++ text))) := by
      simp [writeIndentedItems]
    rw [hwrite, lex_comma, lex_newline, lex_writeIndented _ plain.1,
      lex_writeIndentedItems _ plain.2 _ h, laterItems]
    · simp
    · exact apart_writeIndentedItems _ _ h

theorem lex_writeIndentedFields (level : Nat) : ∀ {fields : List (String × Json)},
    PlainFields fields → ∀ (text : List Char), Apart text →
    lex .none (writeIndentedFields level fields ++ text)
      = laterFields fields ++ lex .none text
  | [], _, _, _ => rfl
  | (key, value) :: fields, plain, text, h => by
    have hwrite : writeIndentedFields level ((key, value) :: fields) ++ text
        = ',' :: (newline level ++ (quote key ++ ':' :: ' ' :: (writeIndented level value
          ++ (writeIndentedFields level fields ++ text)))) := by
      simp [writeIndentedFields]
    rw [hwrite, lex_comma, lex_newline, lex_quote, lex_colon, lex_space rfl,
      lex_writeIndented _ plain.1, lex_writeIndentedFields _ plain.2 _ h, laterFields]
    · simp
    · exact apart_writeIndentedFields _ _ h

end

/-- **The compact form consists of the tokens of the value.** -/
theorem tokens_compact {json : Json} (plain : json.Plain) :
    tokens json.compact = tokensOf json := by
  have htokens := lex_write plain [] rfl
  rw [List.append_nil, lex, List.append_nil] at htokens
  rw [tokens, compact, String.toList_ofList, htokens]

/-- **The indented form consists of the tokens of the value.** -/
theorem tokens_indented {json : Json} (plain : json.Plain) :
    tokens json.indented = tokensOf json := by
  have htokens := lex_writeIndented 0 plain [] rfl
  rw [List.append_nil, lex, List.append_nil] at htokens
  rw [tokens, indented, String.toList_ofList, htokens]

end ServerMigration.Json
