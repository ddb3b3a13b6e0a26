import ScopedWork.Setting.Fixed
import Mathlib.Data.List.TakeWhile

/-! # Which texts are read as a number

A concurrency is given as a text. The texts that are accepted are the decimal numerals below the bound of a machine
word, with white space around them, one plus sign, and zeros before them as one likes. Reading goes digit by digit
and stops at the bound; since further digits never make a number smaller, it stops exactly at the numerals that are
too large, however many zeros they begin with.
-/

namespace ScopedWork

open Setting (Config Refusal appendDigits? readConcurrency readDigits? readUnsigned? readWord? variableName wordBound)

/-! ## White space -/

namespace Text

/-- The code points with the property `White_Space`, one by one. -/
def whiteSpace : List Nat :=
  [0x9, 0xa, 0xb, 0xc, 0xd, 0x20, 0x85, 0xa0, 0x1680, 0x2000, 0x2001, 0x2002, 0x2003, 0x2004, 0x2005, 0x2006, 0x2007,
    0x2008, 0x2009, 0x200a, 0x2028, 0x2029, 0x202f, 0x205f, 0x3000]

/-- A character with the property `White_Space`. -/
def IsWhiteSpace (c : Char) : Prop :=
  c.toNat ∈ whiteSpace

/-- A walk over ascending ranges that stops early finds whatever one of them holds. -/
theorem holds_iff {ranges : Ranges} (ascending : ranges.Pairwise fun range later => range.1 ≤ later.1) (n : Nat) :
    ranges.holds n = true ↔ ∃ range ∈ ranges, range.1 ≤ n ∧ n ≤ range.2 := by
  induction ranges with
  | nil => simp only [Ranges.holds, Bool.false_eq_true, List.not_mem_nil, false_and, exists_false]
  | cons range rest ih =>
    obtain ⟨low, high⟩ := range
    obtain ⟨lowest, ascending⟩ := List.pairwise_cons.mp ascending
    simp only [Ranges.holds, List.mem_cons, exists_eq_or_imp, ← ih ascending]
    split_ifs with below
    · have beyond : ¬ Ranges.holds rest n = true := by
        rw [ih ascending]
        rintro ⟨later, member, start, -⟩
        exact absurd (Nat.le_trans (lowest later member) start) (Nat.not_le.mpr below)
      simp only [Bool.false_eq_true, beyond, or_false, Nat.not_le.mpr below, false_and]
    · rw [Bool.or_eq_true, decide_eq_true_eq, and_iff_right (Nat.not_lt.mp below)]

theorem isBlank_iff (c : Char) : isBlank c = true ↔ IsWhiteSpace c := by
  have ascending : blanks.Pairwise fun range later => range.1 ≤ later.1 := by decide
  rw [isBlank, holds_iff ascending, IsWhiteSpace]
  simp only [blanks, whiteSpace, List.mem_cons, List.not_mem_nil, or_false, exists_eq_or_imp, exists_eq_left]
  omega

theorem isBlank_eq_false_iff (c : Char) : isBlank c = false ↔ ¬ IsWhiteSpace c := by
  rw [← isBlank_iff, Bool.not_eq_true]

/-- `core` is the text without the white space at either end. -/
def IsCore (text core : List Char) : Prop :=
  ∃ before after, text = before ++ core ++ after ∧ (∀ c ∈ before ++ after, IsWhiteSpace c) ∧
    (∀ c ∈ core.head?, ¬ IsWhiteSpace c) ∧ ∀ c ∈ core.getLast?, ¬ IsWhiteSpace c

/-- What is dropped is a beginning of blanks, and what is left does not begin with one. -/
theorem split_dropWhile (text : List Char) : ∃ blank, text = blank ++ text.dropWhile isBlank ∧
    (∀ c ∈ blank, IsWhiteSpace c) ∧ ∀ c ∈ (text.dropWhile isBlank).head?, ¬ IsWhiteSpace c := by
  refine ⟨text.takeWhile isBlank, List.takeWhile_append_dropWhile.symm, fun c member => ?_, fun c first => ?_⟩
  · exact (isBlank_iff c).mp (List.mem_takeWhile_imp member)
  · have stopped := List.head?_dropWhile_not isBlank text
    rw [Option.mem_def.mp first] at stopped
    exact (isBlank_eq_false_iff c).mp stopped

theorem dropWhile_append {blank rest : List Char} (dropped : ∀ c ∈ blank, IsWhiteSpace c)
    (stops : ∀ c ∈ rest.head?, ¬ IsWhiteSpace c) : (blank ++ rest).dropWhile isBlank = rest := by
  rw [List.dropWhile_append_of_pos fun c member => (isBlank_iff c).mpr (dropped c member)]
  cases rest with
  | nil => rfl
  | cons c rest => exact List.dropWhile_cons_of_neg fun blank => stops c rfl ((isBlank_iff c).mp blank)

theorem isCore_trim (text : List Char) : IsCore text (trim text) := by
  obtain ⟨before, split, leading, first⟩ := split_dropWhile text
  obtain ⟨after, ended, trailing, last⟩ := split_dropWhile (text.dropWhile isBlank).reverse
  have rest : text.dropWhile isBlank = trim text ++ after.reverse := by
    rw [← List.reverse_reverse (text.dropWhile isBlank), ended, List.reverse_append, trim]
  refine ⟨before, after.reverse, ?_, fun c member => ?_, fun c begins => ?_, fun c ends => ?_⟩
  · rw [List.append_assoc, ← rest]
    exact split
  · obtain member | member := List.mem_append.mp member
    · exact leading c member
    · exact trailing c (List.mem_reverse.mp member)
  · refine first c ?_
    rw [rest, List.head?_append, Option.mem_def.mp begins]
    rfl
  · rw [trim, List.getLast?_reverse] at ends
    exact last c ends

theorem trim_eq_of_isCore {text core : List Char} (isCore : IsCore text core) : trim text = core := by
  obtain ⟨before, after, rfl, blank, first, last⟩ := isCore
  have leading : ∀ c ∈ before, IsWhiteSpace c := fun c member => blank c (List.mem_append_left _ member)
  have trailing : ∀ c ∈ after, IsWhiteSpace c := fun c member => blank c (List.mem_append_right _ member)
  cases core with
  | nil =>
    have all : (before ++ [] ++ after).dropWhile isBlank = [] := by
      rw [List.append_nil, List.dropWhile_eq_nil_iff]
      exact fun c member => (isBlank_iff c).mpr (blank c member)
    rw [trim, all]
    rfl
  | cons c rest =>
    have begun : (before ++ (c :: rest) ++ after).dropWhile isBlank = (c :: rest) ++ after := by
      rw [List.append_assoc]
      exact dropWhile_append leading first
    have ended : (after.reverse ++ (c :: rest).reverse).dropWhile isBlank = (c :: rest).reverse := by
      refine dropWhile_append (fun c member => trailing c (List.mem_reverse.mp member)) ?_
      rw [List.head?_reverse]
      exact last
    rw [trim, begun, List.reverse_append, ended, List.reverse_reverse]

/-- The text without its outer blanks is the one part of it that neither begins nor ends with one and leaves nothing
but blanks on either side. -/
theorem trim_eq_iff {text core : List Char} : trim text = core ↔ IsCore text core :=
  ⟨fun same => same ▸ isCore_trim text, trim_eq_of_isCore⟩

theorem IsCore.unique {text core other : List Char} (isCore : IsCore text core) (again : IsCore text other) :
    core = other :=
  (trim_eq_of_isCore isCore).symm.trans (trim_eq_of_isCore again)

end Text

/-! ## Digits -/

open Text (IsCore IsWhiteSpace)

/-- A word spells a number if it is decimal digits, with one plus sign before them or none. -/
def Spells (word : List Char) (value : Nat) : Prop :=
  ∃ digits, (word = digits ∨ word = '+' :: digits) ∧ digits ≠ [] ∧ (∀ c ∈ digits, c.isDigit = true) ∧
    Nat.ofDigitChars 10 digits 0 = value

/-- A text is a numeral of a number if, but for the white space at either end, it spells it. -/
def IsNumeral (text : String) (value : Nat) : Prop :=
  ∃ word, IsCore text.toList word ∧ Spells word value

theorem digit?_eq (c : Char) : Setting.digit? c = if c.isDigit = true then some (c.toNat - '0'.toNat) else none :=
  if_congr (by rw [Char.isDigit_iff_toNat]; exact Iff.rfl) rfl rfl

/-- Further digits never make a number smaller. -/
theorem le_ofDigitChars (digits : List Char) (value : Nat) : value ≤ Nat.ofDigitChars 10 digits value := by
  rw [Nat.ofDigitChars_eq_ofDigitChars_zero]
  exact Nat.le_add_right_of_le (Nat.le_mul_of_pos_left value (Nat.pow_pos (Nat.succ_pos 9)))

/-- Digits are appended to a value as long as the whole of them fits. -/
theorem appendDigits?_eq_some {value : Nat} (fits : value < wordBound) (digits : List Char) (n : Nat) :
    appendDigits? value digits = some n ↔
      (∀ c ∈ digits, c.isDigit = true) ∧ Nat.ofDigitChars 10 digits value = n ∧ n < wordBound := by
  induction digits generalizing value with
  | nil =>
    rw [appendDigits?, Nat.ofDigitChars_nil, Option.some_inj]
    exact ⟨fun same => ⟨fun _ => (absurd · List.not_mem_nil), same, same ▸ fits⟩, fun all => all.2.1⟩
  | cons c digits ih =>
    rw [appendDigits?, digit?_eq, List.forall_mem_cons, Nat.ofDigitChars_cons, Nat.mul_comm 10 value]
    by_cases digit : c.isDigit = true
    · simp only [digit, ↓reduceIte, true_and]
      split_ifs with more
      · exact ih more
      · -- the bound has been reached, and no digit that follows leads back below it
        have large := Nat.le_trans (Nat.not_lt.mp more) (le_ofDigitChars digits _)
        simp only [false_iff, not_and]
        rintro - rfl
        exact Nat.not_lt.mpr large
    · simp only [digit, ↓reduceIte, Bool.false_eq_true, reduceCtorEq, false_and]

theorem readDigits?_eq_some (digits : List Char) (n : Nat) : readDigits? digits = some n ↔
    digits ≠ [] ∧ (∀ c ∈ digits, c.isDigit = true) ∧ Nat.ofDigitChars 10 digits 0 = n ∧ n < wordBound := by
  have fits : 0 < wordBound := by decide
  cases digits with
  | nil => simp only [readDigits?, reduceCtorEq, ne_eq, not_true_eq_false, false_and]
  | cons c digits =>
    rw [readDigits?, appendDigits?_eq_some fits, and_iff_right (List.cons_ne_nil c digits)]
    exact List.cons_ne_nil c digits

theorem readUnsigned?_eq_some (word : List Char) (n : Nat) :
    readUnsigned? word = some n ↔ Spells word n ∧ n < wordBound := by
  have plus : '+'.isDigit = false := by decide
  fun_cases readUnsigned? word with
  | case1 digits =>
    rw [readDigits?_eq_some]
    constructor
    · rintro ⟨nonempty, all, value, fits⟩
      exact ⟨⟨digits, .inr rfl, nonempty, all, value⟩, fits⟩
    · rintro ⟨⟨other, rfl | same, nonempty, all, value⟩, fits⟩
      · exact absurd (all '+' List.mem_cons_self) (Bool.eq_false_iff.mp plus)
      · rw [(List.cons.inj same).2]
        exact ⟨nonempty, all, value, fits⟩
  | case2 _ unsigned =>
    rw [readDigits?_eq_some]
    constructor
    · rintro ⟨nonempty, all, value, fits⟩
      exact ⟨⟨word, .inl rfl, nonempty, all, value⟩, fits⟩
    · rintro ⟨⟨digits, rfl | same, nonempty, all, value⟩, fits⟩
      · exact ⟨nonempty, all, value, fits⟩
      · exact absurd same (unsigned digits)

theorem readWord?_eq_some (text : String) (n : Nat) :
    readWord? text = some n ↔ IsNumeral text n ∧ n < wordBound := by
  rw [readWord?, readUnsigned?_eq_some]
  constructor
  · rintro ⟨spells, fits⟩
    exact ⟨⟨_, Text.isCore_trim text.toList, spells⟩, fits⟩
  · rintro ⟨⟨word, isCore, spells⟩, fits⟩
    rw [Text.trim_eq_iff.mpr isCore]
    exact ⟨spells, fits⟩

/-! ## What a numeral is made of -/

section Numerals

variable {text : String} {before after word : List Char} {value other : Nat}

theorem not_isWhiteSpace_of_isDigit {c : Char} (digit : c.isDigit = true) : ¬ IsWhiteSpace c := by
  obtain ⟨least, most⟩ := Char.isDigit_iff_toNat.mp digit
  have low : 48 ≤ c.toNat := least
  have high : c.toNat ≤ 57 := most
  simp only [IsWhiteSpace, Text.whiteSpace, List.mem_cons, List.not_mem_nil, or_false]
  omega

theorem Spells.letters (spells : Spells word value) : ∀ c ∈ word, c.isDigit = true ∨ c = '+' := by
  obtain ⟨digits, rfl | rfl, -, all, -⟩ := spells
  · exact fun c member => .inl (all c member)
  · exact fun c member => (List.mem_cons.mp member).elim .inr fun member => .inl (all c member)

theorem Spells.exists_digit (spells : Spells word value) : ∃ c ∈ word, c.isDigit = true := by
  obtain ⟨digits, signed, nonempty, all, -⟩ := spells
  obtain ⟨c, member⟩ := List.exists_mem_of_ne_nil digits nonempty
  obtain rfl | rfl := signed
  · exact ⟨c, member, all c member⟩
  · exact ⟨c, List.mem_cons_of_mem _ member, all c member⟩

theorem Spells.unique (spells : Spells word value) (again : Spells word other) : value = other := by
  have plus {digits : List Char} : ¬ ∀ c ∈ '+' :: digits, c.isDigit = true :=
    fun all => absurd (all '+' List.mem_cons_self) (by decide)
  obtain ⟨digits, same, -, all, rfl⟩ := spells
  obtain ⟨others, same', -, all', rfl⟩ := again
  obtain rfl | rfl := same
  · obtain rfl | rfl := same'
    · rfl
    · exact absurd all plus
  · obtain rfl | same' := same'
    · exact absurd all' plus
    · rw [(List.cons.inj same').2]

theorem IsNumeral.spells (numeral : IsNumeral text value) (isCore : IsCore text.toList word) : Spells word value := by
  obtain ⟨other, isCore', spells⟩ := numeral
  exact isCore.unique isCore' ▸ spells

/-- Every text is a numeral of one number at most. -/
theorem IsNumeral.unique (numeral : IsNumeral text value) (again : IsNumeral text other) : value = other := by
  obtain ⟨word, isCore, spells⟩ := numeral
  exact spells.unique (again.spells isCore)

/-- White space around a word that spells a number is no part of it. -/
theorem Spells.isCore (spells : Spells word value) (blank : ∀ c ∈ before ++ after, IsWhiteSpace c) :
    IsCore (before ++ word ++ after) word := by
  have visible : ∀ c ∈ word, ¬ IsWhiteSpace c := by
    intro c member
    obtain digit | rfl := spells.letters c member
    · exact not_isWhiteSpace_of_isDigit digit
    · rw [IsWhiteSpace]
      decide
  exact ⟨before, after, rfl, blank, fun c first => visible c (List.mem_of_head? first),
    fun c last => visible c (List.mem_of_getLast? last)⟩

/-- The decimal text of a number spells it, also with zeros and a plus sign before it. -/
theorem spells_toString (zeros value : Nat) {sign : List Char} (signed : sign = [] ∨ sign = ['+']) :
    Spells (sign ++ List.replicate zeros '0' ++ (toString value).toList) value := by
  rw [Nat.toString_eq_ofList_toDigits, String.toList_ofList]
  refine ⟨List.replicate zeros '0' ++ Nat.toDigits 10 value, ?_, ?_, fun c member => ?_, ?_⟩
  · obtain rfl | rfl := signed
    · exact .inl rfl
    · exact .inr rfl
  · exact List.append_ne_nil_of_right_ne_nil _ Nat.toDigits_ne_nil
  · obtain zero | member := List.mem_append.mp member
    · rw [List.eq_of_mem_replicate zero]
      decide
    · exact Nat.isDigit_of_mem_toDigits (by decide) (by decide) member
  · rw [Nat.ofDigitChars_append, Nat.ofDigitChars_replicate_zero, Nat.mul_zero, Nat.ofDigitChars_ten_toDigits]

end Numerals

/-! ## Reading a concurrency -/

/-- The text is refused, and quoted as it was given. -/
def IsRefused (text : String) : Prop :=
  readConcurrency text = .error (.notANumber variableName text)

theorem readConcurrency_eq_ok (text : String) (value : Nat) :
    readConcurrency text = .ok value ↔ IsNumeral text value ∧ value < wordBound := by
  rw [← readWord?_eq_some, readConcurrency]
  cases readWord? text with
  | none => exact ⟨nofun, nofun⟩
  | some word => exact ⟨fun same => congrArg some (Except.ok.inj same),
    fun same => congrArg _ (Option.some.inj same)⟩

/-- What is not accepted is refused. -/
theorem isRefused_of {text : String} (never : ∀ value < wordBound, ¬ IsNumeral text value) : IsRefused text := by
  rw [IsRefused, readConcurrency]
  cases read : readWord? text with
  | none => rfl
  | some value =>
    obtain ⟨numeral, fits⟩ := (readWord?_eq_some text value).mp read
    exact absurd numeral (never value fits)

/-- How a text is read as a concurrency, by itself and where the environment gives it. -/
structure ReadsNumeral (text : String) : Prop where
  /-- Accepted are the numerals of what a machine word can hold, as the number they spell. -/
  accepts (value : Nat) : readConcurrency text = .ok value ↔ IsNumeral text value ∧ value ≤ Nat.pow 2 64 - 1
  /-- All other texts are refused. -/
  refuses : (∀ value ≤ Nat.pow 2 64 - 1, ¬ IsNumeral text value) → IsRefused text
  /-- A number that is too large is not read as another. -/
  tooLarge {value : Nat} : IsNumeral text value → Nat.pow 2 64 ≤ value → IsRefused text
  /-- A text with anything but digits and plus signs in it is refused, be it a minus sign, a blank or a digit of another
  script. -/
  foreign {word : List Char} {c : Char} : IsCore text.toList word → c ∈ word → c.isDigit = false → c ≠ '+' →
    IsRefused text
  /-- A text without a digit is refused, such as the empty one, blanks or a sign alone. -/
  digitless {word : List Char} : IsCore text.toList word → (∀ c ∈ word, c.isDigit = false) → IsRefused text
  /-- The decimal text of a number is read back as it, with whatever may stand around it. -/
  padded {before sign after : List Char} {zeros value : Nat} :
    text.toList = before ++ (sign ++ List.replicate zeros '0' ++ (toString value).toList) ++ after →
      (∀ c ∈ before ++ after, IsWhiteSpace c) → sign = [] ∨ sign = ['+'] → value < Nat.pow 2 64 →
        readConcurrency text = .ok value
  /-- The number is the concurrency of a process whose environment gives the text, up to the limit. -/
  settles {value : Nat} (process : Setting.State) : process.environment = some text →
    readConcurrency text = .ok value →
      ∃ config, process.fromEnvironment = .ok config ∧ config.effective process.hardware = min value 65536
  /-- A process whose environment gives a refused text is told so. -/
  reports (process : Setting.State) : process.environment = some text → IsRefused text →
    process.fromEnvironment = .error (.notANumber variableName text)

/-- Every text is read as the number that it is a numeral of, up to the bound of a machine word, and refused if there is
no such number. -/
theorem numerals_read (text : String) : ReadsNumeral text := by
  have bound (value : Nat) : value ≤ Nat.pow 2 64 - 1 ↔ value < wordBound := Nat.lt_succ_iff.symm
  have alone {word : List Char} (isCore : IsCore text.toList word) (wrong : ∀ value, ¬ Spells word value) :
      IsRefused text :=
    isRefused_of fun value _ numeral => wrong value (numeral.spells isCore)
  constructor
  case accepts =>
    intro value
    rw [bound]
    exact readConcurrency_eq_ok text value
  case refuses => exact fun never => isRefused_of fun value fits => never value ((bound value).mpr fits)
  case tooLarge =>
    intro value numeral large
    refine isRefused_of fun other fits numeral' => ?_
    obtain rfl := numeral.unique numeral'
    exact absurd fits (Nat.not_lt.mpr large)
  case foreign =>
    intro word c isCore member noDigit noSign
    refine alone isCore fun value spells => ?_
    exact (spells.letters c member).elim (fun digit => absurd (noDigit.symm.trans digit) Bool.false_ne_true) noSign
  case digitless =>
    intro word isCore none
    refine alone isCore fun value spells => ?_
    obtain ⟨c, member, digit⟩ := spells.exists_digit
    exact absurd ((none c member).symm.trans digit) Bool.false_ne_true
  case padded =>
    intro before sign after zeros value split blank signed fits
    have spells := spells_toString zeros value signed
    refine (readConcurrency_eq_ok text value).mpr ⟨⟨_, ?_, spells⟩, fits⟩
    rw [split]
    exact spells.isCore blank
  case settles =>
    intro value process given accepted
    refine ⟨{ concurrency := some value }, ?_, rfl⟩
    simp only [Setting.State.fromEnvironment, given, accepted]
  case reports =>
    intro process given refused
    rw [IsRefused] at refused
    simp only [Setting.State.fromEnvironment, given, refused]

example : readConcurrency "\t+0012 " = .ok 12 := by decide

end ScopedWork
